import RuleElements.Proofs.Library.Document

/-!
# The index of a folder

Whatever the files of a folder are and however the documents are spread over them, the sources are
loaded if every document describes one and no identifier comes twice. The index then has one entry
for each document, in the order of the files and of the documents in them. Each entry is found under
its identifier, so several of them can be asked for in any order and more than once.

Main definitions:
* `SourceIndex.Resolves`: what is answered when sources are asked for.

Results:
* `Disk.sources_eq_ok_iff`: the sources in files are those that their documents describe.
* `SourceIndex.find?_eq_some_iff`: an entry is found under its identifier.
* `SourceIndex.resolves_resolve`: sources that are asked for are answered one by one.
* `SourceIndex.load_complete`: when an index is loaded, and what it holds.
-/

namespace RuleElements

/-- The sources in a file that holds documents are theirs. -/
theorem File.Holds.sources {f : File} {docs : List Data} (h : f.Holds docs) :
    f.sources = docs.mapM RuleSource.ofDocument := by
  unfold File.sources
  rw [h.documents]
  rfl

/-- **The sources in files** are those that the documents describe, file by file and document by
document. -/
theorem Disk.sources_eq_ok_iff {disk : Disk} {path : Path} {docs : List (List Data)}
    (h : List.Forall₂ File.Holds (disk.sourceFiles path) docs) {sources : List RuleSource} :
    disk.sources path = .ok sources ↔ List.Forall₂ Data.Describes docs.flatten sources := by
  unfold Disk.sources
  rw [Faulting.mapM_congr_forall₂ (h.imp fun _ _ => File.Holds.sources), Faulting.map_eq_ok,
    ← Faulting.mapM_flatten_eq_ok, Faulting.mapM_eq_ok_iff_forall₂]
  simp only [RuleSource.ofDocument_eq_ok_iff]

namespace SourceIndex

variable {index : SourceIndex} {ids : List String}

/-! ## Look-up -/

/-- What is found under an identifier is an entry with it. -/
theorem mem_and_id_eq_of_find? {id : String} {s : RuleSource} (h : index.find? id = some s) :
    s ∈ index.sources ∧ s.id = id := by
  unfold find? at h
  have hid := List.find?_some h
  exact ⟨List.mem_of_find?_eq_some h, beq_iff_eq.mp hid⟩

/-- **An entry is found under its identifier** if no other entry has it. -/
theorem find?_eq_some_iff (hids : index.ids.Nodup) {id : String} {s : RuleSource} :
    index.find? id = some s ↔ s ∈ index.sources ∧ s.id = id := by
  refine ⟨mem_and_id_eq_of_find?, ?_⟩
  rintro ⟨hs, rfl⟩
  have hsome := isSome_find?_iff.mpr (List.mem_map_of_mem hs : s.id ∈ index.ids)
  obtain ⟨found, hfound⟩ := Option.isSome_iff_exists.mp hsome
  obtain ⟨hmem, hid⟩ := mem_and_id_eq_of_find? hfound
  rw [hfound, List.inj_on_of_nodup_map hids hmem hs hid]

theorem isNone_find?_iff {id : String} : (index.find? id).isNone = true ↔ id ∉ index.ids := by
  rw [← isSome_find?_iff, Option.isNone_iff_eq_none, Option.not_isSome_iff_eq_none]

/-- **What is answered when sources are asked for**: one source for each identifier, in order, or a
failure that names the identifiers that no source has. -/
inductive Resolves (index : SourceIndex) (ids : List String) :
    Except Fault (List RuleSource) → Prop
  | found {sources : List RuleSource}
    (h : List.Forall₂ (fun id s => s ∈ index.sources ∧ s.id = id) ids sources) :
    Resolves index ids (.ok sources)
  | missing (habsent : ∃ id ∈ ids, id ∉ index.ids) :
    Resolves index ids (.error (.missingKey
      ("Unknown source id(s): " ++ ", ".intercalate (ids.filter fun id => id ∉ index.ids))))

/-- Sources that are all there are found one by one. -/
theorem forall₂_filterMap_find? : ∀ {ids : List String}, (∀ id ∈ ids, id ∈ index.ids) →
    List.Forall₂ (fun id s => s ∈ index.sources ∧ s.id = id) ids (ids.filterMap index.find?)
  | [], _ => .nil
  | id :: ids, h => by
    obtain ⟨hid, hrest⟩ := List.forall_mem_cons.mp h
    obtain ⟨s, hs⟩ := Option.isSome_iff_exists.mp (isSome_find?_iff.mpr hid)
    rw [List.filterMap_cons_some hs]
    exact .cons (mem_and_id_eq_of_find? hs) (forall₂_filterMap_find? hrest)

theorem resolves_resolve (index : SourceIndex) (ids : List String) :
    index.Resolves ids (index.resolve ids) := by
  have hmissing : (ids.filter fun id => (index.find? id).isNone) =
      ids.filter fun id => id ∉ index.ids :=
    List.filter_congr fun id _ => Bool.eq_iff_iff.mpr (isNone_find?_iff.trans (by simp))
  unfold resolve
  rw [hmissing]
  cases habsent : ids.filter fun id => id ∉ index.ids with
  | nil =>
    have hall : ∀ id ∈ ids, id ∈ index.ids := by simpa [List.filter_eq_nil_iff] using habsent
    exact .found (forall₂_filterMap_find? hall)
  | cons first rest =>
    have hfirst : first ∈ ids.filter fun id => id ∉ index.ids := habsent ▸ List.mem_cons_self
    have hmissing : ∃ id ∈ ids, id ∉ index.ids := ⟨first, by simpa using hfirst⟩
    show index.Resolves ids (.error (.missingKey
      ("Unknown source id(s): " ++ ", ".intercalate (first :: rest))))
    rw [← habsent]
    exact .missing hmissing

/-! ## The index -/

/-- **The index is complete and unambiguous.** Let the files at a path hold documents, however they
are spread over them. The sources are loaded exactly if each document describes one and all their
identifiers differ. The index then has one entry for each document, in the order of the files and of
the documents in a file; an entry is what is found under its identifier; and whatever sources are
asked for are answered one by one, unless some are not there, which are named. -/
theorem load_complete {disk : Disk} {path : Path} {docs : List (List Data)}
    (hfiles : List.Forall₂ File.Holds (disk.sourceFiles path) docs) :
    ((∃ index, load disk path = .ok index) ↔
      ∃ sources, List.Forall₂ Data.Describes docs.flatten sources ∧
        (sources.map (·.id)).Nodup) ∧
    ∀ index, load disk path = .ok index →
      List.Forall₂ Data.Describes docs.flatten index.sources ∧
      (index.sources.map (·.id)).Nodup ∧
      (∀ id s, index.find? id = some s ↔ s ∈ index.sources ∧ s.id = id) ∧
      ∀ ids, index.Resolves ids (index.resolve ids) := by
  have hload : ∀ index : SourceIndex, load disk path = .ok index ↔
      List.Forall₂ Data.Describes docs.flatten index.sources ∧ index.ids.Nodup := by
    intro index
    rw [load_eq_ok, Disk.sources_eq_ok_iff hfiles]
  constructor
  · constructor
    · rintro ⟨index, hindex⟩
      exact ⟨index.sources, (hload index).mp hindex⟩
    · rintro ⟨sources, hsources⟩
      exact ⟨⟨sources⟩, (hload ⟨sources⟩).mpr hsources⟩
  · intro index hindex
    obtain ⟨hsources, hids⟩ := (hload index).mp hindex
    exact ⟨hsources, hids, fun _ _ => find?_eq_some_iff hids, resolves_resolve index⟩

/-- A folder with three files: two documents that stand alone, and between them an empty list. -/
def threeFiles : Disk :=
  [⟨⟨false, ["s", "a.json"]⟩, "\x7b\"id\": \"a\", \"name\": \"A\"\x7d"⟩,
    ⟨⟨false, ["s", "b.json"]⟩, "[]"⟩,
    ⟨⟨false, ["s", "c.json"]⟩, "\x7b\"id\": \"c\", \"name\": \"C\"\x7d"⟩]

/-- What each of the three files holds. -/
theorem holds_threeFiles : List.Forall₂ File.Holds (threeFiles.sourceFiles ⟨false, ["s"]⟩)
    [[.leastSource "a" "A"], [], [.leastSource "c" "C"]] := by
  have hfound : threeFiles.sourceFiles ⟨false, ["s"]⟩ = threeFiles :=
    Disk.sourceFiles_eq_self (by decide) (by decide +kernel) (by decide +kernel) (by decide +kernel)
  rw [hfound]
  refine .cons ⟨_, ?_, Data.holds_leastSource "a" "A"⟩ (.cons ⟨.list [], ?_, .items []⟩
    (.cons ⟨_, ?_, Data.holds_leastSource "c" "C"⟩ .nil))
  · exact File.data_of_json (by decide +kernel) (Json.read?_eq_leastSource (by decide +kernel))
  · exact File.data_of_json (by decide +kernel) rfl
  · exact File.data_of_json (by decide +kernel) (Json.read?_eq_leastSource (by decide +kernel))

/-- The documents of all files are loaded, in the order of the files. -/
theorem load_threeFiles : List.Forall₂ File.Holds (threeFiles.sourceFiles ⟨false, ["s"]⟩)
    [[.leastSource "a" "A"], [], [.leastSource "c" "C"]] ∧
    ∃ index, load threeFiles ⟨false, ["s"]⟩ = .ok index ∧
      List.Forall₂ Data.Describes [.leastSource "a" "A", .leastSource "c" "C"] index.sources := by
  obtain ⟨hloads, hholds⟩ := load_complete holds_threeFiles
  have hsources : List.Forall₂ Data.Describes [.leastSource "a" "A", .leastSource "c" "C"]
      [{ id := "a", name := "A" }, { id := "c", name := "C" }] :=
    .cons (Data.describes_leastSource "a" "A") (.cons (Data.describes_leastSource "c" "C") .nil)
  obtain ⟨index, hindex⟩ := hloads.mpr ⟨_, hsources, by decide⟩
  exact ⟨holds_threeFiles, index, hindex, (hholds index hindex).1⟩

end SourceIndex

end RuleElements
