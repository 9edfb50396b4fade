import Mathlib.Data.List.Nodup
import RuleElements.Library.Load
import RuleElements.Proofs.Faulting

/-!
# Loading sources

An index is loaded file by file and document by document, and ends at the first document that is no
source or whose identifier is taken. So it can be loaded exactly if all documents are sources, with
different identifiers over all files, and it then holds them in order.

Main definitions:
* `File.sources`, `Disk.sources`: the sources in a file and in the files at a path, whatever their
  identifiers are.

Results:
* `SourceIndex.insertAll_cons_eq_ok`, `SourceIndex.insertAll_eq_ok`: one document, and those of one
  file.
* `SourceIndex.load_eq_ok`: the index of the files at a path.
-/

namespace RuleElements

/-- The source that a document holds. -/
def RuleSource.ofDocument (doc : Data) : Except Fault RuleSource := (RuleSource.read doc).toExcept

/-- The sources in a file, in order. -/
def File.sources (f : File) : Except Fault (List RuleSource) :=
  f.documents.bind fun docs => docs.mapM RuleSource.ofDocument

/-- The sources in the files at a path, in order. -/
def Disk.sources (disk : Disk) (path : Path) : Except Fault (List RuleSource) :=
  ((disk.sourceFiles path).mapM File.sources).map List.flatten

namespace SourceIndex

variable {index loaded : SourceIndex}

/-- The identifiers of an index. -/
def ids (index : SourceIndex) : List String := index.sources.map (·.id)

/-- An identifier is taken if a source of the index has it. -/
theorem isSome_find?_iff {id : String} : (index.find? id).isSome = true ↔ id ∈ index.ids := by
  unfold find? ids
  rw [List.find?_isSome, List.mem_map]
  simp only [beq_iff_eq]

/-- The identifiers of an index with further sources. -/
theorem ids_append (index : SourceIndex) (sources : List RuleSource) :
    (⟨index.sources ++ sources⟩ : SourceIndex).ids = index.ids ++ sources.map (·.id) :=
  List.map_append

theorem nodup_ids_append_singleton (hindex : index.ids.Nodup) {source : RuleSource}
    (hfree : source.id ∉ index.ids) :
    (⟨index.sources ++ [source]⟩ : SourceIndex).ids.Nodup := by
  rw [ids_append]
  exact hindex.append (List.nodup_singleton _) (List.disjoint_singleton.mpr hfree)

/-- **One document is put in** if it is a source whose identifier is not taken. -/
theorem insertAll_cons_eq_ok {file : String} {doc : Data} {rest : List Data} :
    insertAll file index (doc :: rest) = .ok loaded ↔
      ∃ source, RuleSource.ofDocument doc = .ok source ∧ source.id ∉ index.ids ∧
        insertAll file ⟨index.sources ++ [source]⟩ rest = .ok loaded := by
  unfold RuleSource.ofDocument
  cases hread : RuleSource.read doc with
  | invalid issues =>
    simp only [insertAll, hread, Checked.toExcept, reduceCtorEq, false_and, exists_false]
  | valid source =>
    by_cases htaken : source.id ∈ index.ids
    · have hfound := isSome_find?_iff.mpr htaken
      simp [insertAll, hread, hfound, Checked.toExcept, htaken]
    · have hfound : (index.find? source.id).isSome = false :=
        Bool.eq_false_iff.mpr fun hsome => htaken (isSome_find?_iff.mp hsome)
      simp [insertAll, hread, hfound, Checked.toExcept, htaken]

/-- **The documents of one file are put in** exactly if all are sources and no identifier comes
twice. -/
theorem insertAll_eq_ok {file : String} : ∀ {docs : List Data} {index loaded : SourceIndex},
    index.ids.Nodup → (insertAll file index docs = .ok loaded ↔
      ∃ sources, docs.mapM RuleSource.ofDocument = .ok sources ∧
        loaded = ⟨index.sources ++ sources⟩ ∧ loaded.ids.Nodup)
  | [], index, loaded, hindex => by
    constructor
    · intro h
      cases h
      exact ⟨[], rfl, by rw [List.append_nil], hindex⟩
    · rintro ⟨sources, hsources, rfl, -⟩
      obtain rfl : sources = [] := (Except.ok.inj hsources).symm
      rw [List.append_nil]
      rfl
  | doc :: rest, index, loaded, hindex => by
    rw [insertAll_cons_eq_ok]
    constructor
    · rintro ⟨source, hsource, hfree, hrest⟩
      have hnext := nodup_ids_append_singleton hindex hfree
      obtain ⟨sources, hsources, rfl, hids⟩ := (insertAll_eq_ok hnext).mp hrest
      refine ⟨source :: sources, ?_, by simp, hids⟩
      exact Faulting.mapM_cons_eq_ok.mpr ⟨source, sources, hsource, hsources, rfl⟩
    · rintro ⟨all, hall, rfl, hids⟩
      obtain ⟨source, sources, hsource, hsources, rfl⟩ := Faulting.mapM_cons_eq_ok.mp hall
      have hfree : source.id ∉ index.ids := by
        intro htaken
        rw [ids_append] at hids
        exact (List.nodup_append.mp hids).2.2 _ htaken _ List.mem_cons_self rfl
      have hnext := nodup_ids_append_singleton hindex hfree
      refine ⟨source, hsource, hfree, (insertAll_eq_ok hnext).mpr ⟨sources, hsources, ?_, hids⟩⟩
      rw [List.append_assoc, List.singleton_append]

/-- The sources of one file are put in after those of the files before it. -/
def insertFile (index : SourceIndex) (f : File) : Except Fault SourceIndex :=
  f.documents.bind (insertAll f.path.text index)

theorem insertFile_eq_ok {f : File} (hindex : index.ids.Nodup) :
    insertFile index f = .ok loaded ↔ ∃ sources, f.sources = .ok sources ∧
      loaded = ⟨index.sources ++ sources⟩ ∧ loaded.ids.Nodup := by
  unfold insertFile File.sources
  cases hdocs : f.documents with
  | error fault => simp [Except.bind]
  | ok docs => exact insertAll_eq_ok hindex

/-- **The files are put in one after the other.** -/
theorem foldlM_insertFile_eq_ok : ∀ {files : List File} {index loaded : SourceIndex},
    index.ids.Nodup → (files.foldlM insertFile index = .ok loaded ↔
      ∃ parts, files.mapM File.sources = .ok parts ∧
        loaded = ⟨index.sources ++ parts.flatten⟩ ∧ loaded.ids.Nodup)
  | [], index, loaded, hindex => by
    constructor
    · intro h
      cases h
      exact ⟨[], rfl, by simp, hindex⟩
    · rintro ⟨parts, hparts, rfl, -⟩
      obtain rfl : parts = [] := (Except.ok.inj hparts).symm
      rw [List.flatten_nil, List.append_nil]
      rfl
  | f :: files, index, loaded, hindex => by
    rw [Faulting.foldlM_cons_eq_ok]
    constructor
    · rintro ⟨next, hnext, hrest⟩
      obtain ⟨sources, hsources, rfl, hids⟩ := (insertFile_eq_ok hindex).mp hnext
      obtain ⟨parts, hparts, rfl, hall⟩ := (foldlM_insertFile_eq_ok hids).mp hrest
      refine ⟨sources :: parts, ?_, by simp, hall⟩
      exact Faulting.mapM_cons_eq_ok.mpr ⟨sources, parts, hsources, hparts, rfl⟩
    · rintro ⟨parts, hparts, rfl, hall⟩
      obtain ⟨sources, others, hsources, hothers, rfl⟩ := Faulting.mapM_cons_eq_ok.mp hparts
      have hids : (⟨index.sources ++ sources⟩ : SourceIndex).ids.Nodup := by
        rw [ids_append, List.flatten_cons, List.map_append, ← List.append_assoc] at hall
        rw [ids_append]
        exact (List.nodup_append.mp hall).1
      refine ⟨⟨index.sources ++ sources⟩, ?_, ?_⟩
      · exact (insertFile_eq_ok hindex).mpr ⟨sources, hsources, rfl, hids⟩
      · exact (foldlM_insertFile_eq_ok hids).mpr ⟨others, hothers, by simp, hall⟩

/-- **An index is loaded** exactly if all documents at the path are sources, with different
identifiers; it then holds these sources in order. -/
theorem load_eq_ok {disk : Disk} {path : Path} : load disk path = .ok loaded ↔
    disk.sources path = .ok loaded.sources ∧ loaded.ids.Nodup := by
  unfold Disk.sources
  rw [Faulting.map_eq_ok]
  show (disk.sourceFiles path).foldlM insertFile {} = .ok loaded ↔ _
  have hempty : ({} : SourceIndex).ids.Nodup := List.nodup_nil
  rw [foldlM_insertFile_eq_ok hempty]
  constructor
  · rintro ⟨parts, hparts, rfl, hids⟩
    exact ⟨⟨parts, hparts, rfl⟩, hids⟩
  · rintro ⟨⟨parts, hparts, hflatten⟩, hids⟩
    refine ⟨parts, hparts, ?_, hids⟩
    rw [hflatten]
    rfl

end SourceIndex

end RuleElements
