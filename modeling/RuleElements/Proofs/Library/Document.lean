import RuleElements.Proofs.Library.Load
import RuleElements.Proofs.Schema.Restore

/-!
# Documents and the sources that they describe

A folder has files, a file holds documents, and a document may describe a source. All three are said
here without the readers that carry them out: which files a folder is searched for, where the
documents of a value stand, and what each field of a source comes from.

Main definitions:
* `Data.Holds`: the documents that a value holds.
* `RuleSource.DescribedBy`: a source as the fields of an object describe it.
* `Data.Describes`: a document that describes a source.
* `Data.leastSource`: the least document that does.

Results:
* `Disk.sourceFiles_eq_self`: the files of a folder are found in the order of their paths.
* `Data.Holds.documents`: the documents that are found in a value.
* `RuleSource.ofDocument_eq_ok_iff`: a document is read as the source that it describes.
-/

namespace RuleElements

/-! ## Folders -/

/-- A path inside a folder is that of the folder with further parts. -/
theorem Path.isInside_iff {p folder : Path} :
    p.isInside folder = true ↔ ∃ part rest, p = folder.join (part :: rest) := by
  obtain ⟨rooted, parts⟩ := p
  unfold isInside join
  simp only [Bool.and_eq_true, beq_iff_eq, List.isPrefixOf_iff_prefix, decide_eq_true_eq,
    Path.mk.injEq]
  constructor
  · rintro ⟨⟨hrooted, rest, rfl⟩, hne⟩
    cases rest with
    | nil => exact absurd (List.append_nil _) hne
    | cons part rest => exact ⟨part, rest, hrooted, rfl⟩
  · rintro ⟨part, rest, hrooted, rfl⟩
    exact ⟨⟨hrooted, List.prefix_append _ _⟩, by simp⟩

namespace Disk

variable {disk : Disk} {folder : Path}

/-- **The files of a folder are found in the order of their paths.** If they have the suffixes that
are searched for and there are no others, they are found as they stand. -/
theorem sourceFiles_eq_self (hfolder : ".." ∉ folder.parts)
    (hinside : ∀ f ∈ disk, f.path.isInside folder = true)
    (hsuffix : ∀ f ∈ disk, f.path.suffix ∈ File.sourceSuffixes)
    (horder : disk.Pairwise fun f g => f.path.comesAfter g.path = false) :
    disk.sourceFiles folder = disk := by
  have hplace : disk.placeOf folder = folder := by
    unfold placeOf
    rw [place?_eq_self disk hfolder, Option.getD_some]
  have hnone : disk.find? (·.path == folder) = none := by
    rw [List.find?_eq_none]
    intro f hf heq
    obtain ⟨part, rest, hpath⟩ := Path.isInside_iff.mp (hinside f hf)
    rw [beq_iff_eq.mp heq] at hpath
    simpa [Path.join] using congrArg Path.parts hpath
  have hsame : disk.map (fun f =>
      { f with path := folder.join (f.path.parts.drop folder.parts.length) }) = disk := by
    refine (List.map_congr_left fun f hf => ?_).trans disk.map_id
    obtain ⟨part, rest, hpath⟩ := Path.isInside_iff.mp (hinside f hf)
    obtain ⟨path, text⟩ := f
    obtain rfl : path = folder.join (part :: rest) := hpath
    simp [Path.join]
  have hsorted : disk.mergeSort (fun f g => !f.path.comesAfter g.path) = disk :=
    List.mergeSort_of_pairwise (horder.imp fun h => by simp [h])
  have hfiles : disk.filesIn folder = disk := by
    unfold filesIn
    dsimp only
    rw [hplace, List.filter_eq_self.mpr hinside, hsame, hsorted]
  unfold sourceFiles file?
  rw [hplace, hnone, Option.none_or, Option.map_none]
  dsimp only
  rw [hfiles, List.filter_eq_self]
  exact fun f hf => List.contains_iff_mem.mpr (hsuffix f hf)

end Disk

/-! ## Documents -/

namespace Data

/-- **The documents that a value holds**: the items of a list, those of a list under `sources`, or
the value alone. -/
inductive Holds : Data → List Data → Prop
  | items (docs : List Data) : Holds (.list docs) docs
  | sources {d : Data} {fields : List (String × Data)} {docs : List Data}
    (hfields : d.fields? = some fields)
    (hsources : Fields.get? fields "sources" = some (.list docs)) : Holds d docs
  | single {d : Data} (hlist : ∀ items, d ≠ .list items)
    (hsources : ∀ fields, d.fields? = some fields → Fields.get? fields "sources" = none) :
    Holds d [d]

theorem ne_list_of_fields? {d : Data} {fields : List (String × Data)}
    (h : d.fields? = some fields) (items : List Data) : d ≠ .list items := by
  rintro rfl
  cases h

theorem documents_of_not_list {d : Data} (h : ∀ items, d ≠ .list items) :
    d.documents = match d.fields?.bind (Fields.get? · "sources") with
      | some sources => sources.elements
      | none => .ok [d] := by
  cases d with
  | list items => exact absurd rfl (h items)
  | _ => rfl

/-- **The documents that are found in a value** are those that it holds. -/
theorem Holds.documents {d : Data} {docs : List Data} (h : d.Holds docs) :
    d.documents = .ok docs := by
  cases h with
  | items => rfl
  | sources hfields hsources =>
    rw [documents_of_not_list (ne_list_of_fields? hfields), hfields, Option.bind_some,
      hsources]
    rfl
  | single hlist hsources =>
    rw [documents_of_not_list hlist]
    cases hfields : d.fields? with
    | none => rfl
    | some fields => rw [Option.bind_some, hsources fields hfields]

end Data

namespace File

variable {f : File} {d : Data}

/-- What a text in JSON denotes is what its file holds. -/
theorem data_of_json (hsuffix : f.path.suffix ∉ yamlSuffixes) (hread : Json.read? f.text = some d) :
    f.data = .ok d := by
  unfold data
  rw [if_neg fun h => hsuffix (List.contains_iff_mem.mp h), hread]

/-- What a text in YAML denotes is what its file holds, unless it is empty. -/
theorem data_of_yaml (hsuffix : f.path.suffix ∈ yamlSuffixes) (hread : Yaml.read f.text = .ok d) :
    f.data = .ok (if d.isEmpty then .object [] else d) := by
  unfold data
  rw [if_pos (List.contains_iff_mem.mpr hsuffix), hread]

end File

/-- The documents of a file that can be read. -/
def File.Holds (f : File) (docs : List Data) : Prop := ∃ d, f.data = .ok d ∧ d.Holds docs

theorem File.Holds.documents {f : File} {docs : List Data} (h : f.Holds docs) :
    f.documents = .ok docs := by
  obtain ⟨d, hd, hdocs⟩ := h
  unfold File.documents
  rw [hd]
  exact hdocs.documents

/-! ## Sources -/

/-- A list is read item by item. -/
theorem Data.readItems_eq_valid_iff {α : Type} {read : Data → Checked α} :
    ∀ {items : List Data} {index : Nat} {out : List α}, readItems read index items = .valid out ↔
      List.Forall₂ (fun item a => read item = .valid a) items out
  | [], _, out => by cases out <;> simp [readItems]
  | item :: items, index, out => by
    rw [readItems, Checked.seq_eq_valid, List.forall₂_cons_left_iff]
    constructor
    · rintro ⟨g, rest, hg, hrest, rfl⟩
      obtain ⟨a, ha, rfl⟩ := Checked.map_eq_valid.mp hg
      exact ⟨a, rest, Checked.under_eq_valid.mp ha, readItems_eq_valid_iff.mp hrest, rfl⟩
    · rintro ⟨a, rest, ha, hrest, rfl⟩
      exact ⟨_, rest, Checked.map_eq_valid.mpr ⟨a, Checked.under_eq_valid.mpr ha, rfl⟩,
        readItems_eq_valid_iff.mpr hrest, rfl⟩

namespace RuleSource

variable {s : RuleSource} {fields : List (String × Data)}

/-- **A source as the fields of an object describe it.** The identifier and the name are texts. The
kind, if it is there, is one of the words for kinds, and the level and the description may be null.
The rules, if they are there, are a list of objects, and each has a text under `key`. -/
structure DescribedBy (s : RuleSource) (fields : List (String × Data)) : Prop where
  id : Fields.get? fields "id" = some (.text s.id)
  name : Fields.get? fields "name" = some (.text s.name)
  kind : Fields.defaulted fields "kind" .feat Data.asWord = .valid s.kind
  level : Fields.optional fields "level" Data.asInteger = .valid s.level
  description : Fields.optional fields "description" Data.asText = .valid s.description
  rules : Fields.get? fields "rules" = none ∧ s.rules = [] ∨
    ∃ items, Fields.get? fields "rules" = some (.list items) ∧
      List.Forall₂ (fun item rule => item.asObject = .valid rule) items s.rules
  keyed : ∀ rule ∈ s.rules, ∃ kind, Fields.get? rule "key" = some (.text kind)

theorem required_text_iff {name text : String} :
    Fields.required fields name Data.asText = .valid text ↔
      Fields.get? fields name = some (.text text) := by
  unfold Fields.required
  cases Fields.get? fields name with
  | none => simp
  | some d => cases d <;> simp [Data.asText, Checked.fail, Checked.under]

theorem defaulted_rules_iff {rules : List (List (String × Data))} :
    Fields.defaulted fields "rules" [] (Data.asList Data.asObject) = .valid rules ↔
      Fields.get? fields "rules" = none ∧ rules = [] ∨
        ∃ items, Fields.get? fields "rules" = some (.list items) ∧
          List.Forall₂ (fun item rule => item.asObject = .valid rule) items rules := by
  unfold Fields.defaulted
  cases Fields.get? fields "rules" with
  | none => simp [eq_comm]
  | some d =>
    cases d with
    | list items => simp [Data.asList, Checked.under_eq_valid, Data.readItems_eq_valid_iff]
    | _ => simp [Data.asList, Checked.fail, Checked.under]

theorem hasKind_iff {rule : List (String × Data)} :
    hasKind rule = true ↔ ∃ kind, Fields.get? rule "key" = some (.text kind) := by
  unfold hasKind
  cases Fields.get? rule "key" with
  | none => simp
  | some d => cases d <;> simp

/-- There is nothing wrong with the rules of a source if each has a kind. -/
theorem faults_eq_nil_iff :
    s.faults = [] ↔ ∀ rule ∈ s.rules, ∃ kind, Fields.get? rule "key" = some (.text kind) := by
  unfold faults
  rw [List.map_eq_nil_iff, List.filter_eq_nil_iff]
  constructor
  · intro h rule hrule
    obtain ⟨place, hplace⟩ := List.mem_iff_getElem?.mp hrule
    have hkind := h (rule, place) (List.mk_mem_zipIdx_iff_getElem?.mpr hplace)
    exact hasKind_iff.mp (by simpa using hkind)
  · rintro h ⟨rule, place⟩ hmem
    have hrule := List.mem_of_getElem? (List.mk_mem_zipIdx_iff_getElem?.mp hmem)
    simpa using hasKind_iff.mpr (h rule hrule)

theorem require_faults_iff {s' : RuleSource} :
    Effect.require faults s = .valid s' ↔ s = s' ∧ s.faults = [] := by
  unfold Effect.require
  cases s.faults <;> simp [Checked.fail]

/-- The fields of a source, one after the other. -/
theorem fields_eq_valid_iff :
    (RuleSource.mk
      <$> Fields.required fields "id" Data.asText
      <*> Fields.required fields "name" Data.asText
      <*> Fields.defaulted fields "kind" .feat Data.asWord
      <*> Fields.optional fields "level" Data.asInteger
      <*> Fields.optional fields "description" Data.asText
      <*> Fields.defaulted fields "rules" [] (Data.asList Data.asObject)) = .valid s ∧
      s.faults = [] ↔ s.DescribedBy fields := by
  rw [faults_eq_nil_iff]
  constructor
  · rintro ⟨hfields, hkeyed⟩
    obtain ⟨_, _, hfive, hrules, rfl⟩ := Checked.seq_eq_valid.mp hfields
    obtain ⟨_, _, hfour, hdescription, rfl⟩ := Checked.seq_eq_valid.mp hfive
    obtain ⟨_, _, hthree, hlevel, rfl⟩ := Checked.seq_eq_valid.mp hfour
    obtain ⟨_, _, htwo, hkind, rfl⟩ := Checked.seq_eq_valid.mp hthree
    obtain ⟨_, _, hone, hname, rfl⟩ := Checked.seq_eq_valid.mp htwo
    obtain ⟨_, hid, rfl⟩ := Checked.map_eq_valid.mp hone
    exact ⟨required_text_iff.mp hid, required_text_iff.mp hname, hkind, hlevel, hdescription,
      defaulted_rules_iff.mp hrules, hkeyed⟩
  · intro h
    rw [required_text_iff.mpr h.id, required_text_iff.mpr h.name, h.kind, h.level, h.description,
      defaulted_rules_iff.mpr h.rules]
    exact ⟨rfl, h.keyed⟩

end RuleSource

/-- A document describes a source if it is an object whose fields do. -/
def Data.Describes (doc : Data) (s : RuleSource) : Prop :=
  ∃ fields, doc.fields? = some fields ∧ s.DescribedBy fields

/-- **A document is read as the source that it describes**, and as none if it describes none. -/
theorem RuleSource.ofDocument_eq_ok_iff {doc : Data} {s : RuleSource} :
    ofDocument doc = .ok s ↔ doc.Describes s := by
  have hread : ofDocument doc = .ok s ↔ RuleSource.read doc = .valid s := by
    unfold ofDocument
    cases RuleSource.read doc <;> simp [Checked.toExcept]
  rw [hread]
  unfold Data.Describes RuleSource.read Data.asModel
  cases doc.fields? with
  | none => simp [Checked.fail, Checked.andThen]
  | some fields =>
    simp only [Option.some.injEq, exists_eq_left']
    rw [← fields_eq_valid_iff, Checked.andThen_eq_valid]
    simp only [require_faults_iff]
    constructor
    · rintro ⟨s', hfields, rfl, hfaults⟩
      exact ⟨hfields, hfaults⟩
    · rintro ⟨hfields, hfaults⟩
      exact ⟨s, hfields, rfl, hfaults⟩

/-! ## The least document -/

namespace Data

variable {id name : String}

/-- The least that describes a source: an identifier and a name. -/
def leastSource (id name : String) : Data := .object [("id", .text id), ("name", .text name)]

theorem describes_leastSource (id name : String) : (leastSource id name).Describes { id, name } :=
  ⟨_, rfl, rfl, rfl, rfl, rfl, rfl, .inl ⟨rfl, rfl⟩, nofun⟩

theorem holds_leastSource (id name : String) :
    (leastSource id name).Holds [leastSource id name] := by
  refine .single nofun ?_
  rintro _ ⟨⟩
  rfl

/-- Whether a value is the least that describes a source, as a test that can be run. -/
def isLeastSource (id name : String) : Data → Bool
  | .object [("id", .text id'), ("name", .text name')] => id' == id && name' == name
  | _ => false

theorem eq_of_isLeastSource {d : Data} (h : d.isLeastSource id name = true) :
    d = leastSource id name := by
  unfold isLeastSource at h
  split at h
  · simp only [Bool.and_eq_true, beq_iff_eq] at h
    obtain ⟨rfl, rfl⟩ := h
    rfl
  · cases h

end Data

/-- What a text in JSON denotes, by the test. -/
theorem Json.read?_eq_leastSource {text id name : String}
    (h : (Json.read? text).any (·.isLeastSource id name) = true) :
    Json.read? text = some (.leastSource id name) := by
  obtain ⟨d, hread, hd⟩ := (Option.any_eq_true _ _).mp h
  rw [hread, Data.eq_of_isLeastSource hd]

/-- What a text in YAML denotes, by the test. -/
theorem Yaml.read_eq_leastSource {text id name : String}
    (h : (Yaml.read text).toOption.any (·.isLeastSource id name) = true) :
    Yaml.read text = .ok (.leastSource id name) := by
  cases hread : Yaml.read text with
  | error fault =>
    rw [hread] at h
    cases h
  | ok d =>
    rw [hread] at h
    rw [Data.eq_of_isLeastSource h]

end RuleElements
