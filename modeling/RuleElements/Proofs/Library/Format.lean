import RuleElements.Proofs.Library.Document

/-!
# The format of a file

One value can stand in a file in JSON and in a file in YAML. Once the texts are read, the sources of
both are loaded alike, with one exception: a value that stands for nothing is replaced by an object
without fields in YAML, and is kept in JSON. Most such values describe no source in either form. An
empty list does make a difference: in JSON it is a file without sources, in YAML it is a document
that describes none.

Main definitions:
* `Fault.Akin`: faults of one kind.
* `SourceIndex.SameOutcome`: the same sources in the same order, or faults of one kind.

Results:
* `SourceIndex.sameOutcome_insertAll`: what a file is called does not matter.
* `Data.not_describes_of_isEmpty`: nothing that is empty describes a source.
* `SourceIndex.load_sameOutcome_iff`: the format matters for the empty list only.
-/

namespace RuleElements

/-- **Faults of one kind**: equal ones, two values that do not describe what they should, or one
identifier that is taken, whichever file it comes again in. -/
inductive Fault.Akin : Fault → Fault → Prop
  | same (fault : Fault) : Akin fault fault
  | invalid (issues issues' : List Issue) : Akin (.invalid issues) (.invalid issues')
  | duplicateSource (id file file' : String) :
    Akin (.duplicateSource id file) (.duplicateSource id file')

/-! ## Empty values -/

namespace Data

variable {d : Data}

theorem fields_eq_nil_of_isEmpty (h : d.isEmpty = true) {fields : List (String × Data)}
    (hfields : d.fields? = some fields) : fields = [] := by
  cases d with
  | object _ =>
    cases hfields
    exact List.isEmpty_iff.mp h
  | mapping entries =>
    obtain rfl : entries = [] := List.isEmpty_iff.mp h
    cases hfields
    rfl
  | _ => cases hfields

/-- **Nothing that is empty describes a source**: it has no field for the identifier. -/
theorem not_describes_of_isEmpty (h : d.isEmpty = true) (s : RuleSource) : ¬ d.Describes s := by
  rintro ⟨fields, hfields, hs⟩
  have hid := hs.id
  rw [fields_eq_nil_of_isEmpty h hfields] at hid
  cases hid

/-- An empty value that is no list is the only document in its file. -/
theorem holds_of_isEmpty (h : d.isEmpty = true) (hlist : d ≠ .list []) : d.Holds [d] := by
  refine .single ?_ fun fields hfields => ?_
  · rintro items rfl
    obtain rfl : items = [] := List.isEmpty_iff.mp h
    exact hlist rfl
  · rw [fields_eq_nil_of_isEmpty h hfields]
    rfl

end Data

namespace SourceIndex

/-- **The same outcome**: the same sources in the same order, or faults of one kind. -/
inductive SameOutcome : Except Fault SourceIndex → Except Fault SourceIndex → Prop
  | loaded (index : SourceIndex) : SameOutcome (.ok index) (.ok index)
  | failed {fault fault' : Fault} (h : fault.Akin fault') :
    SameOutcome (.error fault) (.error fault')

theorem SameOutcome.isOk_eq {outcome outcome' : Except Fault SourceIndex}
    (h : SameOutcome outcome outcome') : outcome.isOk = outcome'.isOk := by
  cases h <;> rfl

/-! ## One file -/

/-- **What a file is called does not matter** for the sources that are put in. -/
theorem sameOutcome_insertAll (file file' : String) : ∀ (docs : List Data) (index : SourceIndex),
    SameOutcome (insertAll file index docs) (insertAll file' index docs)
  | [], index => .loaded index
  | doc :: rest, index => by
    unfold insertAll
    cases RuleSource.read doc with
    | invalid issues => exact .failed (.same _)
    | valid source =>
      by_cases htaken : (index.find? source.id).isSome = true
      · simp only [htaken, if_true]
        exact .failed (.duplicateSource _ _ _)
      · simp only [htaken]
        exact sameOutcome_insertAll file file' rest _

theorem sameOutcome_documents (file file' : String) (docs : Except Fault (List Data)) :
    SameOutcome (docs.bind (insertAll file {})) (docs.bind (insertAll file' {})) := by
  cases docs with
  | error fault => exact .failed (.same fault)
  | ok docs => exact sameOutcome_insertAll file file' docs {}

/-- A document that is empty cannot be put in. -/
theorem insertAll_of_isEmpty {d : Data} (h : d.isEmpty = true) (file : String)
    (index : SourceIndex) : ∃ issues, insertAll file index [d] = .error (.invalid issues) := by
  unfold insertAll
  cases hread : RuleSource.read d with
  | invalid issues => exact ⟨issues, rfl⟩
  | valid s =>
    have hs : RuleSource.ofDocument d = .ok s := by
      unfold RuleSource.ofDocument
      rw [hread]
      rfl
    exact absurd (RuleSource.ofDocument_eq_ok_iff.mp hs) (Data.not_describes_of_isEmpty h s)

section Single

variable {disk : Disk} {folder : Path} {f : File} {d : Data}

/-- The sources of a folder with one file are those of the file. -/
theorem load_single (hfile : disk.sourceFiles folder = [f]) (hdata : f.data = .ok d) :
    load disk folder = d.documents.bind (insertAll f.path.text {}) := by
  unfold load
  rw [hfile, List.foldlM_cons]
  unfold File.documents
  rw [hdata]
  exact bind_pure _

/-- A file that holds an empty value other than the list has no sources. -/
theorem load_of_isEmpty (hfile : disk.sourceFiles folder = [f]) (hdata : f.data = .ok d)
    (h : d.isEmpty = true) (hlist : d ≠ .list []) :
    ∃ issues, load disk folder = .error (.invalid issues) := by
  rw [load_single hfile hdata, (Data.holds_of_isEmpty h hlist).documents]
  exact insertAll_of_isEmpty h f.path.text {}

end Single

/-! ## Both formats -/

/-- **The format of a file does not matter, except for the empty list.** Let a folder have one file
that denotes a value in JSON, and let a folder have one that denotes it in YAML. Both give the same
sources in the same order or faults of one kind, exactly if the value is not the empty list; this
one is an index without sources in JSON and a document that is no source in YAML. -/
theorem load_sameOutcome_iff {disk disk' : Disk} {folder folder' : Path} {f g : File} {d : Data}
    (hfile : disk.sourceFiles folder = [f]) (hjson : f.path.suffix ∉ File.yamlSuffixes)
    (hread : Json.read? f.text = some d)
    (hfile' : disk'.sourceFiles folder' = [g]) (hyaml : g.path.suffix ∈ File.yamlSuffixes)
    (hread' : Yaml.read g.text = .ok d) :
    (SameOutcome (load disk folder) (load disk' folder') ↔ d ≠ .list []) ∧
    (d = .list [] → load disk folder = .ok {} ∧
      ∃ issues, load disk' folder' = .error (.invalid issues)) := by
  have hdata := File.data_of_json hjson hread
  have hdata' := File.data_of_yaml hyaml hread'
  cases hempty : d.isEmpty with
  | false =>
    have hlist : d ≠ .list [] := by
      rintro rfl
      cases hempty
    rw [hempty, if_neg (by simp)] at hdata'
    refine ⟨iff_of_true ?_ hlist, fun h => absurd h hlist⟩
    rw [load_single hfile hdata, load_single hfile' hdata']
    exact sameOutcome_documents _ _ d.documents
  | true =>
    rw [hempty, if_pos rfl] at hdata'
    obtain ⟨issues', hload'⟩ := load_of_isEmpty hfile' hdata' rfl nofun
    by_cases hlist : d = .list []
    · subst hlist
      have hload : load disk folder = .ok {} := load_single hfile hdata
      rw [hload, hload']
      exact ⟨iff_of_false nofun (fun h => h rfl), fun _ => ⟨rfl, issues', rfl⟩⟩
    · obtain ⟨issues, hload⟩ := load_of_isEmpty hfile hdata hempty hlist
      rw [hload, hload']
      exact ⟨iff_of_true (.failed (.invalid _ _)) hlist, fun h => absurd h hlist⟩

/-- A folder with one file. -/
def folderWith (name text : String) : Disk := [⟨⟨false, ["s", name]⟩, text⟩]

theorem sourceFiles_folderWith (name text : String)
    (hsuffix : (⟨false, ["s", name]⟩ : Path).suffix ∈ File.sourceSuffixes) :
    (folderWith name text).sourceFiles ⟨false, ["s"]⟩ = folderWith name text := by
  refine Disk.sourceFiles_eq_self (by decide) ?_ ?_ (List.pairwise_singleton _ _)
  · exact List.forall_mem_singleton.mpr (Path.isInside_iff.mpr ⟨name, [], rfl⟩)
  · exact List.forall_mem_singleton.mpr hsuffix

/-- A source that is written alike in both formats is loaded alike. -/
theorem load_sameOutcome_of_source :
    let text := "\x7b\"id\": \"a\", \"name\": \"A\"\x7d"
    Json.read? text = some (.leastSource "a" "A") ∧ Yaml.read text = .ok (.leastSource "a" "A") ∧
      SameOutcome (load (folderWith "a.json" text) ⟨false, ["s"]⟩)
        (load (folderWith "a.yaml" text) ⟨false, ["s"]⟩) := by
  intro text
  have hread : Json.read? text = some (.leastSource "a" "A") :=
    Json.read?_eq_leastSource (by decide +kernel)
  have hread' : Yaml.read text = .ok (.leastSource "a" "A") :=
    Yaml.read_eq_leastSource (by decide +kernel)
  have hfile := sourceFiles_folderWith "a.json" text (by decide +kernel)
  have hfile' := sourceFiles_folderWith "a.yaml" text (by decide +kernel)
  refine ⟨hread, hread', ?_⟩
  exact (load_sameOutcome_iff hfile (by decide +kernel) hread hfile' (by decide +kernel)
    hread').1.mpr nofun

/-- An empty list is an index in JSON, and a fault in YAML. -/
theorem load_emptyList_not_sameOutcome :
    ¬ ∀ {disk disk' : Disk} {folder folder' : Path} {f g : File} {d : Data},
      disk.sourceFiles folder = [f] → f.path.suffix ∉ File.yamlSuffixes →
      Json.read? f.text = some d →
      disk'.sourceFiles folder' = [g] → g.path.suffix ∈ File.yamlSuffixes →
      Yaml.read g.text = .ok d →
      SameOutcome (load disk folder) (load disk' folder') := by
  intro agree
  have hfile := sourceFiles_folderWith "a.json" "[]" (by decide +kernel)
  have hfile' := sourceFiles_folderWith "a.yaml" "[]" (by decide +kernel)
  have hread : Json.read? "[]" = some (.list []) := rfl
  have hread' : Yaml.read "[]" = .ok (.list []) := rfl
  have hsame := agree hfile (by decide +kernel) hread hfile' (by decide +kernel) hread'
  have hloads : (load (folderWith "a.json" "[]") ⟨false, ["s"]⟩).isOk = true := by decide +kernel
  have hfails : (load (folderWith "a.yaml" "[]") ⟨false, ["s"]⟩).isOk = false := by decide +kernel
  have hboth := hsame.isOk_eq
  rw [hloads, hfails] at hboth
  cases hboth

end SourceIndex

end RuleElements
