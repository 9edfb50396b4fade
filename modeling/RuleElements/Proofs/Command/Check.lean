import RuleElements.Command.Run
import RuleElements.Proofs.Library.Load
import RuleElements.Proofs.Lint.Exact

/-!
# Checking and loading

A lenient check goes through all files and collects what it finds; loading stops at the first fault.
Both want the same of each file and each document. Only loading compares documents with each other:
a check passes although an identifier comes twice. And only a check looks at the values of rules,
and a fault ends it at one with too many digits, which loading does not read. These are the two
things on which they differ.

Main definitions:
* `Checkup.Passes`: no fault ends the check, and it finds no error.
* `RuleSource.IsLegible`: no rule of a source has a value with too many digits.

Results:
* `Checkup.passes_foldl`: a check of several things passes exactly if that of each passes.
* `Checkup.ofFiles_passes_iff`: a lenient check passes exactly if all documents are sources, and all
  their rules can be looked at.
* `Command.validate_passes_iff`: what a check and loading ask for.
-/

namespace RuleElements

/-- **A source whose rules can all be looked at**: no value of one has too many digits. -/
def RuleSource.IsLegible (source : RuleSource) : Prop :=
  ∀ rule ∈ source.rules, ¬ (ParsedElement.ofFields rule).HasLongValue

namespace Checkup

variable {strict : Bool}

/-- A check passes if no fault ends it and it finds no error. -/
def Passes (strict : Bool) (c : Checkup) : Prop := c.fault = none ∧ c.errors strict = []

theorem passes_empty : ({} : Checkup).Passes strict := ⟨rfl, rfl⟩

/-- A check that a fault ends does not pass, whatever would follow. -/
theorem andThen_passes_iff {c next : Checkup} :
    (c.andThen next).Passes strict ↔ c.Passes strict ∧ next.Passes strict := by
  unfold andThen
  cases hfault : c.fault with
  | some fault => simp only [Passes, hfault, reduceCtorEq, false_and]
  | none =>
    simp only [Passes, errors, hfault, true_and, List.filter_append, List.map_append,
      List.append_eq_nil_iff]
    exact and_left_comm

/-- **A check of several things** passes exactly if that of each passes. -/
theorem passes_foldl {α : Type} {check : α → Checkup} : ∀ {xs : List α} {c : Checkup},
    (xs.foldl (fun c x => c.andThen (check x)) c).Passes strict ↔
      c.Passes strict ∧ ∀ x ∈ xs, (check x).Passes strict
  | [], c => by simp
  | x :: xs, c => by
    rw [List.foldl_cons, passes_foldl, andThen_passes_iff, List.forall_mem_cons, and_assoc]

/-! ## What a lenient check asks for -/

/-- A rule without effect is no error; only one with too many digits ends the check. -/
theorem ofRule_passes_iff {place : String} {rule : List (String × Data)} :
    (ofRule place rule).Passes false ↔ ¬ (ParsedElement.ofFields rule).HasLongValue := by
  rw [← ParsedElement.lint_fault_eq_none_iff]
  unfold Passes errors ofRule
  simp [Finding.isError]

theorem ofSource_passes_iff {path : String} {source : RuleSource} :
    (ofSource path source).Passes false ↔ source.IsLegible := by
  unfold ofSource
  rw [passes_foldl, and_iff_right passes_empty]
  simp only [ofRule_passes_iff]
  unfold RuleSource.IsLegible
  constructor
  · intro h rule hrule
    obtain ⟨place, hplace⟩ := List.mem_iff_getElem?.mp hrule
    exact h (rule, place) (List.mk_mem_zipIdx_iff_getElem?.mpr hplace)
  · rintro h ⟨rule, place⟩ hmem
    exact h rule (List.fst_mem_of_mem_zipIdx hmem)

/-- A document passes exactly if it is a source whose rules can be looked at. -/
theorem ofDocument_passes_iff {path : String} {doc : Data} : (ofDocument path doc).Passes false ↔
    ∃ source, RuleSource.ofDocument doc = .ok source ∧ source.IsLegible := by
  unfold ofDocument RuleSource.ofDocument
  cases RuleSource.read doc with
  | valid source => simp [ofSource_passes_iff, Checked.toExcept]
  | invalid issues => simp [Passes, errors, Finding.isError, Checked.toExcept]

/-- A file passes exactly if it can be read and all its documents are such sources. -/
theorem ofFile_passes_iff {f : File} : (ofFile f).Passes false ↔
    ∃ sources, f.sources = .ok sources ∧ ∀ source ∈ sources, source.IsLegible := by
  unfold ofFile File.sources File.documents
  cases f.data with
  | error fault =>
    by_cases hreading : fault.isAboutReading = true <;>
      simp [hreading, Passes, errors, Finding.isError, Except.bind]
  | ok data =>
    simp only [Except.bind]
    cases data.documents with
    | error fault => simp [Passes]
    | ok docs =>
      simp only [passes_foldl, passes_empty, true_and, ofDocument_passes_iff]
      exact Faulting.mapM_succeeds_iff.symm

/-- **A lenient check passes** exactly if all documents of all files are such sources. -/
theorem ofFiles_passes_iff {files : List File} : (ofFiles files).Passes false ↔
    ∃ parts, files.mapM File.sources = .ok parts ∧
      ∀ sources ∈ parts, ∀ source ∈ sources, source.IsLegible := by
  unfold ofFiles
  simp only [passes_foldl, passes_empty, true_and, ofFile_passes_iff]
  exact Faulting.mapM_succeeds_iff.symm

end Checkup

namespace Command

/-- The exit code tells whether the check passes. -/
theorem runValidate_exitCode {disk : Disk} {paths : List String} {strict : Bool} :
    (runValidate disk paths strict).ending.exitCode = 0 ↔
      (Checkup.ofFiles (paths.flatMap fun path => disk.sourceFiles (.ofText path))).Passes
        strict := by
  unfold runValidate Checkup.Passes
  generalize Checkup.ofFiles _ = c
  cases hfault : c.fault with
  | some fault => simp [hfault, Report.failed, Ending.exitCode]
  | none =>
    cases herrors : c.errors strict with
    | nil => simp [hfault, herrors, Ending.exitCode]
    | cons text texts => simp [hfault, herrors, Ending.exitCode]

/-- **What a lenient check and loading ask for.** The check ends well exactly if all documents at
the path are sources, and no value of a rule has too many digits. They can be loaded exactly if all
are sources with different identifiers. So identifiers that come twice are what the check overlooks,
values with too many digits are what ends it for nothing, and nothing else sets the two apart. -/
theorem validate_passes_iff (disk : Disk) (settings : Settings) (path : String) :
    ((run disk settings (.validate [path] (some false))).ending.exitCode = 0 ↔
      ∃ sources, disk.sources (.ofText path) = .ok sources ∧
        ∀ source ∈ sources, source.IsLegible) ∧
    ((∃ index, SourceIndex.load disk (.ofText path) = .ok index) ↔
      ∃ sources, disk.sources (.ofText path) = .ok sources ∧ (sources.map (·.id)).Nodup) := by
  constructor
  · show (runValidate disk [path] false).ending.exitCode = 0 ↔ _
    rw [runValidate_exitCode, List.flatMap_singleton, Checkup.ofFiles_passes_iff]
    unfold Disk.sources
    simp only [Faulting.map_eq_ok]
    constructor
    · rintro ⟨parts, hparts, hread⟩
      refine ⟨parts.flatten, ⟨parts, hparts, rfl⟩, fun source hsource => ?_⟩
      obtain ⟨sources, hsources, hmem⟩ := List.mem_flatten.mp hsource
      exact hread sources hsources source hmem
    · rintro ⟨sources, ⟨parts, hparts, rfl⟩, hread⟩
      exact ⟨parts, hparts, fun sources hsources source hsource =>
        hread source (List.mem_flatten.mpr ⟨sources, hsources, hsource⟩)⟩
  · constructor
    · rintro ⟨index, hindex⟩
      obtain ⟨hsources, hids⟩ := SourceIndex.load_eq_ok.mp hindex
      exact ⟨index.sources, hsources, hids⟩
    · rintro ⟨sources, hsources, hids⟩
      exact ⟨⟨sources⟩, SourceIndex.load_eq_ok.mpr ⟨hsources, hids⟩⟩

/-- A folder with one file, whose two documents have one identifier. -/
def repeatedId : Disk :=
  [⟨⟨false, ["s", "a.json"]⟩,
    "[\x7b\"id\": \"a\", \"name\": \"A\"\x7d, \x7b\"id\": \"a\", \"name\": \"B\"\x7d]"⟩]

/-- Two documents with one identifier pass the check, and cannot be loaded. -/
theorem validate_passes_repeatedId : ¬ ∀ (disk : Disk) (settings : Settings) (path : String),
    (run disk settings (.validate [path] (some false))).ending.exitCode = 0 ↔
      ∃ index, SourceIndex.load disk (.ofText path) = .ok index := by
  intro agree
  have hpasses : (run repeatedId {} (.validate ["s"] (some false))).ending.exitCode = 0 := by
    decide +kernel
  have hfails : (SourceIndex.load repeatedId (.ofText "s")).isOk = false := by decide +kernel
  obtain ⟨index, hindex⟩ := (agree repeatedId {} "s").mp hpasses
  rw [hindex] at hfails
  cases hfails

end Command

end RuleElements
