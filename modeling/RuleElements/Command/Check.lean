import RuleElements.Library.Disk
import RuleElements.Lint
import RuleElements.Source

/-!
# Checking files with sources

A check goes through files one by one. A file that cannot be read and a document that is no source
are errors; a rule that would have no effect is a defect, which is an error only in a strict check.

Main definitions:
* `Checkup`: what a check finds, and what is reported while checking.
* `Checkup.ofFiles`: a check of files.
* `Checkup.errors`, `Checkup.warnings`: the findings by their weight.

Results:
* `Checkup.errors_lenient`: in a lenient check no defect is an error.
-/

namespace RuleElements

/-- A finding of a check. -/
inductive Finding
  /-- a file or a document that cannot be used -/
  | unusable (text : String)
  /-- a rule that would have no effect -/
  | defect (text : String)
  deriving DecidableEq, Repr

namespace Finding

/-- The text of a finding. -/
def text : Finding → String
  | .unusable text => text
  | .defect text => text

/-- Whether a finding is an error. -/
def isError (strict : Bool) : Finding → Bool
  | .unusable _ => true
  | .defect _ => strict

end Finding

/-- What a check finds; a fault ends it. -/
structure Checkup where
  findings : List Finding := []
  log : List LogLine := []
  fault : Option Fault := none
  deriving Inhabited

namespace Checkup

/-- A check that goes on with a further one, unless a fault has ended it. -/
def andThen (c next : Checkup) : Checkup :=
  match c.fault with
  | some _ => c
  | none => ⟨c.findings ++ next.findings, c.log ++ next.log, next.fault⟩

/-- The findings about a rule. The text `place` says where it stands. -/
def ofRule (place : String) (rule : List (String × Data)) : Checkup :=
  let linting := (ParsedElement.ofFields rule).lint
  { findings := linting.problems.map fun problem => .defect (place ++ ": " ++ problem)
    log := linting.log
    fault := linting.fault.map .arithmetic }

/-- The findings about the rules of a source. -/
def ofSource (path : String) (source : RuleSource) : Checkup :=
  source.rules.zipIdx.foldl
    (fun c (rule, place) =>
      c.andThen (ofRule (path ++ ":" ++ source.id ++ ".rules[" ++ toString place ++ "]") rule))
    {}

/-- The summary of the issues of a document, and the issues below it. -/
def summary (issues : List Issue) : String :=
  toString issues.length ++ " validation error" ++ (if issues.length = 1 then "" else "s") ++
    " for RuleSource" ++
    String.join (issues.map fun issue => "\n  " ++ Issue.messages [issue])

/-- The findings about a document. -/
def ofDocument (path : String) (doc : Data) : Checkup :=
  match RuleSource.read doc with
  | .valid source => ofSource path source
  | .invalid issues => { findings := [.unusable (path ++ ": " ++ summary issues)] }

/-- The findings about a file. -/
def ofFile (f : File) : Checkup :=
  match f.data with
  | .error fault =>
    if fault.isAboutReading then { findings := [.unusable (f.path.text ++ ": cannot read")] }
    else { fault := some fault }
  | .ok data =>
    match data.documents with
    | .error fault => { fault := some fault }
    | .ok docs => docs.foldl (fun c doc => c.andThen (ofDocument f.path.text doc)) {}

/-- The findings about files, up to the one with a fault. -/
def ofFiles (files : List File) : Checkup := files.foldl (fun c f => c.andThen (ofFile f)) {}

/-- The findings that are errors. -/
def errors (c : Checkup) (strict : Bool) : List String :=
  (c.findings.filter (Finding.isError strict)).map Finding.text

/-- The findings that are not errors. -/
def warnings (c : Checkup) (strict : Bool) : List String :=
  (c.findings.filter (!Finding.isError strict ·)).map Finding.text

/-- In a lenient check no defect is an error. -/
theorem errors_lenient (c : Checkup) (text : String) (h : text ∈ c.errors false) :
    .unusable text ∈ c.findings := by
  simp only [errors, List.mem_map, List.mem_filter] at h
  obtain ⟨finding, ⟨found, isError⟩, rfl⟩ := h
  cases finding with
  | unusable text => exact found
  | defect text => simp [Finding.isError] at isError

end Checkup

end RuleElements
