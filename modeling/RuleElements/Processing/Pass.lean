import RuleElements.Aggregate
import RuleElements.Element.Reader
import RuleElements.Processing.Adjustment

/-!
# A pass over rule elements

A pass takes rule elements in order, from one source at one level. Each gives an entry, or a remark
says why it does not; an adjustment changes the modifiers before it and leaves a remark.

Main definitions:
* `Pass`: the aggregate so far, and the log.
* `Pass.step`: one rule element.
* `Processing.run`: a whole pass.
* `Processing.reports`: what a pass reports, though it may not come to its end.

Results:
* `Processing.runFrom_append`: a pass over a joined list is two passes one after the other.
* `Processing.reports_of_run`: a pass that comes to its end has reported its log.
-/

namespace RuleElements

/-- A pass so far: what it has given, and what it has reported. -/
structure Pass where
  aggregate : Aggregate := {}
  log : List LogLine := []
  deriving Repr, Inhabited

namespace Pass

/-- The pass with a remark that is also reported. -/
def remark (pass : Pass) (severity : Severity) (line : String) : Pass :=
  { aggregate := pass.aggregate.note ("[Rules] " ++ line)
    log := pass.log ++ [⟨severity, .registry, "[Rules] " ++ line⟩] }

/-- The pass with further lines in its log. -/
def report (pass : Pass) (lines : List LogLine) : Pass := { pass with log := pass.log ++ lines }

/-- The pass with an entry. -/
def enter (pass : Pass) (entry : Entry) : Pass :=
  { pass with aggregate := pass.aggregate.insert entry }

/-- How a payload that is not understood is named in its remark. -/
def skipText (p : Processing) (payload : Unrecognized) : String :=
  "Skipped '" ++ (if payload.key = "" then "?" else payload.key) ++ "' from " ++ p.source ++
    ": " ++ payload.reason

/-- A payload that is not understood is skipped. -/
def skip (p : Processing) (pass : Pass) (payload : Unrecognized) : Pass :=
  pass.remark .warning (skipText p payload)

/-- The remark on a rule element that gives nothing. -/
def inertText (p : Processing) (e : RuleElement) : String :=
  e.kind.name ++ " from " ++ p.source ++ " has no effect"

/-- The remark on a rule element whose arithmetic fails. -/
def failureText (p : Processing) (e : RuleElement) (fault : ArithmeticFault) : String :=
  e.kind.name ++ " from " ++ p.source ++ " failed: " ++ fault.message

/-- A rule element other than an adjustment. -/
def take (p : Processing) (pass : Pass) (e : RuleElement) : Pass :=
  match e.process p with
  | .made entry => pass.enter entry
  | .inert reasons => (pass.report reasons).remark .debug (inertText p e)
  | .failed fault => pass.remark .warning (failureText p e fault)

/-- How an adjustment is named in remarks. -/
def adjustmentName (p : Processing) (rule : AdjustModifierRule) : String :=
  "AdjustModifier '" ++ rule.selector ++ "' from " ++ p.source

/-- The remark on an adjustment whose operand cannot be resolved. -/
def unresolvedText (p : Processing) (rule : AdjustModifierRule) : String :=
  adjustmentName p rule ++ " has unresolvable value " ++
    (Data.ofOption Operand.toData rule.value).display

/-- The remark on an adjustment that concerns a modifier. -/
def appliedText (p : Processing) (rule : AdjustModifierRule) : String :=
  adjustmentName p rule ++ " applied"

/-- The remark on an adjustment that concerns no modifier. -/
def unmatchedText (p : Processing) (rule : AdjustModifierRule) : String :=
  adjustmentName p rule ++ " matched nothing"

/-- An adjustment. Its operand is resolved first, whether a modifier is concerned or not. -/
def adjust (p : Processing) (pass : Pass) (rule : AdjustModifierRule) :
    Except ArithmeticFault Pass :=
  match rule.change p.level with
  | .failed fault => .error fault
  | .inert reasons => .ok ((pass.report reasons).remark .warning (unresolvedText p rule))
  | .made change =>
    if pass.aggregate.modifiers.any rule.fits then
      match rule.adjust change pass.aggregate.modifiers with
      | .error fault => .error fault
      | .ok modifiers =>
        .ok <| { pass with aggregate := { pass.aggregate with modifiers } }.remark .debug
          (appliedText p rule)
    else .ok (pass.remark .debug (unmatchedText p rule))

/-- A single rule element. Only the arithmetic of an adjustment can end the pass. -/
def step (p : Processing) (pass : Pass) : ParsedElement → Except ArithmeticFault Pass
  | .unrecognized payload => .ok (pass.skip p payload)
  | .known e =>
    match e.effect with
    | .adjustModifier rule => pass.adjust p rule
    | _ => .ok (pass.take p e)

end Pass

namespace Processing

/-- A pass over rule elements that goes on from an earlier state. -/
def runFrom (p : Processing) (pass : Pass) (elements : List ParsedElement) :
    Except ArithmeticFault Pass :=
  elements.foldlM (Pass.step p) pass

/-- A pass over rule elements. -/
def run (p : Processing) (elements : List ParsedElement) : Except ArithmeticFault Pass :=
  p.runFrom {} elements

/-- A pass over payloads. -/
def runRaw (p : Processing) (rules : List Data) : Except ArithmeticFault Pass :=
  p.run (rules.map ParsedElement.ofData)

/-- The log of a pass that goes on from an earlier state, up to the rule element that ends it, if
one does. -/
def reportsFrom (p : Processing) (pass : Pass) : List ParsedElement → List LogLine
  | [] => pass.log
  | e :: rest =>
    match pass.step p e with
    | .ok next => p.reportsFrom next rest
    | .error _ => pass.log

/-- What a pass reports, up to the rule element that ends it, if one does. -/
def reports (p : Processing) (elements : List ParsedElement) : List LogLine :=
  p.reportsFrom {} elements

/-- A pass over a joined list is two passes one after the other. -/
theorem runFrom_append (p : Processing) (pass : Pass) (xs ys : List ParsedElement) :
    p.runFrom pass (xs ++ ys) = (p.runFrom pass xs).bind fun middle => p.runFrom middle ys := by
  unfold runFrom
  rw [List.foldlM_append]
  rfl

/-- A pass that goes on to its end has reported its log. -/
theorem reportsFrom_of_runFrom (p : Processing) {elements : List ParsedElement} {pass done : Pass}
    (h : p.runFrom pass elements = .ok done) : p.reportsFrom pass elements = done.log := by
  induction elements generalizing pass with
  | nil =>
    cases h
    rfl
  | cons e rest ih =>
    cases taken : pass.step p e with
    | error fault =>
      simp [runFrom, List.foldlM_cons, taken, bind, Except.bind] at h
    | ok next =>
      have onward : p.runFrom next rest = .ok done := by
        simpa [runFrom, List.foldlM_cons, taken, bind, Except.bind] using h
      simp [reportsFrom, taken, ih onward]

/-- A pass that comes to its end has reported its log. -/
theorem reports_of_run (p : Processing) {elements : List ParsedElement} {done : Pass}
    (h : p.run elements = .ok done) : p.reports elements = done.log :=
  reportsFrom_of_runFrom p h

end Processing

end RuleElements
