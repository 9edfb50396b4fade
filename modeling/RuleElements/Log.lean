import RuleElements.Numeric.Number

/-!
# Log lines and attempts

What the engine reports while it works: a severity, the part of the engine that speaks, and a text.
Processing a rule element has three outcomes: it gives something, it turns out to be inert and the
reasons are reported, or its arithmetic fails.

Main definitions:
* `LogLine`: a line of the log.
* `Attempt`: the outcome of an attempt, with `Attempt.andThen` for a further one.

Results:
* `Attempt.map_eq_made`, `Attempt.andThen_eq_made`: an attempt that gives something had parts that
  did.
-/

namespace RuleElements

/-! ## Log lines -/

/-- How much a log line matters. -/
inductive Severity
  | debug
  | warning
  deriving DecidableEq, Repr, Inhabited

/-- The part of the engine that a log line comes from. -/
inductive Origin
  | values
  | predicates
  | processors
  | registry
  | sheet
  deriving DecidableEq, Repr, Inhabited

/-- A line of the log. -/
structure LogLine where
  severity : Severity
  origin : Origin
  text : String
  deriving DecidableEq, Repr, Inhabited

/-- The word for a severity. -/
def Severity.name : Severity → String
  | .debug => "DEBUG"
  | .warning => "WARNING"

/-- The rank of a severity on the common scale of log levels. -/
def Severity.rank : Severity → Nat
  | .debug => 10
  | .warning => 30

/-- The word for a part of the engine. -/
def Origin.name : Origin → String
  | .values => "values"
  | .predicates => "predicates"
  | .processors => "processors"
  | .registry => "registry"
  | .sheet => "sheet"

/-- The line with its severity and its origin, which stands under the path `scope`. -/
def LogLine.render (scope : String) (line : LogLine) : String :=
  line.severity.name ++ " " ++ scope ++ line.origin.name ++ ": " ++ line.text

/-- A warning. -/
def LogLine.warning (origin : Origin) (text : String) : LogLine := ⟨.warning, origin, text⟩

/-- A remark for whoever looks into the engine's work. -/
def LogLine.debug (origin : Origin) (text : String) : LogLine := ⟨.debug, origin, text⟩

/-! ## Attempts -/

/-- The outcome of an attempt. -/
inductive Attempt (α : Type)
  | made (a : α)
  | inert (reasons : List LogLine)
  | failed (fault : ArithmeticFault)
  deriving Repr

namespace Attempt

variable {α β : Type}

instance : Inhabited (Attempt α) := ⟨.inert []⟩

/-- What a function makes of a result. -/
def map (f : α → β) : Attempt α → Attempt β
  | .made a => .made (f a)
  | .inert reasons => .inert reasons
  | .failed fault => .failed fault

/-- A further attempt with the result. -/
def andThen (a : Attempt α) (next : α → Attempt β) : Attempt β :=
  match a with
  | .made a => next a
  | .inert reasons => .inert reasons
  | .failed fault => .failed fault

/-- Arithmetic that may fail, as an attempt. -/
def ofArithmetic : Except ArithmeticFault α → Attempt α
  | .ok a => .made a
  | .error fault => .failed fault

/-- The result, if there is one. -/
def result? : Attempt α → Option α
  | .made a => some a
  | _ => none

theorem map_eq_made {f : α → β} {a : Attempt α} {b : β} :
    a.map f = .made b ↔ ∃ x, a = .made x ∧ f x = b := by
  cases a <;> simp [map]

theorem andThen_eq_made {next : α → Attempt β} {a : Attempt α} {b : β} :
    a.andThen next = .made b ↔ ∃ x, a = .made x ∧ next x = .made b := by
  cases a <;> simp [andThen]

theorem ofArithmetic_eq_made {x : Except ArithmeticFault α} {y : α} :
    ofArithmetic x = .made y ↔ x = .ok y := by
  cases x <;> simp [ofArithmetic]

theorem ofArithmetic_eq_failed {x : Except ArithmeticFault α} {fault : ArithmeticFault} :
    ofArithmetic x = .failed fault ↔ x = .error fault := by
  cases x <;> simp [ofArithmetic]

theorem result?_eq_some {a : Attempt α} {x : α} : a.result? = some x ↔ a = .made x := by
  cases a <;> simp [result?]

end Attempt

end RuleElements
