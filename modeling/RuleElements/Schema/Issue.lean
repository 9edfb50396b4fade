import RuleElements.Data.Basic

/-!
# Issues

What is wrong with a raw value that should describe something: where in the value, and what. A check
collects all issues of a value instead of stopping at the first.

Main definitions:
* `Problem`, `Issue`: the cause, and the cause with its place.
* `Checked`: a checked value, or the issues; as an applicative functor it joins the issues of its
  parts in order.
-/

namespace RuleElements

/-- A cause for refusing a raw value. -/
inductive Problem
  | missing
  | notText
  | notInteger
  | unreadableInteger
  | fractional
  | notFinite
  | integerTooLarge
  | notBoolean
  | unreadableBoolean
  | notNumber
  | unreadableNumber
  | notOneOf (allowed : List String)
  | notList
  | notDictionary
  | notModel (name : String)
  | notObject
  | invalidJson
  /-- a rule about several parts is broken -/
  | broken (reason : String)
  deriving DecidableEq, Repr, Inhabited

/-- Quoted words with commas between them and `or` before the last one. -/
def alternatives : List String → String
  | [] => ""
  | [s] => "'" ++ s ++ "'"
  | [s, t] => "'" ++ s ++ "' or '" ++ t ++ "'"
  | s :: rest => "'" ++ s ++ "', " ++ alternatives rest

/-- The wording of a cause. -/
def Problem.message : Problem → String
  | .missing => "Field required"
  | .notText => "Input should be a valid string"
  | .notInteger => "Input should be a valid integer"
  | .unreadableInteger => "Input should be a valid integer, unable to parse string as an integer"
  | .fractional => "Input should be a valid integer, got a number with a fractional part"
  | .notFinite => "Input should be a finite number"
  | .integerTooLarge => "Unable to parse input string as an integer, exceeded maximum size"
  | .notBoolean => "Input should be a valid boolean"
  | .unreadableBoolean => "Input should be a valid boolean, unable to interpret input"
  | .notNumber => "Input should be a valid number"
  | .unreadableNumber => "Input should be a valid number, unable to parse string as a number"
  | .notOneOf allowed => "Input should be " ++ alternatives allowed
  | .notList => "Input should be a valid list"
  | .notDictionary => "Input should be a valid dictionary"
  | .notModel name => "Input should be a valid dictionary or instance of " ++ name
  | .notObject => "Input should be an object"
  | .invalidJson => "Invalid JSON"
  | .broken reason => "Value error, " ++ reason

/-- A cause at a place: the names of the fields and the places in lists that lead there. -/
structure Issue where
  path : List String
  problem : Problem
  deriving DecidableEq, Repr, Inhabited

/-- The wording of an issue. -/
def Issue.message (issue : Issue) : String :=
  ".".intercalate issue.path ++ ": " ++ issue.problem.message

/-- The wording of several issues. -/
def Issue.messages (issues : List Issue) : String := "; ".intercalate (issues.map message)

/-- The outcome of a check: a value, or what is wrong. -/
inductive Checked (α : Type)
  | valid (value : α)
  | invalid (issues : List Issue)
  deriving Repr

namespace Checked

variable {α β : Type}

instance [Inhabited α] : Inhabited (Checked α) := ⟨.valid default⟩

/-- A single issue at the place of the value itself. -/
def fail (problem : Problem) : Checked α := .invalid [⟨[], problem⟩]

/-- The issues; none for a valid value. -/
def issues : Checked α → List Issue
  | .valid _ => []
  | .invalid found => found

/-- The value, if there are no issues. -/
def toOption : Checked α → Option α
  | .valid a => some a
  | .invalid _ => none

/-- The outcome with a function applied to the value. -/
def map (f : α → β) : Checked α → Checked β
  | .valid a => .valid (f a)
  | .invalid found => .invalid found

/-- A function and its argument, with the issues of both. -/
def seq (f : Checked (α → β)) (a : Unit → Checked α) : Checked β :=
  match f, a () with
  | .valid f, .valid a => .valid (f a)
  | f, a => .invalid (f.issues ++ a.issues)

instance : Applicative Checked where
  map := map
  pure := valid
  seq := seq

/-- A further check of a valid value. -/
def andThen (a : Checked α) (next : α → Checked β) : Checked β :=
  match a with
  | .valid a => next a
  | .invalid found => .invalid found

/-- The outcome of a part, with its issues placed under the part's name. -/
def under (name : String) : Checked α → Checked α
  | .valid a => .valid a
  | .invalid found => .invalid (found.map fun issue => ⟨name :: issue.path, issue.problem⟩)

end Checked

end RuleElements
