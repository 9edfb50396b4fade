import RuleElements.Text.Numeral

/-!
# Predicates

A predicate says when something applies: a list of statements that must all hold in a context. A
statement is an option, which is looked up in the context or read as a test on the character itself,
or a compound of statements.

Main definitions:
* `Context`: what statements are checked against.
* `Context.holds`: a single option.
* `Statement.holds`, `Predicate.holds`: statements and predicates.

Results:
* `Predicate.holds_iff`: a predicate holds if each of its statements does.
-/

namespace RuleElements

/-- What predicates are checked against: the options in force, and the level, traits and effects of
the character as far as they are known. -/
structure Context where
  options : List String := []
  level : Option Int := none
  traits : Option (List String) := none
  effects : Option (List String) := none
  deriving DecidableEq, Repr, Inhabited

/-- A statement. Of the parts of a compound only the first one that is there counts: the negated
statement, then the statements that must all hold, then those of which one must hold. -/
inductive Statement
  | option (name : String)
  | compound (all : Option (List Statement)) (any : Option (List Statement))
      (negated : Option Statement)
  deriving Repr, Inhabited

/-- Statements that must all hold. -/
abbrev Predicate := List Statement

/-- How a level is compared. -/
inductive LevelTest
  | exact
  | atLeast
  | atMost
  | above
  | below
  deriving DecidableEq, Repr, Inhabited

namespace LevelTest

/-- The test with the given word. -/
def ofWord? : String → Option LevelTest
  | "exact" => some .exact
  | "gte" => some .atLeast
  | "lte" => some .atMost
  | "gt" => some .above
  | "lt" => some .below
  | _ => none

/-- Whether a level passes the test. -/
def passes (level bound : Int) : LevelTest → Bool
  | .exact => level == bound
  | .atLeast => bound ≤ level
  | .atMost => level ≤ bound
  | .above => bound < level
  | .below => level < bound

end LevelTest

namespace Context

/-- The context with an option put in force. -/
def addOption (ctx : Context) (option : String) : Context :=
  if ctx.options.contains option then ctx else { ctx with options := ctx.options ++ [option] }

/-- The context without an option. -/
def removeOption (ctx : Context) (option : String) : Context :=
  { ctx with options := ctx.options.filter (· ≠ option) }

/-- Whether an option is in force. -/
def hasOption (ctx : Context) (option : String) : Bool := ctx.options.contains option

/-- Whether the level of the character passes the test in the given parts: a number, or a word for
the comparison and a number; more parts do not count. -/
def passesLevel (ctx : Context) (parts : List String) : Bool :=
  match ctx.level, parts with
  | some level, [bound] => (Text.readInteger? bound).any (level == ·)
  | some level, test :: bound :: _ =>
    match LevelTest.ofWord? test, Text.readInteger? bound with
    | some test, some bound => test.passes level bound
    | _, _ => false
  | _, _ => false

/-- Whether a test on the character itself passes: `self`, what is tested, and how. -/
def passesSelf (ctx : Context) : List String → Bool
  | "self" :: "effect" :: name :: _ => (ctx.effects.getD []).contains name
  | "self" :: "trait" :: name :: _ => (ctx.traits.getD []).contains name
  | "self" :: "level" :: part :: parts => ctx.passesLevel (part :: parts)
  | _ => false

/-- Whether a single option holds: it is in force, or it is a test that the character passes. -/
def holds (ctx : Context) (option : String) : Bool :=
  ctx.hasOption option || ctx.passesSelf (Text.splitAt ':' option)

end Context

mutual

/-- Whether a statement holds. -/
def Statement.holds (ctx : Context) : Statement → Bool
  | .option name => ctx.holds name
  | .compound _ _ (some negated) => !negated.holds ctx
  | .compound (some all) _ none => Statement.allHold ctx all
  | .compound none (some any) none => Statement.anyHolds ctx any
  | .compound none none none => true

/-- Whether all statements of a list hold. -/
def Statement.allHold (ctx : Context) : List Statement → Bool
  | [] => true
  | s :: rest => s.holds ctx && Statement.allHold ctx rest

/-- Whether one statement of a list holds. -/
def Statement.anyHolds (ctx : Context) : List Statement → Bool
  | [] => false
  | s :: rest => s.holds ctx || Statement.anyHolds ctx rest

end

/-- Whether a predicate holds. -/
def Predicate.holds (ctx : Context) (p : Predicate) : Bool := Statement.allHold ctx p

/-- Whether a predicate that may be missing holds; a missing one always does. -/
def Predicate.holdsIn (ctx : Context) : Option Predicate → Bool
  | none => true
  | some p => p.holds ctx

theorem Statement.allHold_eq_all (ctx : Context) (p : List Statement) :
    Statement.allHold ctx p = p.all (·.holds ctx) := by
  induction p with
  | nil => rfl
  | cons s rest ih => simp [Statement.allHold, ih]

/-- A predicate holds if each of its statements does. -/
theorem Predicate.holds_iff {ctx : Context} {p : Predicate} :
    p.holds ctx = true ↔ ∀ s ∈ p, s.holds ctx = true := by
  simp [Predicate.holds, Statement.allHold_eq_all]

/-- Things that apply only when a predicate holds. -/
class Gated (α : Type) where
  predicate : α → Option Predicate

/-- Whether something applies in a context. -/
def Gated.applies {α : Type} [Gated α] (ctx : Context) (a : α) : Bool :=
  Predicate.holdsIn ctx (Gated.predicate a)

/-- Whether something applies in a context; without a context everything does. -/
def Gated.appliesIn {α : Type} [Gated α] (ctx : Option Context) (a : α) : Bool :=
  match ctx with
  | none => true
  | some ctx => Gated.applies ctx a

end RuleElements
