import RuleElements.Choice.Store
import RuleElements.Text.Split

/-!
# Placeholders

A text may refer to a selection by a placeholder: an opening brace, `item|`, a path and a closing
brace. The last part of the path, after its last point, is the flag of the selection. Placeholders
are found from the left and do not overlap, and what is put in is not read again.

Main definitions:
* `Placeholder.segments`: a text as literal characters and placeholders.
* `Placeholder.resolve`: the text with its selections put in.
-/

namespace RuleElements.Placeholder

/-- A part of a text with placeholders. -/
inductive Segment
  | literal (c : Char)
  | hole (path : List Char)
  deriving DecidableEq, Repr, Inhabited

/-- How a placeholder begins. -/
def opening : List Char := ['\x7b', 'i', 't', 'e', 'm', '|']

/-- How a placeholder ends. -/
def closing : Char := '\x7d'

/-- The path of the placeholder at the head of the characters, if there is one. -/
def holeAt? (cs : List Char) : Option (List Char) :=
  if opening.isPrefixOf cs then
    let rest := cs.drop opening.length
    let path := rest.takeWhile (· ≠ closing)
    if path.isEmpty || path.length = rest.length then none else some path
  else none

/-- The segments of the characters after the first `skip` ones. -/
def segmentsAfter : Nat → List Char → List Segment
  | _, [] => []
  | skip + 1, _ :: cs => segmentsAfter skip cs
  | 0, c :: cs =>
    match holeAt? (c :: cs) with
    | some path => .hole path :: segmentsAfter (opening.length + path.length) cs
    | none => .literal c :: segmentsAfter 0 cs

/-- A text as literal characters and placeholders. -/
def segments (s : String) : List Segment := segmentsAfter 0 s.toList

/-- Whether a text holds a placeholder. -/
def occurs (s : String) : Bool :=
  (segments s).any fun
    | .hole _ => true
    | .literal _ => false

/-- The flag that a path refers to. -/
def flagOf (path : List Char) : String := String.ofList ((path.splitOn '.').getLastD [])

/-- The text that stands for a selection: the value chosen, or the first of several. -/
def valueOf? : Selection → Option String
  | .one value => some value
  | .many values => values.head?

/-- What a segment becomes; nothing if it refers to a missing selection. -/
def fill (store : Option ChoiceStore) : Segment → Option (List Char)
  | .literal c => some [c]
  | .hole path =>
    ((store.bind (·.getSelection (flagOf path))).bind valueOf?).map String.toList

/-- The text with its selections put in; nothing if one of them is missing. -/
def resolve (store : Option ChoiceStore) (s : String) : Option String :=
  ((segments s).mapM (fill store)).map fun parts => String.ofList parts.flatten

end RuleElements.Placeholder
