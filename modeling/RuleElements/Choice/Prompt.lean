import RuleElements.Choice.Store
import RuleElements.Element.Writer
import RuleElements.Fault

/-!
# Choice prompts

A prompt asks the player for a number of different values among its choices.

Main definitions:
* `ChoicePrompt.accepts`: whether a selection answers the prompt.
* `ChoicePrompt.record`: a selection that does is stored under the flag of the prompt.
-/

namespace RuleElements.ChoicePrompt

/-- The values chosen so far. -/
def selectedValues (p : ChoicePrompt) : List String := (p.selection.map Names.toList).getD []

/-- The choices that apply in a context. -/
def available (p : ChoicePrompt) (ctx : Context) : List ChoiceOption :=
  p.choices.filter (Gated.applies ctx)

/-- Whether no text occurs twice. -/
def allDifferent : List String → Bool
  | [] => true
  | s :: rest => !rest.contains s && allDifferent rest

/-- Whether a selection has the right number of values, all different and among the choices. -/
def accepts (p : ChoicePrompt) (selection : Selection) : Bool :=
  let values := selection.toList
  (values.length : Int) == p.selectionCount && allDifferent values &&
    values.all fun v => p.choices.any (·.value == v)

/-- The label of a value: that of the last choice with it, or the value itself. -/
def labelOf (p : ChoicePrompt) (value : String) : String :=
  ((p.choices.reverse.find? (·.value == value)).map (·.label)).getD value

/-- The labels of the values chosen so far. -/
def selectionLabel (p : ChoicePrompt) : String :=
  match p.selectedValues with
  | [] => "Not selected"
  | values => ", ".intercalate (values.map p.labelOf)

/-- Whether as many values are chosen as the prompt asks for. -/
def isComplete (p : ChoicePrompt) : Bool := (p.selectedValues.length : Int) == p.selectionCount

/-- The prompt with a selection. -/
def withSelection (p : ChoicePrompt) (selection : Selection) : ChoicePrompt :=
  { p with selection := some selection }

/-- Why a selection that does not answer the prompt is refused. -/
def refusal (p : ChoicePrompt) (selection : Selection) : Fault :=
  .wrongSelection ("Invalid selection " ++ selection.toData.display ++ " for '" ++ p.flag ++
    "': expected " ++ toString p.selectionCount ++ " of " ++
    Data.displayTexts (p.choices.map (·.value)))

/-- The store and the prompt after a selection has been made. -/
def record (store : ChoiceStore) (p : ChoicePrompt) (selection : Selection) :
    Except Fault (ChoiceStore × ChoicePrompt) :=
  if p.accepts selection then
    .ok (store.setSelection p.flag selection, p.withSelection selection)
  else .error (p.refusal selection)

/-- A selection made in a store that is changed in place: what has been changed before a failure
would stay. The selection is checked first. -/
def recordIn (p : ChoicePrompt) (selection : Selection) :
    ExceptT Fault (StateM ChoiceStore) ChoicePrompt := do
  if !p.accepts selection then throw (p.refusal selection)
  modify (·.setSelection p.flag selection)
  return p.withSelection selection

end RuleElements.ChoicePrompt
