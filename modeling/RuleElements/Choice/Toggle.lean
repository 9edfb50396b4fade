import RuleElements.Aggregate
import RuleElements.Choice.Store
import RuleElements.Fault
import RuleElements.Text.Split

/-!
# Switches and roll options

Roll options and switched properties put options in force. A switched property names its option, or
it is derived from a path under the flags of the game system.

Main definitions:
* `Aggregate.activeOptions`: the options that an aggregate puts in force in a context.
-/

namespace RuleElements

/-- Whether a roll option is in force in a context. -/
def RollOption.isActive (r : RollOption) (ctx : Context) : Bool :=
  r.enabled && Gated.applies ctx r

/-- The option that a path of the game system's flags stands for. -/
def optionOfPath? (path : String) : Option String :=
  match Text.splitAt '.' path with
  | "flags" :: "pf2e" :: category :: name :: rest =>
    some (":".intercalate (category :: name :: rest))
  | _ => none

/-- The options of a switched property that is on. -/
def ToggleProperty.options (t : ToggleProperty) : List String :=
  if t.enabled then
    match t.rollOption with
    | some option => if option = "" then (optionOfPath? t.property).toList else [option]
    | none => (optionOfPath? t.property).toList
  else []

/-- Switches the property in the store; the new state comes with the store. -/
def ToggleProperty.flip (t : ToggleProperty) (store : ChoiceStore) : Bool × ChoiceStore :=
  (!t.enabled, store.setToggle t.property !t.enabled)

/-- Switches the roll option in the store; the new state comes with the store. An option without a
name cannot be switched. -/
def RollOption.flip (r : RollOption) (store : ChoiceStore) : Except Fault (Bool × ChoiceStore) :=
  if r.option = "" then .error .namelessOption
  else .ok (!r.enabled, store.setToggle r.option !r.enabled)

/-- The options that an aggregate puts in force in a context, each once. -/
def Aggregate.activeOptions (a : Aggregate) (ctx : Context) : List String :=
  ((a.rollOptions.filter (·.isActive ctx)).map (·.option) ++
    (a.toggleProperties.filter (Gated.applies ctx)).flatMap (·.options)).eraseDups

end RuleElements
