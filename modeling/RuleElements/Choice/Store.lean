import RuleElements.Entry.Basic

/-!
# The choice store

What the player has chosen so far: selections by flag and switches by key. The store belongs to the
caller; the engine only looks things up and records choices.

Results:
* `ChoiceStore.getSelection_setSelection`, `ChoiceStore.getSelection_setSelection_of_ne`: a recorded
  selection is found again and leaves the others alone.
-/

namespace RuleElements

/-- Selections by flag and switches by key. -/
structure ChoiceStore where
  selections : List (String × Selection) := []
  toggles : List (String × Bool) := []
  deriving DecidableEq, Repr, Inhabited

namespace ChoiceStore

/-- The selection under a flag. -/
def getSelection (store : ChoiceStore) (flag : String) : Option Selection :=
  Fields.get? store.selections flag

/-- The store with a selection under a flag. -/
def setSelection (store : ChoiceStore) (flag : String) (selection : Selection) : ChoiceStore :=
  { store with selections := Fields.set store.selections flag selection }

/-- The store without the selection under a flag. -/
def clearSelection (store : ChoiceStore) (flag : String) : ChoiceStore :=
  { store with selections := Fields.erase store.selections flag }

/-- Whether there is a selection under a flag. -/
def isResolved (store : ChoiceStore) (flag : String) : Bool := Fields.has store.selections flag

/-- The switch under a key. -/
def getToggle (store : ChoiceStore) (key : String) : Option Bool := Fields.get? store.toggles key

/-- The store with a switch under a key. -/
def setToggle (store : ChoiceStore) (key : String) (on : Bool) : ChoiceStore :=
  { store with toggles := Fields.set store.toggles key on }

/-- The store as raw data. -/
def toData (store : ChoiceStore) : Data :=
  .object [("selections", .object (Fields.mapValues Names.toData store.selections)),
    ("toggles", .object (Fields.mapValues Data.boolean store.toggles))]

/-- A store from raw data. -/
def read : Data → Checked ChoiceStore :=
  Data.asModel "ChoiceStore" fun fields =>
    ChoiceStore.mk
      <$> Fields.defaulted fields "selections" [] (Data.asMap Names.read)
      <*> Fields.defaulted fields "toggles" [] (Data.asMap Data.asBoolean)

theorem getSelection_setSelection (store : ChoiceStore) (flag : String) (selection : Selection) :
    (store.setSelection flag selection).getSelection flag = some selection :=
  Fields.get?_set _ _ _

theorem getSelection_setSelection_of_ne (store : ChoiceStore) {flag other : String}
    (h : other ≠ flag) (selection : Selection) :
    (store.setSelection flag selection).getSelection other = store.getSelection other :=
  Fields.get?_set_of_ne h _ _

end ChoiceStore

end RuleElements
