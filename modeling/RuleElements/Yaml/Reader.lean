import RuleElements.Yaml.Alias
import RuleElements.Yaml.Meaning

/-!
# Reading YAML

A total reader of YAML texts with a single document. A node without aliases stands for a value.
Collections are gone through level by level, and the first failure on that way is the one that
counts.

Main definitions:
* `Node.toData`: the value that a node stands for.
* `Yaml.read`: the value that a text denotes.
-/

namespace RuleElements.Yaml

/-! ## The value of a node -/

/-- A value, or a failure with the depth of the collection in which it lies. -/
abbrev Reading (α : Type) := Except (Nat × Failure) α

namespace Reading

variable {α β : Type}

/-- A malformed part of a collection at a depth. -/
def malformed (depth : Nat) : Reading α := .error (depth, .malformed)

/-- Two values, or the failure that comes first, the one at the lesser depth. -/
def both (a : Reading α) (b : Reading β) : Reading (α × β) :=
  match a, b with
  | .ok a, .ok b => .ok (a, b)
  | .error e, .ok _ => .error e
  | .ok _, .error f => .error f
  | .error e, .error f => .error (if f.1 < e.1 then f else e)

end Reading

namespace Node

/-- The tag of a scalar. Without a name for it, the text of a plain scalar decides, and any other
scalar is a text. -/
def scalarTag (p : Properties) (plain : Bool) (text : String) : Tag :=
  match p.tag with
  | none => if plain then Tag.ofPlain text else .text
  | some name => if name = Tag.openName then Tag.ofPlain text else Tag.ofName name

/-- The tag of a collection that has the tag `own` if it has no name for one. -/
def collectionTag (own : Tag) (p : Properties) : Tag :=
  match p.tag with
  | none => own
  | some name => if name = Tag.openName then own else Tag.ofName name

/-- The tag of a node that may be a key. -/
def keyTag : Node → Tag
  | .alias _ => .foreign
  | .scalar p plain text => scalarTag p plain text
  | .sequence p _ => collectionTag .sequence p
  | .mapping p _ => collectionTag .mapping p

/-- The text of a scalar, or of the default value of a mapping. -/
def scalarText? : Node → Option String
  | .scalar _ _ text => some text
  | .mapping _ entries => ofDefault? entries
  | _ => none
where
  /-- The text under the first key for a default value. -/
  ofDefault? : List (Node × Node) → Option String
    | [] => none
    | (key, value) :: rest => if key.keyTag = .default then scalarText? value else ofDefault? rest

/-- The value of a node in a collection at a depth that must be a scalar. -/
def scalarData (depth : Nat) (tag : Tag) (node : Node) : Reading Data :=
  match node.scalarText? with
  | some text => (Meaning.ofScalar tag text).mapError (depth, ·)
  | none => .malformed depth

/-- The key that a node stands for in a mapping at a depth; a collection cannot be a key, and the
mark of a default value is a text there. -/
def toKey (depth : Nat) (node : Node) : Reading Key :=
  let tag := if node.keyTag = .default then .text else node.keyTag
  match scalarData depth tag node with
  | .error e => .error e
  | .ok d =>
    match d.toKey? with
    | some key => .ok key
    | none => .malformed depth

mutual

/-- Whether everything that a mapping takes in is a mapping or a sequence of mappings. -/
def merges : List (Node × Node) → Bool
  | [] => true
  | (key, value) :: rest => (key.keyTag != .merge || isMergeable value) && merges rest

/-- Whether a mapping can take in a node. -/
def isMergeable : Node → Bool
  | .mapping _ entries => merges entries
  | .sequence _ items => areMergeable items
  | _ => false

/-- Whether a mapping can take in each of some nodes. -/
def areMergeable : List Node → Bool
  | [] => true
  | .mapping _ entries :: rest => merges entries && areMergeable rest
  | _ :: _ => false

end

/-- The entries of a mapping: those that it takes in, and its own, which go before them. -/
def joinEntries (entries : Reading (List (Key × Data)) × Reading (List (Key × Data))) :
    Reading (List (Key × Data)) :=
  (entries.1.both entries.2).map fun (merged, own) => merged ++ own

mutual

/-- The value of a node in a collection at a depth. -/
def toData (depth : Nat) : Node → Reading Data
  | .alias _ => .malformed depth
  | .scalar p plain text =>
    let tag := scalarTag p plain text
    if tag = .sequence || tag = .mapping then .malformed (depth + 1)
    else scalarData depth tag (.scalar p plain text)
  | .sequence p items =>
    match collectionTag .sequence p with
    | .sequence => (itemsToData (depth + 1) items).map .list
    | .mapping => .malformed (depth + 1)
    | _ => .malformed depth
  | .mapping p entries =>
    match collectionTag .mapping p with
    | .mapping =>
      if merges entries then
        (joinEntries (entriesToData (depth + 1) entries)).map fun entries =>
          .ofEntries (Entries.ofPairs entries)
      else .malformed (depth + 1)
    | .sequence => .malformed (depth + 1)
    | tag => scalarData depth tag (.mapping p entries)

/-- The values of the items of a sequence at a depth. -/
def itemsToData (depth : Nat) : List Node → Reading (List Data)
  | [] => .ok []
  | item :: rest =>
    ((toData depth item).both (itemsToData depth rest)).map fun (item, rest) => item :: rest

/-- The entries that a mapping at a depth takes in, and its own. -/
def entriesToData (depth : Nat) :
    List (Node × Node) → Reading (List (Key × Data)) × Reading (List (Key × Data))
  | [] => (.ok [], .ok [])
  | (key, value) :: rest =>
    let (merged, own) := entriesToData depth rest
    if key.keyTag = .merge then
      let taken := (mergedEntries depth value).both merged
      (taken.map fun (entries, others) => entries ++ others, own)
    else
      let entry := (toKey depth key).both (toData depth value)
      (merged, (entry.both own).map fun (entry, rest) => entry :: rest)

/-- The entries that are taken in from a value: those of a mapping, or of a sequence of mappings, of
which earlier ones go before later ones. -/
def mergedEntries (depth : Nat) : Node → Reading (List (Key × Data))
  | .mapping _ entries => joinEntries (entriesToData depth entries)
  | .sequence _ items => mergedItems depth items
  | _ => .malformed depth

/-- The entries of the mappings of a sequence, the last one first. -/
def mergedItems (depth : Nat) : List Node → Reading (List (Key × Data))
  | [] => .ok []
  | .mapping _ entries :: rest =>
    ((mergedItems depth rest).both (joinEntries (entriesToData depth entries))).map
      fun (rest, entries) => rest ++ entries
  | _ :: _ => .malformed depth

end

end Node

/-! ## The value of a text -/

/-- Whether a character may stand in a text at all. -/
def isAllowed (c : Char) : Bool :=
  c = '\t' || c = '\n' || c = '\r' || (' ' ≤ c && c ≤ '~') || c = '\x85' ||
    ('\xa0' ≤ c && c ≠ '\uFFFE' && c ≠ '\uFFFF')

/-- The node of a text without aliases, if the text is well-formed. -/
def node? (s : String) : Option Node :=
  let cs := Text.unifyBreaks s.toList
  if cs.all isAllowed then ((Token.scan? cs).bind Node.ofTokens?).bind Node.expand? else none

/-- The value that a text denotes, if it is written in the format. -/
def read (s : String) : Except Failure Data :=
  match node? s with
  | some node => (node.toData 0).mapError (·.2)
  | none => .error .malformed

end RuleElements.Yaml
