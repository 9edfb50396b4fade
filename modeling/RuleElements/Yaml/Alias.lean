import RuleElements.Yaml.Node

/-!
# Repeated nodes

A node with a name is repeated by an alias further on. No name is given twice, and an alias does not
stand inside the node that it repeats.

Main definitions:
* `Node.expand?`: a node with the repeated nodes in the place of their aliases.
-/

namespace RuleElements.Yaml

/-- The nodes with names so far; nothing for one that is not complete yet. -/
abbrev Anchors := List (String × Option Node)

namespace Anchors

/-- With the name of a node that begins here, if it has one that is new. -/
def begin? (known : Anchors) (p : Properties) : Option Anchors :=
  match p.anchor with
  | none => some known
  | some name => if Fields.has known name then none else some (Fields.set known name none)

/-- With a node that is complete under its name, if it has one. -/
def finish (known : Anchors) (p : Properties) (node : Node) : Anchors :=
  match p.anchor with
  | none => known
  | some name => Fields.set known name (some node)

end Anchors

namespace Node

mutual

/-- A node without aliases, and the nodes with names after it. -/
def expandFrom (known : Anchors) : Node → Option (Node × Anchors)
  | .alias name =>
    match Fields.get? known name with
    | some (some node) => some (node, known)
    | _ => none
  | .scalar p plain text =>
    let node : Node := .scalar p plain text
    (known.begin? p).map fun known => (node, known.finish p node)
  | .sequence p items =>
    match known.begin? p with
    | none => none
    | some known =>
      (expandItems known items).map fun (items, known) =>
        (.sequence p items, known.finish p (.sequence p items))
  | .mapping p entries =>
    match known.begin? p with
    | none => none
    | some known =>
      (expandEntries known entries).map fun (entries, known) =>
        (.mapping p entries, known.finish p (.mapping p entries))

/-- The items of a sequence without aliases. -/
def expandItems (known : Anchors) : List Node → Option (List Node × Anchors)
  | [] => some ([], known)
  | item :: rest =>
    match expandFrom known item with
    | none => none
    | some (item, known) =>
      (expandItems known rest).map fun (rest, known) => (item :: rest, known)

/-- The entries of a mapping without aliases. -/
def expandEntries (known : Anchors) : List (Node × Node) → Option (List (Node × Node) × Anchors)
  | [] => some ([], known)
  | (key, value) :: rest =>
    match expandFrom known key with
    | none => none
    | some (key, known) =>
      match expandFrom known value with
      | none => none
      | some (value, known) =>
        (expandEntries known rest).map fun (rest, known) => ((key, value) :: rest, known)

end

/-- A node with the repeated nodes in the place of their aliases. -/
def expand? (node : Node) : Option Node := (expandFrom [] node).map (·.1)

end Node

end RuleElements.Yaml
