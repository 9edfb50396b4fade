import RuleElements.Data.Fields
import RuleElements.Yaml.Tag
import RuleElements.Yaml.Token

/-!
# Nodes of YAML

The tokens of a document make up a node: a scalar, a sequence or a mapping, with its name and its
tag, or a node repeated by its name. Something that is left out, such as a value after a colon, is
an empty plain scalar.

Main definitions:
* `Node.ofTokens?`: the node of the only document of a text.
-/

namespace RuleElements.Yaml

/-- What stands before a node: a name, and the full name of its tag. -/
structure Properties where
  anchor : Option String := none
  tag : Option String := none
  deriving DecidableEq, Repr, Inhabited

/-- A part of a document. -/
inductive Node
  | alias (name : String)
  | scalar (properties : Properties) (plain : Bool) (text : String)
  | sequence (properties : Properties) (items : List Node)
  | mapping (properties : Properties) (entries : List (Node × Node))
  deriving Repr, Inhabited

namespace Node

/-- What is left out. -/
def empty : Node := .scalar {} true ""

/-- The properties at the head of tokens, in either order, and the rest. Tags are in full. -/
def properties : List Token → Properties × List Token
  | .anchor name :: .tag tag :: ts => (⟨some name, some tag.suffix⟩, ts)
  | .tag tag :: .anchor name :: ts => (⟨some name, some tag.suffix⟩, ts)
  | .anchor name :: ts => (⟨some name, none⟩, ts)
  | .tag tag :: ts => (⟨none, some tag.suffix⟩, ts)
  | ts => ({}, ts)

/-- Whether a node may be left out before a token, in a block collection. -/
def missingInBlock : List Token → Bool
  | .key :: _ => true
  | .value :: _ => true
  | .blockEnd :: _ => true
  | _ => false

/-- Whether an entry without an indentation of its own may be left out before a token. -/
def missingEntry : List Token → Bool
  | .blockEntry :: _ => true
  | ts => missingInBlock ts

/-- Whether a node may be left out before a token, in a flow sequence. -/
def missingInFlowSequence : List Token → Bool
  | .flowEntry :: _ => true
  | .flowSequenceEnd :: _ => true
  | _ => false

/-- Whether a node may be left out before a token, in a flow mapping. -/
def missingInFlowMapping : List Token → Bool
  | .flowEntry :: _ => true
  | .flowMappingEnd :: _ => true
  | _ => false

/-- The tokens after a comma, unless the entry is the first one, which has none before it. -/
def afterComma (first : Bool) : List Token → Option (List Token)
  | .flowEntry :: ts => if first then none else some ts
  | ts => if first then some ts else none

/-- Properties without a node after them are those of an empty scalar. -/
def bare (p : Properties) (ts : List Token) : Option (Node × List Token) :=
  if p = {} then none else some (.scalar p true "", ts)

mutual

/-- A node of a flow collection, or of a block collection if `block` holds. -/
def parse (block : Bool) : Nat → List Token → Option (Node × List Token)
  | 0, _ => none
  | bound + 1, ts =>
    match properties ts with
    | (p, .plain s :: ts) => some (.scalar p true s, ts)
    | (p, .quoted s :: ts) => some (.scalar p false s, ts)
    | (p, .flowSequence :: ts) =>
      (parseFlowItems true bound ts).map fun (items, ts) => (.sequence p items, ts)
    | (p, .flowMapping :: ts) =>
      (parseFlowEntries true bound ts).map fun (entries, ts) => (.mapping p entries, ts)
    | (p, .blockSequence :: ts) =>
      if block then (parseItems bound ts).map fun (items, ts) => (.sequence p items, ts)
      else bare p (.blockSequence :: ts)
    | (p, .blockMapping :: ts) =>
      if block then (parseEntries bound ts).map fun (entries, ts) => (.mapping p entries, ts)
      else bare p (.blockMapping :: ts)
    | (p, .alias name :: ts) =>
      if p = {} then some (.alias name, ts) else bare p (.alias name :: ts)
    | (p, ts) => bare p ts

/-- A node of a block mapping, whose sequences may do without an indentation of their own. -/
def parseInMapping : Nat → List Token → Option (Node × List Token)
  | 0, _ => none
  | bound + 1, ts =>
    match properties ts with
    | (p, .blockEntry :: rest) =>
      (parseBareItems bound (.blockEntry :: rest)).map fun (items, ts) => (.sequence p items, ts)
    | _ => if missingInBlock ts then some (empty, ts) else parse true bound ts

/-- The items of a block sequence, with its end. -/
def parseItems : Nat → List Token → Option (List Node × List Token)
  | 0, _ => none
  | bound + 1, ts =>
    match ts with
    | .blockEntry :: .blockEntry :: ts =>
      (parseItems bound (.blockEntry :: ts)).map fun (items, ts) => (empty :: items, ts)
    | .blockEntry :: .blockEnd :: ts => some ([empty], ts)
    | .blockEntry :: ts =>
      (parse true bound ts).bind fun (item, ts) =>
        (parseItems bound ts).map fun (items, ts) => (item :: items, ts)
    | .blockEnd :: ts => some ([], ts)
    | _ => none

/-- The items of a block sequence without an indentation of its own. -/
def parseBareItems : Nat → List Token → Option (List Node × List Token)
  | 0, _ => none
  | bound + 1, ts =>
    match ts with
    | .blockEntry :: ts =>
      let item := if missingEntry ts then some (empty, ts) else parse true bound ts
      item.bind fun (item, ts) =>
        (parseBareItems bound ts).map fun (items, ts) => (item :: items, ts)
    | ts => some ([], ts)

/-- The entries of a block mapping, with its end. -/
def parseEntries : Nat → List Token → Option (List (Node × Node) × List Token)
  | 0, _ => none
  | bound + 1, ts =>
    match ts with
    | .key :: ts =>
      (parseInMapping bound ts).bind fun (key, ts) => parseValue bound key ts
    | .blockEnd :: ts => some ([], ts)
    | _ => none

/-- The value of a key of a block mapping, and the entries after it. -/
def parseValue : Nat → Node → List Token → Option (List (Node × Node) × List Token)
  | 0, _, _ => none
  | bound + 1, key, ts =>
    match ts with
    | .value :: ts =>
      (parseInMapping bound ts).bind fun (value, ts) =>
        (parseEntries bound ts).map fun (entries, ts) => ((key, value) :: entries, ts)
    | ts => (parseEntries bound ts).map fun (entries, ts) => ((key, empty) :: entries, ts)

/-- The items of a flow sequence, with its end. A single pair of a key and a value among them is a
mapping. -/
def parseFlowItems (first : Bool) : Nat → List Token → Option (List Node × List Token)
  | 0, _ => none
  | bound + 1, ts =>
    match ts with
    | .flowSequenceEnd :: ts => some ([], ts)
    | ts =>
      match afterComma first ts with
      | none => none
      | some (.flowSequenceEnd :: ts) => some ([], ts)
      | some (.key :: ts) =>
        let key := if ts.head? = some .value || missingInFlowSequence ts then some (empty, ts)
          else parse false bound ts
        key.bind fun (key, ts) =>
          let value :=
            match ts with
            | .value :: ts =>
              if missingInFlowSequence ts then some (empty, ts) else parse false bound ts
            | ts => some (empty, ts)
          value.bind fun (value, ts) =>
            (parseFlowItems false bound ts).map fun (items, ts) =>
              (.mapping {} [(key, value)] :: items, ts)
      | some ts =>
        (parse false bound ts).bind fun (item, ts) =>
          (parseFlowItems false bound ts).map fun (items, ts) => (item :: items, ts)

/-- The entries of a flow mapping, with its end. -/
def parseFlowEntries (first : Bool) : Nat → List Token →
    Option (List (Node × Node) × List Token)
  | 0, _ => none
  | bound + 1, ts =>
    match ts with
    | .flowMappingEnd :: ts => some ([], ts)
    | ts =>
      match afterComma first ts with
      | none => none
      | some (.flowMappingEnd :: ts) => some ([], ts)
      | some (.key :: ts) =>
        let key := if ts.head? = some .value || missingInFlowMapping ts then some (empty, ts)
          else parse false bound ts
        key.bind fun (key, ts) =>
          let value :=
            match ts with
            | .value :: ts =>
              if missingInFlowMapping ts then some (empty, ts) else parse false bound ts
            | ts => some (empty, ts)
          value.bind fun (value, ts) =>
            (parseFlowEntries false bound ts).map fun (entries, ts) => ((key, value) :: entries, ts)
      | some ts =>
        (parse false bound ts).bind fun (key, ts) =>
          (parseFlowEntries false bound ts).map fun (entries, ts) => ((key, empty) :: entries, ts)

end

/-- The node of a document without its marks. -/
def ofContent? (ts : List Token) : Option (Node × List Token) := parse true (3 * ts.length + 3) ts

/-- What directives say: whether one of them tells the version, and what handles stand for. -/
structure Heading where
  versioned : Bool := false
  handles : List (String × String) := []
  deriving Repr, Inhabited

/-- The heading after a further directive. Neither the version nor a handle is told twice, and only
the first version is known. -/
def Heading.add (h : Heading) : Directive → Option Heading
  | .version major => if h.versioned || major ≠ 1 then none else some { h with versioned := true }
  | .handle short full =>
    if Fields.has h.handles short then none
    else some { h with handles := h.handles ++ [(short, full)] }
  | .other => some h

/-- What a handle stands for. -/
def Heading.full? (h : Heading) (short : String) : Option String :=
  Fields.get? (h.handles ++ [("!", "!"), ("!!", Tag.space)]) short

/-- A token with its tag in full. -/
def Heading.complete (h : Heading) : Token → Option Token
  | .tag ⟨some short, suffix⟩ => (h.full? short).map fun full => .tag ⟨none, full ++ suffix⟩
  | t => some t

/-- The directives at the head of tokens, and the rest. -/
def heading (h : Heading) : List Token → Option (Heading × List Token)
  | .directive d :: ts => (h.add d).bind fun h => heading h ts
  | ts => some (h, ts)

/-- The node of a document with its marks; `headed` says that directives come before it, which only
a mark may follow. -/
def ofDocument? (headed : Bool) : List Token → Option (Node × List Token)
  | .documentStart :: .documentEnd :: ts => some (empty, .documentEnd :: ts)
  | [.documentStart] => some (empty, [])
  | .documentStart :: ts => ofContent? ts
  | ts =>
    if headed then none
    else if ts.isEmpty then some (empty, [])
    else ofContent? ts

/-- The node of the only document of a text; the empty text stands for the empty node. -/
def ofTokens? (ts : List Token) : Option Node := do
  let (h, content) ← heading {} ts
  let (node, rest) ← ofDocument? (content.length < ts.length) (← content.mapM h.complete)
  if rest.all (· == .documentEnd) then some node else none

end Node

end RuleElements.Yaml
