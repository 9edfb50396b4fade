import RuleElements.Yaml.Literal
import RuleElements.Yaml.Property
import RuleElements.Yaml.Quoted

/-!
# Tokens of YAML

The tokens of a text carry its structure: where collections start and end, what is a key and what a
value. Indentation opens and closes block collections. That a scalar is a key is known only when a
colon follows it, so places where a key may begin are remembered, and the key's token is put in at
its place later.

Main definitions:
* `Token.scan?`: the tokens of a text.
-/

namespace RuleElements.Yaml

/-- A token. -/
inductive Token
  | documentStart
  | documentEnd
  | blockSequence
  | blockMapping
  | blockEnd
  | flowSequence
  | flowSequenceEnd
  | flowMapping
  | flowMappingEnd
  | flowEntry
  | blockEntry
  | key
  | value
  /-- the name of the part that follows -/
  | anchor (name : String)
  /-- a part repeated by its name -/
  | alias (name : String)
  | tag (name : TagName)
  | directive (directive : Directive)
  | plain (text : String)
  | quoted (text : String)
  deriving DecidableEq, Repr, Inhabited

/-- A place where a key may have begun: how many tokens come before it, whether nothing but a key
may stand there, and where it is in the text. -/
structure PossibleKey where
  place : Nat
  required : Bool
  index : Nat
  line : Nat
  column : Nat
  deriving Repr, Inhabited

/-- What is known after the tokens so far. -/
structure Lexer where
  cursor : Cursor
  /-- the tokens so far, the last one first -/
  tokens : List Token := []
  /-- the number of flow collections around the place -/
  depth : Nat := 0
  indent : Int := -1
  /-- the columns of the block collections around the innermost one, from the inside -/
  outer : List Int := []
  keyAllowed : Bool := true
  /-- the places where a key may have begun, by their depths -/
  keys : List (Nat × PossibleKey) := []
  deriving Repr, Inhabited

namespace Lexer

/-- The greatest length of a key. -/
def keyBound : Nat := 1024

/-- With a token at the end. -/
def emit (s : Lexer) (t : Token) : Lexer := { s with tokens := t :: s.tokens }

/-- With a token after the first `place` ones. -/
def emitAt (s : Lexer) (place : Nat) (t : Token) : Lexer :=
  { s with tokens := s.tokens.insertIdx (s.tokens.length - place) t }

/-- Some characters further. -/
def advance (s : Lexer) (n : Nat) : Lexer := { s with cursor := Cursor.forward n s.cursor }

/-- Whether block collections may start here. -/
def inBlock (s : Lexer) : Bool := s.depth == 0

/-- Past blanks, comments and empty lines; a new line of a block collection may begin with a key. -/
def skipToToken (s : Lexer) : Nat → Lexer
  | 0 => s
  | bound + 1 =>
    let c := s.cursor.skip (· = ' ')
    let c := if c.head? = some '#' then c.skip (!isBreak ·) else c
    if c.starts isBreak then
      skipToToken { s with cursor := c.next, keyAllowed := s.keyAllowed || s.inBlock } bound
    else { s with cursor := c }

/-- Without the possible keys that are too far back; none of them may be required. -/
def dropStaleKeys (s : Lexer) : Option Lexer :=
  let isStale (k : PossibleKey) : Bool :=
    k.line != s.cursor.line || keyBound < s.cursor.index - k.index
  if s.keys.any fun (_, k) => isStale k && k.required then none
  else some { s with keys := s.keys.filter fun (_, k) => !isStale k }

/-- The possible key at the depth of the place. -/
def keyHere? (s : Lexer) : Option PossibleKey := (s.keys.find? (·.1 == s.depth)).map (·.2)

/-- Without the possible key at the depth of the place. -/
def forgetKey (s : Lexer) : Lexer := { s with keys := s.keys.filter (·.1 != s.depth) }

/-- Without the possible key at the depth of the place, which must not be required. -/
def dropKey (s : Lexer) : Option Lexer :=
  if (s.keyHere?.map (·.required)).getD false then none else some s.forgetKey

/-- With a possible key that begins here. -/
def saveKey (s : Lexer) : Option Lexer :=
  if s.keyAllowed then
    let c := s.cursor
    let k : PossibleKey :=
      ⟨s.tokens.length, s.inBlock && s.indent == (c.column : Int), c.index, c.line, c.column⟩
    s.dropKey.map fun s => { s with keys := (s.depth, k) :: s.keys }
  else some s

/-- With the block collections closed that stand to the right of a column. -/
def unwind (column : Int) : Nat → Lexer → Lexer
  | 0, s => s
  | bound + 1, s =>
    if s.inBlock && column < s.indent then
      unwind column bound
        { s.emit .blockEnd with indent := s.outer.headD (-1), outer := s.outer.tail }
    else s

/-- With all block collections closed that stand to the right of a column. -/
def closeTo (s : Lexer) (column : Int) : Lexer := unwind column (s.outer.length + 1) s

/-- With a block collection opened at a column, if it stands to the right of the innermost one; its
token comes after the first `place` ones. -/
def openAt (s : Lexer) (column : Int) (place : Nat) (t : Token) : Lexer :=
  if s.indent < column then
    { s.emitAt place t with indent := column, outer := s.indent :: s.outer }
  else s

/-- With a block collection opened here, in the block context. -/
def openHere (s : Lexer) (t : Token) : Lexer :=
  if s.inBlock then s.openAt s.cursor.column s.tokens.length t else s

/-- A mark between documents. -/
def fetchDocument (s : Lexer) (t : Token) : Option Lexer :=
  (s.closeTo (-1)).dropKey.map fun s => ({ s with keyAllowed := false }.advance 3).emit t

/-- The start of a flow collection. -/
def fetchFlowStart (s : Lexer) (t : Token) : Option Lexer :=
  s.saveKey.map fun s =>
    ({ s with depth := s.depth + 1, keyAllowed := true }.advance 1).emit t

/-- The end of a flow collection. -/
def fetchFlowEnd (s : Lexer) (t : Token) : Option Lexer :=
  if s.inBlock then none
  else
    s.dropKey.map fun s =>
      ({ s with depth := s.depth - 1, keyAllowed := false }.advance 1).emit t

/-- A comma between the entries of a flow collection. -/
def fetchFlowEntry (s : Lexer) : Option Lexer :=
  s.dropKey.map fun s => ({ s with keyAllowed := true }.advance 1).emit .flowEntry

/-- A mark that begins an entry or a key of a block collection. -/
def fetchBlockMark (s : Lexer) (collection mark : Token) (keyAllowed : Bool) : Option Lexer :=
  if s.inBlock && !s.keyAllowed then none
  else
    (s.openHere collection).dropKey.map fun s => ({ s with keyAllowed }.advance 1).emit mark

/-- A dash before an entry. -/
def fetchBlockEntry (s : Lexer) : Option Lexer :=
  s.fetchBlockMark .blockSequence .blockEntry true

/-- A question mark before a key. -/
def fetchKey (s : Lexer) : Option Lexer := s.fetchBlockMark .blockMapping .key s.inBlock

/-- A colon before a value. If a key may have begun before it, it is one. -/
def fetchValue (s : Lexer) : Option Lexer :=
  match s.keyHere? with
  | some k =>
    let s := s.forgetKey.emitAt k.place .key
    let s := if s.inBlock then s.openAt k.column k.place .blockMapping else s
    some (({ s with keyAllowed := false }.advance 1).emit .value)
  | none => s.fetchBlockMark .blockMapping .value s.inBlock

/-- A directive. -/
def fetchDirective (s : Lexer) : Option Lexer := do
  let s ← (s.closeTo (-1)).dropKey
  let (directive, cursor) ← Directive.scan? s.cursor
  return { s with cursor, keyAllowed := false }.emit (.directive directive)

/-- A name after its mark. -/
def fetchName (s : Lexer) (token : String → Token) : Option Lexer := do
  let s ← s.saveKey
  let (name, cursor) ← Property.name? s.cursor.next
  return { s with cursor, keyAllowed := false }.emit (token name)

/-- A tag. -/
def fetchTag (s : Lexer) : Option Lexer := do
  let s ← s.saveKey
  let (name, cursor) ← Property.tag? s.cursor
  return { s with cursor, keyAllowed := false }.emit (.tag name)

/-- A quoted scalar. -/
def fetchQuoted (s : Lexer) (double : Bool) : Option Lexer := do
  let s ← s.saveKey
  let (text, cursor) ← Quoted.scan double s.cursor.next
  return { s with cursor, keyAllowed := false }.emit (.quoted (String.ofList text))

/-- A block scalar. -/
def fetchLiteral (s : Lexer) (folded : Bool) : Option Lexer := do
  let s ← s.dropKey
  let (text, cursor) ← Literal.scan folded s.indent s.cursor.next
  return { s with cursor, keyAllowed := true }.emit (.quoted (String.ofList text))

/-- A plain scalar. -/
def fetchPlain (s : Lexer) : Option Lexer :=
  s.saveKey.map fun s =>
    let scan := Plain.scan (!s.inBlock) (s.indent + 1) s.cursor
    { s with cursor := scan.cursor, keyAllowed := scan.broke }.emit
      (.plain (String.ofList scan.text))

/-- The characters with a meaning of their own at the beginning of a token. -/
def indicators : List Char := "-?:,[]\x7b\x7d#&*!|>'\"%@`".toList

/-- Whether a plain scalar begins with a character that is followed by `after`. -/
def beginsPlain (s : Lexer) (c : Char) (after : Option Char) : Bool :=
  !indicators.contains c && !isBlank c ||
    (!endsWord after && (c = '-' || (s.inBlock && (c = '?' || c = ':'))))

/-- The next token, from its first character on. -/
def fetch (s : Lexer) (c : Char) : Option Lexer :=
  let after := s.cursor.peek? 1
  let marks := endsWord after || !s.inBlock
  if s.cursor.column = 0 && c = '%' then s.fetchDirective
  else if s.cursor.column = 0 && s.cursor.atMark '-' then s.fetchDocument .documentStart
  else if s.cursor.column = 0 && s.cursor.atMark '.' then s.fetchDocument .documentEnd
  else if c = '[' then s.fetchFlowStart .flowSequence
  else if c = '\x7b' then s.fetchFlowStart .flowMapping
  else if c = ']' then s.fetchFlowEnd .flowSequenceEnd
  else if c = '\x7d' then s.fetchFlowEnd .flowMappingEnd
  else if c = ',' then s.fetchFlowEntry
  else if c = '-' && endsWord after then s.fetchBlockEntry
  else if c = '?' && marks then s.fetchKey
  else if c = ':' && marks then s.fetchValue
  else if c = '*' then s.fetchName .alias
  else if c = '&' then s.fetchName .anchor
  else if c = '!' then s.fetchTag
  else if c = '|' && s.inBlock then s.fetchLiteral false
  else if c = '>' && s.inBlock then s.fetchLiteral true
  else if c = '\'' then s.fetchQuoted false
  else if c = '"' then s.fetchQuoted true
  else if s.beginsPlain c after then s.fetchPlain
  else none

/-- After all tokens of a text that has at most `bound` of them. -/
def run : Nat → Lexer → Option Lexer
  | 0, _ => none
  | bound + 1, s =>
    match (s.skipToToken (s.cursor.rest.length + 1)).dropStaleKeys with
    | none => none
    | some s =>
      let s := s.closeTo s.cursor.column
      match s.cursor.head? with
      | none => (s.closeTo (-1)).dropKey
      | some c => (s.fetch c).bind (run bound)

end Lexer

/-- The tokens of a text. -/
def Token.scan? (cs : List Char) : Option (List Token) :=
  let rest := if cs.head? = some '\uFEFF' then cs.tail else cs
  (Lexer.run (cs.length + 1) { cursor := ⟨rest, cs.length - rest.length, 0, 0⟩ }).map
    fun s => s.tokens.reverse

end RuleElements.Yaml
