import RuleElements.Yaml.Plain

/-!
# Block scalars

After `|` the indented lines that follow are a text as they stand; after `>` they are folded, so
that a single line break between two lines of text is read as a blank. What comes after the mark
says what becomes of the line breaks at the end, and how far the text is indented.
-/

namespace RuleElements.Yaml.Literal

/-- What becomes of the line breaks at the end of a text. -/
inductive Chomping
  | strip
  | clip
  | keep
  deriving DecidableEq, Repr, Inhabited

/-- What comes after the mark of a block scalar. -/
structure Header where
  chomping : Chomping := .clip
  increment : Option Nat := none
  deriving Repr, Inhabited

/-- The way of chomping that a character asks for. -/
def chomping? : Char → Option Chomping
  | '-' => some .strip
  | '+' => some .keep
  | _ => none

/-- The increment that a character asks for. -/
def increment? (c : Char) : Option Nat :=
  if c.isDigit && c ≠ '0' then some (c.toNat - 48) else none

/-- A header, whose two parts come in either order. -/
def header (c : Cursor) : Header × Cursor :=
  let chomp (h : Header) (c : Cursor) : Header × Cursor :=
    match c.head?.bind chomping? with
    | some chomping => ({ h with chomping }, c.next)
    | none => (h, c)
  let indent (h : Header) (c : Cursor) : Header × Cursor :=
    match c.head?.bind increment? with
    | some n => ({ h with increment := some n }, c.next)
    | none => (h, c)
  if (c.head?.bind chomping?).isSome then
    let (h, c) := chomp {} c
    indent h c
  else
    let (h, c) := indent {} c
    chomp h c

/-- The empty lines from here on, and the greatest column that their spaces or those of the line
after them reach. -/
def leading : Nat → Cursor → List Char × Nat × Cursor
  | 0, c => ([], 0, c)
  | bound + 1, c =>
    let c := c.skip (· = ' ')
    match c.head? with
    | some ch =>
      if isBreak ch then
        let (more, greatest, after) := leading bound c.next
        (breakText ch ++ more, max c.column greatest, after)
      else ([], c.column, c)
    | none => ([], c.column, c)

/-- The place after the spaces before the column `indent`. -/
def skipIndent (indent : Nat) (c : Cursor) : Cursor :=
  let spaces := (c.rest.takeWhile (· = ' ')).length
  Cursor.forward (min spaces (indent - c.column)) c

/-- The empty lines from here on, in a text at the column `indent`. -/
def emptyLines (indent : Nat) : Nat → Cursor → List Char × Cursor
  | 0, c => ([], c)
  | bound + 1, c =>
    let c := skipIndent indent c
    match c.head? with
    | some ch =>
      if isBreak ch then
        let (more, after) := emptyLines indent bound c.next
        (breakText ch ++ more, after)
      else ([], c)
    | none => ([], c)

/-- The lines of a text from here on, the line break after the last one, and the empty lines after
that. -/
def lines (folded : Bool) (indent : Nat) : Nat → List Char → Cursor →
    List Char × List Char × List Char × Cursor
  | 0, empty, c => ([], [], empty, c)
  | bound + 1, empty, c =>
    if c.column = indent && c.head?.isSome then
      let textFirst := !c.starts isBlank
      let (line, c) := c.span (!isBreak ·)
      let lineBreak := (c.head?.map breakText).getD []
      let (after, c) := emptyLines indent c.rest.length c.next
      if c.column = indent && c.head?.isSome then
        let joint :=
          if folded && lineBreak = ['\n'] && textFirst && !c.starts isBlank then
            if after.isEmpty then [' '] else []
          else lineBreak
        let (more, tail) := lines folded indent bound after c
        (empty ++ line ++ joint ++ more, tail)
      else (empty ++ line, lineBreak, after, c)
    else ([], [], empty, c)

/-- The block scalar after its mark, inside a collection at the column `indent`. -/
def scan (folded : Bool) (indent : Int) (c : Cursor) : Option (List Char × Cursor) :=
  let (h, c) := header c
  match c.endLine? with
  | none => none
  | some c =>
    let least := max 1 (indent + 1).toNat
    let (empty, column, c) :=
      match h.increment with
      | some n =>
        let (empty, after) := emptyLines (least + n - 1) c.rest.length c
        (empty, least + n - 1, after)
      | none =>
        let (empty, greatest, after) := leading c.rest.length c
        (empty, max least greatest, after)
    let (text, lineBreak, after, c) := lines folded column (c.rest.length + 1) empty c
    let tail :=
      match h.chomping with
      | .strip => []
      | .clip => lineBreak
      | .keep => lineBreak ++ after
    some (text ++ tail, c)

end RuleElements.Yaml.Literal
