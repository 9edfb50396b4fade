/-!
# Places in a YAML text

Indentation gives a YAML text its structure, so its readers know at which line and column they
stand.

Main definitions:
* `Cursor`: the rest of a text, and where it begins.
* `Cursor.span`: the longest run of characters of a class.
-/

namespace RuleElements.Yaml

/-- The characters that end a line. -/
def isBreak (c : Char) : Bool := c = '\n' || c = '\x85' || c = '\u2028' || c = '\u2029'

/-- The characters that stand for nothing inside a line. -/
def isBlank (c : Char) : Bool := c = ' ' || c = '\t'

/-- Whether a text ends here, or a word in it. -/
def endsWord : Option Char → Bool
  | none => true
  | some c => isBlank c || isBreak c

/-- What a line break contributes to a text. -/
def breakText (c : Char) : List Char := if c = '\x85' then ['\n'] else [c]

/-- The rest of a text, and where it begins. -/
structure Cursor where
  rest : List Char
  index : Nat := 0
  line : Nat := 0
  column : Nat := 0
  deriving Repr, Inhabited

namespace Cursor

/-- The character some places ahead. -/
def peek? (c : Cursor) (ahead : Nat) : Option Char := c.rest[ahead]?

/-- The next character. -/
def head? (c : Cursor) : Option Char := c.rest.head?

/-- The place after the next character. A byte order mark takes no column. -/
def next (c : Cursor) : Cursor :=
  match c.rest with
  | [] => c
  | ch :: rest =>
    if isBreak ch then ⟨rest, c.index + 1, c.line + 1, 0⟩
    else if ch = '\uFEFF' then ⟨rest, c.index + 1, c.line, c.column⟩
    else ⟨rest, c.index + 1, c.line, c.column + 1⟩

/-- The place some characters further. -/
def forward : Nat → Cursor → Cursor
  | 0, c => c
  | n + 1, c => forward n c.next

/-- The longest run of characters of a class, and the place after it. -/
def span (p : Char → Bool) (c : Cursor) : List Char × Cursor :=
  let run := c.rest.takeWhile p
  (run, forward run.length c)

/-- The place after the characters of a class. -/
def skip (p : Char → Bool) (c : Cursor) : Cursor := (c.span p).2

/-- Whether the next character is of a class. -/
def starts (p : Char → Bool) (c : Cursor) : Bool := c.head?.any p

/-- Whether a mark of three equal characters, which sets documents apart, stands here. -/
def atMark (mark : Char) (c : Cursor) : Bool :=
  c.peek? 0 == some mark && c.peek? 1 == some mark && c.peek? 2 == some mark &&
    endsWord (c.peek? 3)

/-- Whether a document starts or ends here. -/
def atDocument (c : Cursor) : Bool := c.atMark '-' || c.atMark '.'

/-- Whether a blank other than a tab or the end of a line comes next. -/
def atGap (c : Cursor) : Bool := endsWord c.head? && c.head? ≠ some '\t'

/-- The place after the rest of a line, on which only a comment may follow. -/
def endLine? (c : Cursor) : Option Cursor :=
  if c.atGap then
    let c := c.skip (· = ' ')
    let c := if c.head? = some '#' then c.skip (!isBreak ·) else c
    match c.head? with
    | none => some c
    | some ch => if isBreak ch then some c.next else none
  else none

end Cursor

end RuleElements.Yaml
