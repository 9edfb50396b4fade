import RuleElements.Text.Class
import RuleElements.Yaml.Cursor

/-!
# Names and tags in a YAML text

A part of a document may have a name, by which it is repeated elsewhere, and a tag. A tag is written
in full between angle brackets, or begins with a handle that stands for its beginning. Directives
before a document say what handles stand for, and the version of the format.

Main definitions:
* `Property.name?`: the name of a part.
* `Property.tag?`: a tag.
* `Directive.scan?`: a directive.
-/

namespace RuleElements.Yaml

/-- A tag as it is written; without a handle the suffix is all of it. -/
structure TagName where
  handle : Option String
  suffix : String
  deriving DecidableEq, Repr, Inhabited

namespace Property

/-- Whether a character may stand in the name of a part or in a handle. -/
def isWordChar (c : Char) : Bool := c.isAlphanum || c = '-' || c = '_'

/-- Whether a character may stand in a tag. -/
def isTagChar (c : Char) : Bool := c.isAlphanum || "-;/?:@&=+$,_.!~*'()[]%".toList.contains c

/-- A word that is not empty, and the place after it. -/
def word? (c : Cursor) : Option (String × Cursor) :=
  let (run, after) := c.span isWordChar
  if run.isEmpty then none else some (String.ofList run, after)

/-- The marks that may follow a name at once. -/
def nameEnds : List Char := "?:,]\x7d%@`".toList

/-- The name of a part after its mark. -/
def name? (c : Cursor) : Option (String × Cursor) :=
  match word? c with
  | some (name, after) =>
    if endsWord after.head? || after.starts nameEnds.contains then some (name, after) else none
  | none => none

/-- The characters that bytes encode. -/
def charsOf? (bytes : List UInt8) : Option (List Char) :=
  (String.fromUTF8? ⟨bytes.toArray⟩).map (·.toList)

/-- The characters of a tag with its escapes replaced, which give bytes in hexadecimal digits; the
bytes just before are in `bytes`. -/
def unescape (bytes : List UInt8) : List Char → Option (List Char)
  | [] => charsOf? bytes
  | '%' :: high :: low :: cs =>
    match Text.hexDigitValue? high, Text.hexDigitValue? low with
    | some high, some low => unescape (bytes ++ [UInt8.ofNat (high * 16 + low)]) cs
    | _, _ => none
  | c :: cs =>
    if c = '%' then none
    else
      match charsOf? bytes, unescape [] cs with
      | some before, some after => some (before ++ c :: after)
      | _, _ => none

/-- A tag, or a part of one, that is not empty, and the place after it. -/
def suffix? (c : Cursor) : Option (String × Cursor) :=
  let (run, after) := c.span isTagChar
  if run.isEmpty then none else (unescape [] run).map fun cs => (String.ofList cs, after)

/-- A handle, and the place after it: a word between two marks, or before a space a mark alone. -/
def handle? (c : Cursor) : Option (String × Cursor) :=
  if c.peek? 1 = some ' ' then some ("!", c.next)
  else
    let (run, after) := c.next.span isWordChar
    if after.head? = some '!' then some ("!" ++ String.ofList run ++ "!", after.next) else none

/-- A tag without a check of what follows. -/
def bareTag? (c : Cursor) : Option (TagName × Cursor) :=
  if c.peek? 1 = some '<' then
    match suffix? (c.forward 2) with
    | some (suffix, after) =>
      if after.head? = some '>' then some (⟨none, suffix⟩, after.next) else none
    | none => none
  else if endsWord (c.peek? 1) then some (⟨none, "!"⟩, c.next)
  else
    let hasHandle := (c.next.rest.takeWhile fun c => c ≠ ' ' && !isBreak c).contains '!'
    let handle := if hasHandle then handle? c else some ("!", c.next)
    handle.bind fun (handle, c) =>
      (suffix? c).map fun (suffix, after) => (⟨some handle, suffix⟩, after)

/-- The tag that begins here. -/
def tag? (c : Cursor) : Option (TagName × Cursor) :=
  (bareTag? c).filter fun (_, after) => after.atGap

end Property

/-- What a line says about the document after it. -/
inductive Directive
  | version (major : Nat)
  | handle (short full : String)
  | other
  deriving DecidableEq, Repr, Inhabited

namespace Directive

/-- A number in decimal digits, and the place after it. -/
def number? (c : Cursor) : Option (Nat × Cursor) :=
  let (run, after) := c.span Char.isDigit
  if run.isEmpty then none
  else some (run.foldl (fun n digit => n * 10 + (digit.toNat - 48)) 0, after)

/-- The version of the format: two numbers with a point between them. -/
def version? (c : Cursor) : Option (Directive × Cursor) := do
  let (major, c) ← number? c
  if c.head? ≠ some '.' then none
  let (_, c) ← number? c.next
  return (.version major, c)

/-- A handle and what it stands for. -/
def handle? (c : Cursor) : Option (Directive × Cursor) := do
  let (short, c) ← Property.handle? c
  if c.head? ≠ some ' ' then none
  let (full, c) ← Property.suffix? (c.skip (· = ' '))
  return (.handle short full, c)

/-- The directive that begins here, and the place after its line. -/
def scan? (c : Cursor) : Option (Directive × Cursor) := do
  let (name, c) ← Property.word? c.next
  if !c.atGap then none
  let (directive, c) ←
    match name with
    | "YAML" => version? (c.skip (· = ' '))
    | "TAG" =>
      let c := c.skip (· = ' ')
      if c.head? = some '!' then handle? c else none
    | _ => some (.other, c.skip (!isBreak ·))
  return (directive, ← c.endLine?)

end Directive

end RuleElements.Yaml
