import RuleElements.Data.Basic
import RuleElements.Text.Class

/-!
# Writing JSON

A raw value as a JSON text, on one line or with indented parts. The quote, the backslash and control
characters are escaped in texts, and for plain output everything else beyond ASCII too.
-/

namespace RuleElements.Json

/-- A code unit as an escape. -/
def escapeUnit (n : Nat) : List Char := '\\' :: 'u' :: Text.hexDigits 4 n

/-- A character as one escape, or as two for the halves of its pair. -/
def escapeWide (c : Char) : List Char :=
  if c.toNat < 0x10000 then escapeUnit c.toNat
  else
    let n := c.toNat - 0x10000
    escapeUnit (0xD800 + n / 0x400) ++ escapeUnit (0xDC00 + n % 0x400)

/-- A character inside a text; `plain` asks for nothing beyond ASCII. -/
def escapeChar (plain : Bool) (c : Char) : List Char :=
  if c = '"' || c = '\\' then ['\\', c]
  else if c = '\n' then ['\\', 'n']
  else if c = '\r' then ['\\', 'r']
  else if c = '\t' then ['\\', 't']
  else if c = '\x08' then ['\\', 'b']
  else if c = '\x0c' then ['\\', 'f']
  else if c.toNat < 0x20 then escapeUnit c.toNat
  else if plain && 0x7f ≤ c.toNat then escapeWide c
  else [c]

/-- A text between quotes. -/
def writeText (plain : Bool) (s : String) : String :=
  String.ofList ('"' :: s.toList.flatMap (escapeChar plain) ++ ['"'])

/-- A number. -/
def writeNumber : Number → String
  | .real .nan => "NaN"
  | .real (.infinite negative) => if negative then "-Infinity" else "Infinity"
  | n => n.text

/-- The name that a key is written as. -/
def keyName : Key → String
  | .null => "null"
  | .boolean b => if b then "true" else "false"
  | .number n => writeNumber n
  | .moment m => m.iso
  | .text s => s

/-- How the parts of a value are set apart. -/
structure Layout where
  /-- the steps of indentation of a part; nothing for a single line -/
  indent : Option Nat
  /-- what stands between a name and its value -/
  colon : String
  /-- whether texts are written with ASCII only -/
  plain : Bool

/-- A single line without blanks. -/
def Layout.compact : Layout := ⟨none, ":", false⟩

/-- Two more blanks before the parts of each value. -/
def Layout.indented : Layout := ⟨some 2, ": ", false⟩

/-- As `indented`, with ASCII only. -/
def Layout.plainIndented : Layout := ⟨some 2, ": ", true⟩

/-- The break before a part at a depth. -/
def Layout.breakAt (layout : Layout) (depth : Nat) : String :=
  match layout.indent with
  | none => ""
  | some n => "\n" ++ String.ofList (List.replicate (n * depth) ' ')

/-- Parts between an opening and a closing mark. -/
def Layout.enclose (layout : Layout) (depth : Nat) (opening closing : String)
    (parts : List String) : String :=
  if parts.isEmpty then opening ++ closing
  else
    opening ++ layout.breakAt (depth + 1) ++
      ("," ++ layout.breakAt (depth + 1)).intercalate parts ++ layout.breakAt depth ++ closing

mutual

/-- A value at a depth. -/
def writeAt (layout : Layout) (depth : Nat) : Data → String
  | .null => "null"
  | .boolean b => if b then "true" else "false"
  | .number n => writeNumber n
  | .moment m => writeText layout.plain m.iso
  | .text s => writeText layout.plain s
  | .list items => layout.enclose depth "[" "]" (writeItems layout (depth + 1) items)
  | .object fields => layout.enclose depth "\x7b" "\x7d" (writeFields layout (depth + 1) fields)
  | .mapping entries =>
    layout.enclose depth "\x7b" "\x7d" (writeEntries layout (depth + 1) entries)

/-- The items of a list at a depth. -/
def writeItems (layout : Layout) (depth : Nat) : List Data → List String
  | [] => []
  | item :: rest => writeAt layout depth item :: writeItems layout depth rest

/-- The fields of an object at a depth. -/
def writeFields (layout : Layout) (depth : Nat) : List (String × Data) → List String
  | [] => []
  | (name, value) :: rest =>
    (writeText layout.plain name ++ layout.colon ++ writeAt layout depth value) ::
      writeFields layout depth rest

/-- The entries of a mapping at a depth. -/
def writeEntries (layout : Layout) (depth : Nat) : List (Key × Data) → List String
  | [] => []
  | (key, value) :: rest =>
    (writeText layout.plain (keyName key) ++ layout.colon ++ writeAt layout depth value) ::
      writeEntries layout depth rest

end

/-- A value as a text. -/
def write (layout : Layout) (d : Data) : String := writeAt layout 0 d

end RuleElements.Json
