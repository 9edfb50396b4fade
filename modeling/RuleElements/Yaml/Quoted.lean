import RuleElements.Text.Class
import RuleElements.Yaml.Plain

/-!
# Quoted scalars

Between single quotes only the quote itself is special, and is written twice. Between double quotes
a backslash begins an escape. In both, blanks around a line break fall away; a single line break is
read as a blank, and further ones stay.
-/

namespace RuleElements.Yaml.Quoted

/-- The character that an escape letter stands for. -/
def escaped? : Char → Option Char
  | '0' => some '\x00'
  | 'a' => some '\x07'
  | 'b' => some '\x08'
  | 't' => some '\t'
  | '\t' => some '\t'
  | 'n' => some '\n'
  | 'v' => some '\x0b'
  | 'f' => some '\x0c'
  | 'r' => some '\r'
  | 'e' => some '\x1b'
  | ' ' => some ' '
  | '"' => some '"'
  | '\\' => some '\\'
  | '/' => some '/'
  | 'N' => some '\x85'
  | '_' => some '\xa0'
  | 'L' => some '\u2028'
  | 'P' => some '\u2029'
  | _ => none

/-- The number of hexadecimal digits after an escape letter. -/
def codeLength? : Char → Option Nat
  | 'x' => some 2
  | 'u' => some 4
  | 'U' => some 8
  | _ => none

/-- The number that hexadecimal digits spell. -/
def hexNumber? (digits : List Char) : Option Nat :=
  (digits.mapM Text.hexDigitValue?).map fun values => values.foldl (fun n d => n * 16 + d) 0

/-- The character with a code, if there is one. -/
def charOfCode? (code : Nat) : Option Char :=
  if code.isValidChar then some (Char.ofNat code) else none

/-- The line breaks from here on, each after any number of blanks. No document may start or end
among them. -/
def breaks : Nat → Cursor → Option (List Char × Cursor)
  | 0, c => some ([], c)
  | bound + 1, c =>
    if c.atDocument then none
    else
      let c := c.skip isBlank
      match c.head? with
      | some ch =>
        if isBreak ch then (breaks bound c.next).map fun (more, c) => (breakText ch ++ more, c)
        else some ([], c)
      | none => some ([], c)

/-- What blanks and line breaks inside a scalar are read as. -/
def gap (c : Cursor) : Option (List Char × Cursor) :=
  let (blanks, c) := c.span isBlank
  match c.head? with
  | none => none
  | some ch =>
    if isBreak ch then
      (breaks c.rest.length c.next).map fun (more, after) =>
        let first := breakText ch
        (if first ≠ ['\n'] then first ++ more else if more.isEmpty then [' '] else more, after)
    else some (blanks, c)

/-- What an escape after its backslash is read as. -/
def escape (c : Cursor) : Option (List Char × Cursor) :=
  match c.head? with
  | none => none
  | some ch =>
    match escaped? ch, codeLength? ch with
    | some plain, _ => some ([plain], c.next)
    | none, some n =>
      let digits := c.next.rest.take n
      if digits.length = n then
        ((hexNumber? digits).bind charOfCode?).map fun ch => ([ch], Cursor.forward n c.next)
      else none
    | none, none => if isBreak ch then breaks c.rest.length c.next else none

/-- The rest of a scalar after its opening quote, and the place after its closing one. -/
def scanFrom (double : Bool) : Nat → Cursor → Option (List Char × Cursor)
  | 0, _ => none
  | bound + 1, c =>
    let goOn (part : List Char × Cursor) : Option (List Char × Cursor) :=
      (scanFrom double bound part.2).map fun (more, c) => (part.1 ++ more, c)
    match c.head? with
    | none => none
    | some ch =>
      if isBlank ch || isBreak ch then (gap c).bind goOn
      else if double && ch = '\\' then (escape c.next).bind goOn
      else if double && ch = '"' then some ([], c.next)
      else if !double && ch = '\'' then
        if c.peek? 1 = some '\'' then goOn (['\''], Cursor.forward 2 c) else some ([], c.next)
      else goOn ([ch], c.next)

/-- The scalar after an opening quote. -/
def scan (double : Bool) (c : Cursor) : Option (List Char × Cursor) :=
  scanFrom double (c.rest.length + 1) c

end RuleElements.Yaml.Quoted
