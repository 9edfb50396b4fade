import RuleElements.Yaml.Cursor

/-!
# Plain scalars

A plain scalar has no marks around it. It runs until a blank before a comment, a colon before a
blank, or, inside brackets, one of their marks. It goes on over several lines as long as these are
indented; a single line break is read as a blank, further ones stay.
-/

namespace RuleElements.Yaml

/-- A scalar as it was scanned. -/
structure Scan where
  text : List Char
  cursor : Cursor
  /-- whether a line break came last -/
  broke : Bool := false
  deriving Repr, Inhabited

namespace Plain

/-- The marks of flow collections. -/
def isFlowMark (c : Char) : Bool := c = ',' || c = '[' || c = ']' || c = '\x7b' || c = '\x7d'

/-- Whether a plain scalar ends before a character that is followed by `after`. -/
def endsAt (inFlow : Bool) (c : Char) (after : Option Char) : Bool :=
  isBlank c || isBreak c || (c = ':' && (endsWord after || (inFlow && after.any isFlowMark))) ||
    (inFlow && (isFlowMark c || c = '?'))

/-- The longest piece of a plain scalar without blanks. -/
def piece (inFlow : Bool) : List Char → List Char
  | [] => []
  | c :: cs => if endsAt inFlow c cs.head? then [] else c :: piece inFlow cs

/-- The line breaks from here on, each after any number of spaces; nothing if a document starts or
ends after one of them. -/
def breaks : Nat → Cursor → Option (List Char) × Cursor
  | 0, c => (some [], c)
  | bound + 1, c =>
    let c := c.skip (· = ' ')
    match c.head? with
    | some ch =>
      if isBreak ch then
        if c.next.atDocument then (none, c.next)
        else
          let (more, c) := breaks bound c.next
          (more.map (breakText ch ++ ·), c)
      else (some [], c)
    | none => (some [], c)

/-- What stands between two pieces of a plain scalar; nothing if the scalar ends here. -/
def gap (c : Cursor) : Scan :=
  let (spaces, c) := c.span (· = ' ')
  match c.head? with
  | some ch =>
    if isBreak ch then
      if c.next.atDocument then ⟨[], c.next, true⟩
      else
        let (more, after) := breaks c.rest.length c.next
        match more with
        | none => ⟨[], after, true⟩
        | some more =>
          let first := breakText ch
          ⟨if first ≠ ['\n'] then first ++ more else if more.isEmpty then [' '] else more, after,
            true⟩
    else ⟨spaces, c, false⟩
  | none => ⟨spaces, c, false⟩

/-- The rest of a plain scalar that must stand at least at the column `indent`. -/
def scanFrom (inFlow : Bool) (indent : Int) : Nat → Cursor → Bool → Scan
  | 0, c, broke => ⟨[], c, broke⟩
  | bound + 1, c, broke =>
    let run := piece inFlow c.rest
    if c.head? = some '#' || run.isEmpty then ⟨[], c, broke⟩
    else
      let between := gap (Cursor.forward run.length c)
      let c := between.cursor
      if between.text.isEmpty || c.head? = some '#' || (!inFlow && c.column < indent) then
        ⟨run, c, between.broke⟩
      else
        let more := scanFrom inFlow indent bound c between.broke
        ⟨run ++ (if more.text.isEmpty then [] else between.text ++ more.text), more.cursor,
          more.broke⟩

/-- The plain scalar from here on. -/
def scan (inFlow : Bool) (indent : Int) (c : Cursor) : Scan :=
  scanFrom inFlow indent (c.rest.length + 1) c false

end Plain

end RuleElements.Yaml
