import RuleElements.Text.Class
import RuleElements.Text.Table.Casing

/-!
# Letter case

The full case mappings of Unicode. A character may become several (`ß` becomes `SS` in capitals),
and the lowercase form of a capital sigma depends on its neighbours: at the end of a word it is `ς`,
and `σ` elsewhere.
-/

namespace RuleElements.Text

/-- Characters that have case. -/
def isCased (c : Char) : Bool := inRanges casedRanges c.toNat

/-- Characters that are passed over when the neighbours of a sigma are looked for. -/
def isCaseIgnorable (c : Char) : Bool := inRanges caseIgnorableRanges c.toNat

/-- The image of a character under a case mapping given by its runs and its expansions. -/
def caseImage (runs : List (Nat × Nat × Nat × Int)) (expansions : List (Nat × List Nat))
    (c : Char) : List Char :=
  let n := c.toNat
  let covers : Nat × Nat × Nat × Int → Bool := fun (first, last, step, _) =>
    first ≤ n && n ≤ last && (n - first) % step == 0
  match runs.find? covers with
  | some (_, _, _, shift) => [Char.ofNat (n + shift).toNat]
  | none =>
    match expansions.lookup n with
    | some image => image.map Char.ofNat
    | none => [c]

/-- The capitals of a character. -/
def upperChar (c : Char) : List Char :=
  if c.toNat < 0x80 then [c.toUpper] else caseImage upperRuns upperExpansions c

/-- The form of a character at the head of a word. -/
def titleChar (c : Char) : List Char :=
  if c.toNat < 0x80 then [c.toUpper] else caseImage titleRuns titleExpansions c

/-- A capital sigma ends a word if the nearest character before it that counts has case and the
nearest one after it has none. Both neighbours are read away from the sigma. -/
def endsWord (before after : List Char) : Bool :=
  match before.find? (!isCaseIgnorable ·) with
  | none => false
  | some b =>
    isCased b &&
      match after.find? (!isCaseIgnorable ·) with
      | none => true
      | some a => !isCased a

/-- The lowercase form of a character between its neighbours; `before` is read backwards. -/
def lowerChar (before : List Char) (c : Char) (after : List Char) : List Char :=
  if c.toNat < 0x80 then [c.toLower]
  else if c = 'Σ' then [if endsWord before after then 'ς' else 'σ']
  else caseImage lowerRuns lowerExpansions c

/-- The lowercase form of the characters after `before`, which is read backwards. -/
def lowerChars : List Char → List Char → List Char
  | _, [] => []
  | before, c :: after => lowerChar before c after ++ lowerChars (c :: before) after

/-- The title form of the characters after `before`: a character that follows one with case is
lowered, any other starts a word. -/
def titleChars : List Char → List Char → List Char
  | _, [] => []
  | before, c :: after =>
    (if (before.head?.map isCased).getD false then lowerChar before c after else titleChar c) ++
      titleChars (c :: before) after

/-- The lowercase form of a text. -/
def lower (s : String) : String := String.ofList (lowerChars [] s.toList)

/-- The text in capitals. -/
def upper (s : String) : String := String.ofList (s.toList.flatMap upperChar)

/-- Every word of the text starts with a capital and goes on in lowercase; a word starts after every
character without case. -/
def title (s : String) : String := String.ofList (titleChars [] s.toList)

/-- The text with capitals for its first character and the rest as it is. -/
def capitalize : List Char → List Char
  | [] => []
  | c :: cs => upperChar c ++ cs

example : lower "ΟΔΥΣΣΕΥΣ Σ" = "οδυσσευς σ" := by decide +kernel

example : title "they're 3d" = "They'Re 3D" := by decide +kernel

end RuleElements.Text
