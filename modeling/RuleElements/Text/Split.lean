import RuleElements.Text.Class

/-!
# Cutting and joining texts

Trimming, splitting at a character, looking for a part and replacing its first occurrence. All work
on the characters of a text.

Results:
* `strip_eq_self`: a text without blanks at its ends is its own trimmed form.
-/

namespace RuleElements.Text

/-- The characters without those at both ends that satisfy `p`. -/
def trimWhere (p : Char → Bool) (cs : List Char) : List Char :=
  ((cs.dropWhile p).reverse.dropWhile p).reverse

/-- The text without the blanks at both ends. -/
def strip (s : String) : String := String.ofList (trimWhere isBlank s.toList)

/-- The parts between the occurrences of a separator, the empty ones included. -/
def splitAt (separator : Char) (s : String) : List String :=
  (s.toList.splitOn separator).map String.ofList

/-- Whether `part` stands somewhere in the characters. -/
def occursIn (part : List Char) : List Char → Bool
  | [] => part.isEmpty
  | c :: cs => part.isPrefixOf (c :: cs) || occursIn part cs

/-- Whether `part` stands somewhere in `s`. -/
def contains (s part : String) : Bool := occursIn part.toList s.toList

/-- The characters with the first occurrence of `old` replaced. -/
def replaceFirstChars (old new : List Char) : List Char → List Char
  | [] => if old.isEmpty then new else []
  | c :: cs =>
    if old.isPrefixOf (c :: cs) then new ++ (c :: cs).drop old.length
    else c :: replaceFirstChars old new cs

/-- The text with the first occurrence of `old` replaced. -/
def replaceFirst (s old new : String) : String :=
  String.ofList (replaceFirstChars old.toList new.toList s.toList)

/-- The text with every `old` replaced by `new`. -/
def replaceChar (s : String) (old new : Char) : String :=
  String.ofList (s.toList.map fun c => if c = old then new else c)

/-- Whether the text begins with `head`. -/
def startsWith (s head : String) : Bool := head.toList.isPrefixOf s.toList

/-- Every stretch of blanks becomes one `mark`. -/
def collapseBlanks (mark : Char) : List Char → List Char
  | [] => []
  | [c] => if isBlank c then [mark] else [c]
  | c :: d :: cs =>
    if isBlank c then
      if isBlank d then collapseBlanks mark (d :: cs) else mark :: collapseBlanks mark (d :: cs)
    else c :: collapseBlanks mark (d :: cs)

/-- Whether a character ends a line. -/
def endsLine (c : Char) : Bool :=
  inRanges [(0x0A, 0x0D), (0x1C, 0x1E), (0x85, 0x85), (0x2028, 0x2029)] c.toNat

/-- The lines of some characters; `read` holds the first one so far, backwards. A carriage return
with a line feed after it ends one line. -/
def linesFrom (read : List Char) : List Char → List String
  | [] => if read.isEmpty then [] else [String.ofList read.reverse]
  | '\r' :: '\n' :: rest => String.ofList read.reverse :: linesFrom [] rest
  | c :: rest =>
    if endsLine c then String.ofList read.reverse :: linesFrom [] rest
    else linesFrom (c :: read) rest

/-- The lines of a text; a last line may lack its end. -/
def lines (s : String) : List String := linesFrom [] s.toList

/-- The characters of a text with one and the same break at the ends of its lines. -/
def unifyBreaks : List Char → List Char
  | [] => []
  | '\r' :: '\n' :: cs => '\n' :: unifyBreaks cs
  | '\r' :: cs => '\n' :: unifyBreaks cs
  | c :: cs => c :: unifyBreaks cs

/-- A text without blanks at its ends is its own trimmed form. -/
theorem strip_eq_self {s : String} (hfirst : ∀ c ∈ s.toList.head?, isBlank c = false)
    (hlast : ∀ c ∈ s.toList.getLast?, isBlank c = false) : strip s = s := by
  have drop (cs : List Char) (h : ∀ c ∈ cs.head?, isBlank c = false) :
      cs.dropWhile isBlank = cs := by
    cases cs with
    | nil => rfl
    | cons c cs => simp [List.dropWhile, h c (by simp)]
  unfold strip trimWhere
  rw [drop _ hfirst, drop s.toList.reverse (by simpa [List.head?_reverse] using hlast)]
  simp

example : splitAt ':' "self::level" = ["self", "", "level"] := by decide +kernel

example : lines "a\r\nb\n\nc" = ["a", "b", "", "c"] := by decide +kernel

example : replaceFirst "strike-attack-roll" "attack-roll" "damage" = "strike-damage" := by
  decide +kernel

end RuleElements.Text
