import RuleElements.Fault

/-!
# Timestamps

A timestamp is a day, or a day with a time, a fraction of a second, and the distance of the clock
from universal time.

Main definitions:
* `Timestamp.scan?`: the numbers of a timestamp.
* `Timestamp.isPlain`: whether a plain scalar is a timestamp.
-/

namespace RuleElements.Yaml

/-- The numbers of a timestamp, which need not fit the calendar. -/
structure Timestamp where
  year : Nat
  month : Nat
  day : Nat
  time : Option ClockTime
  deriving DecidableEq, Repr, Inhabited

namespace Timestamp

/-- The number that decimal digits spell. -/
def ofDigits (digits : List Char) : Nat := digits.foldl (fun n c => n * 10 + (c.toNat - 48)) 0

/-- A number of `least` up to `most` digits, and the rest. -/
def number? (least most : Nat) (cs : List Char) : Option (Nat × List Char) :=
  let digits := (cs.take most).takeWhile Char.isDigit
  if digits.length < least then none else some (ofDigits digits, cs.drop digits.length)

/-- The rest after a character. -/
def after? (c : Char) : List Char → Option (List Char)
  | [] => none
  | d :: cs => if d = c then some cs else none

/-- Whether a character is a space or a tab. -/
def isGap (c : Char) : Bool := c = ' ' || c = '\t'

/-- The rest after what stands between a day and a time: a letter, or blanks. -/
def afterDay? (cs : List Char) : Option (List Char) :=
  match cs with
  | 'T' :: rest => some rest
  | 't' :: rest => some rest
  | c :: _ => if isGap c then some (cs.dropWhile isGap) else none
  | [] => none

/-- The microseconds after a point, and the rest; digits from the seventh on do not count. -/
def fraction (cs : List Char) : Nat × List Char :=
  match cs with
  | '.' :: rest =>
    let digits := rest.takeWhile Char.isDigit
    (ofDigits (digits.take 6 ++ List.replicate (6 - digits.length) '0'), rest.drop digits.length)
  | _ => (0, cs)

/-- The minutes by which a clock is ahead of universal time, at the end of a timestamp. -/
def offset? (cs : List Char) : Option (Option Int) :=
  if cs.isEmpty then some none
  else
    let zone (sign : Int) (cs : List Char) : Option (Option Int) := do
      let (hours, rest) ← number? 1 2 cs
      let minutes ←
        match rest with
        | [] => some 0
        | ':' :: rest =>
          (number? 2 2 rest).bind fun (n, rest) => if rest.isEmpty then some n else none
        | _ => none
      return some (sign * (hours * 60 + minutes : Nat))
    match cs.dropWhile isGap with
    | ['Z'] => some (some 0)
    | '+' :: rest => zone 1 rest
    | '-' :: rest => zone (-1) rest
    | _ => none

/-- The numbers of a timestamp. -/
def scan? (cs : List Char) : Option Timestamp := do
  let (year, cs) ← number? 4 4 cs
  let (month, cs) ← number? 1 2 (← after? '-' cs)
  let (day, cs) ← number? 1 2 (← after? '-' cs)
  if cs.isEmpty then return ⟨year, month, day, none⟩
  let (hour, cs) ← number? 1 2 (← afterDay? cs)
  let (minute, cs) ← number? 2 2 (← after? ':' cs)
  let (second, cs) ← number? 2 2 (← after? ':' cs)
  let (microsecond, cs) := fraction cs
  let offset ← offset? cs
  return ⟨year, month, day, some { hour, minute, second, microsecond, offset }⟩

/-- Whether a plain scalar is a timestamp. Without a time, month and day have two digits each. -/
def isPlain (cs : List Char) : Bool :=
  match scan? cs with
  | some t => t.time.isSome || cs.length == 10
  | none => false

/-- The moment of a timestamp. -/
def toMoment (t : Timestamp) : Except ScalarFault Moment :=
  (Moment.ofParts t.year t.month t.day t.time).mapError .calendar

end Timestamp

example : Timestamp.scan? "2001-12-14 21:59:43.10 -5".toList =
    some ⟨2001, 12, 14, some ⟨21, 59, 43, 100000, some (-300)⟩⟩ := by decide +kernel

example : Timestamp.isPlain "2001-1-1".toList = false := by decide +kernel

end RuleElements.Yaml
