import BridgedDenom.Text.Flaw
import BridgedDenom.Text.Basic

/-!
# Timestamps of YAML 1.1

A plain scalar may be a day, or a day with a time of day and an offset of the clock:

* a day is year, month and day with four, two and two digits; before a time of day
  month and day may have one digit;
* the time follows the letter `T` or blanks, and its seconds may have a fraction;
* the offset is `Z` or signed hours, with or without minutes.

A scalar of this form whose numbers are no day or no time has no value.
-/

namespace BridgedDenom

open Text (Flaw)

namespace Yaml

/-- A day, maybe with a time and an offset. -/
structure Timestamp where
  year : Nat
  month : Nat
  day : Nat
  /-- Hours, minutes and seconds. -/
  time : Option (Nat × Nat × Nat)
  /-- The size of the offset, in minutes. -/
  offset : Nat

namespace Timestamp

/-! ## Form -/

/-- Digits at the start of a text, at least and at most so many, and what follows. -/
def readDigits (least most : Nat) (s : Text) : Option (Nat × Text) :=
  let digits := (s.take most).takeWhile Char.isDigit
  if least ≤ digits.length then
    some (digits.foldl (fun n c => 10 * n + (c.toNat - 48)) 0, s.drop digits.length)
  else none

/-- Digits after a mark. -/
def readAfter (mark : Char) (least most : Nat) : Text → Option (Nat × Text)
  | c :: rest => if c = mark then readDigits least most rest else none
  | [] => none

/-- What follows the mark in front of a time. -/
def timeStart : Text → Option Text
  | c :: rest =>
      if c = 'T' || c = 't' then some rest
      else if c = ' ' || c = '\t' then some (rest.dropWhile fun c => c = ' ' || c = '\t')
      else none
  | [] => none

/-- What follows a fraction, if there is one. -/
def afterFraction : Text → Text
  | '.' :: rest => rest.dropWhile Char.isDigit
  | s => s

/-- The size of the offset that ends a time. -/
def offset? (s : Text) : Option Nat :=
  match s.dropWhile fun c => c = ' ' || c = '\t' with
  | [] => if s.isEmpty then some 0 else none
  | ['Z'] => some 0
  | sign :: rest =>
      if sign = '-' || sign = '+' then do
        let (hours, rest) ← readDigits 1 2 rest
        if rest.isEmpty then pure (60 * hours)
        else
          let (minutes, rest) ← readAfter ':' 2 2 rest
          if rest.isEmpty then pure (60 * hours + minutes) else none
      else none

def ofDay? (s : Text) : Option Timestamp := do
  let (year, rest) ← readDigits 4 4 s
  let (month, rest) ← readAfter '-' 2 2 rest
  let (day, rest) ← readAfter '-' 2 2 rest
  if rest.isEmpty then pure ⟨year, month, day, none, 0⟩ else none

def ofMoment? (s : Text) : Option Timestamp := do
  let (year, rest) ← readDigits 4 4 s
  let (month, rest) ← readAfter '-' 1 2 rest
  let (day, rest) ← readAfter '-' 1 2 rest
  let (hour, rest) ← readDigits 1 2 (← timeStart rest)
  let (minute, rest) ← readAfter ':' 2 2 rest
  let (second, rest) ← readAfter ':' 2 2 rest
  let offset ← offset? (afterFraction rest)
  pure ⟨year, month, day, some (hour, minute, second), offset⟩

/-- The numbers of a scalar that has the form of a timestamp. -/
def ofText? (s : Text) : Option Timestamp := (ofDay? s).or (ofMoment? s)

/-! ## Value -/

/-- Every fourth year is a leap year, but of the full centuries only every fourth. -/
def isLeapYear (year : Nat) : Bool := year % 4 = 0 && (year % 100 ≠ 0 || year % 400 = 0)

def monthLength (year month : Nat) : Nat :=
  if month = 2 then if isLeapYear year then 29 else 28
  else if [4, 6, 9, 11].contains month then 30
  else 31

/-- The numbers are those of a day, a time of day and an offset of less than a day.
Years start with one. -/
def isValid (t : Timestamp) : Bool :=
  0 < t.year && 0 < t.month && t.month ≤ 12 && 0 < t.day && t.day ≤ monthLength t.year t.month
    && (t.time.all fun (hour, minute, second) => hour < 24 && minute < 60 && second < 60)
    && t.offset < 24 * 60

example : ["2024-02-29", "2024-2-9 1:02:03.5 -1:30", "2024-02-29t01:02:03Z"].map
    (fun s => (ofText? s.toList).map isValid) = [some true, some true, some true] := by decide
example : ["2023-02-29", "0000-01-01", "2024-01-01 24:00:00", "2024-01-01 00:00:00+24"].map
    (fun s => (ofText? s.toList).map isValid) = List.replicate 4 (some false) := by decide
example : ["2024-2-29", "2024-02-29 ", "2024-02-29T", "2024-02-29 01:02", "24-02-29"].all
    (fun s => (ofText? s.toList).isNone) = true := by decide

end Timestamp

end Yaml

end BridgedDenom
