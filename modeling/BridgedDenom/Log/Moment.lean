import BridgedDenom.Decimal.Binary64
import BridgedDenom.Failure

/-!
# Time stamps

A moment is a number of microseconds since the start of 1970 in universal time, within
the years that have four digits and are not zero.  It is written as a date and a time
of day with milliseconds, the rest being cut off.  The date follows from the count of
days by the lengths of the cycles of the calendar: 400 years have 146097 days, and a
year that starts in March puts the leap day at its end.

Clocks count seconds in binary floating point.  Far from 1970 such a count is coarser
than a microsecond, so a moment that comes from a clock is the one nearest to it.
-/

namespace BridgedDenom

/-- Microseconds since the start of 1970 in universal time, from the year 1 to 9999. -/
structure Moment where
  microseconds : Int
  /-- It is not before the year 1. -/
  first_le : -62135596800000000 ≤ microseconds
  /-- It is before the year 10000. -/
  lt_last : microseconds < 253402300800000000
deriving DecidableEq

namespace Moment

/-! ## Clocks -/

/-- The whole number nearest to `n / d`; a half goes to the even one. -/
def nearest (n d : Nat) : Nat :=
  let below := n / d
  let twice := 2 * (n % d)
  if twice < d then below else if d < twice then below + 1 else below + below % 2

/-- The microseconds in a number of seconds, to the nearest one. -/
def microsecondsOf? : Binary64 → Option Int
  | .finite negative rank =>
      let size := nearest (Binary64.magnitude rank * 1000000) Binary64.unitsInOne
      some (if negative then -size else size)
  | _ => none

/-- The failure of a clock beyond the years.  Its seconds have to fit in 64 bits in the
first place. -/
def beyondYears (microseconds : Int) : Failure :=
  if microseconds.natAbs / 1000000 < 0x8000000000000000 then .badValue else .tooLarge

/-- The moment of a clock that shows so many microseconds as a number of seconds. -/
def ofClock (microseconds : Int) : Except Failure Moment :=
  match microsecondsOf? (.ofRatio (microseconds < 0) microseconds.natAbs 1000000) with
  | some n =>
      if h : -62135596800000000 ≤ n ∧ n < 253402300800000000 then .ok ⟨n, h.1, h.2⟩
      else .error (beyondYears n)
  | none => .error .tooLarge

def start : Moment := ⟨0, by decide, by decide⟩

/-! ## Writing -/

structure Date where
  year : Int
  /-- The month, from one. -/
  month : Int
  day : Int
deriving DecidableEq

/-- The date after a number of days from the start of 1970. -/
def dateOfDays (days : Int) : Date :=
  let shifted := days + 719468
  let era := shifted / 146097
  let dayOfEra := shifted % 146097
  let yearOfEra := (dayOfEra - dayOfEra / 1460 + dayOfEra / 36524 - dayOfEra / 146096) / 365
  let dayOfYear := dayOfEra - (365 * yearOfEra + yearOfEra / 4 - yearOfEra / 100)
  let shiftedMonth := (5 * dayOfYear + 2) / 153
  let month := if shiftedMonth < 10 then shiftedMonth + 3 else shiftedMonth - 9
  { year := yearOfEra + era * 400 + (if month ≤ 2 then 1 else 0)
    month := month
    day := dayOfYear - (153 * shiftedMonth + 2) / 5 + 1 }

/-- A number of at least some digits. -/
def digits (width : Nat) (n : Int) : Text := Text.padLeft '0' width (Decimal.ofInt n)

def stamp (moment : Moment) : Text :=
  let milliseconds := moment.microseconds / 1000
  let seconds := milliseconds / 1000
  let ofDay := seconds % 86400
  let date := dateOfDays (seconds / 86400)
  digits 4 date.year ++ '-' :: digits 2 date.month ++ '-' :: digits 2 date.day
    ++ 'T' :: digits 2 (ofDay / 3600) ++ ':' :: digits 2 (ofDay / 60 % 60)
    ++ ':' :: digits 2 (ofDay % 60) ++ '.' :: digits 3 (milliseconds % 1000)
    ++ "+00:00".toList

/-- The stamps of some clocks.  The last one is off by a millisecond, since near the year
9999 neighbouring numbers of seconds differ by 30 microseconds. -/
example : [0, -1, 951782400000000, 1736080496789999, 253402300798000999].map
      (fun n => (ofClock n).toOption.map fun m => String.ofList m.stamp)
    = ["1970-01-01T00:00:00.000+00:00", "1969-12-31T23:59:59.999+00:00",
       "2000-02-29T00:00:00.000+00:00", "2025-01-05T12:34:56.789+00:00",
       "9999-12-31T23:59:58.001+00:00"].map some := by
  decide +kernel
/-- Clocks beyond the years; the first one rounds up to the year 10000. -/
example : [253402300799999999, -62135596800000001000, 10 ^ 26].map (fun n =>
      match ofClock n with
      | .error .badValue => some false
      | .error .tooLarge => some true
      | _ => none)
    = [some false, some false, some true] := by
  decide +kernel

end Moment

end BridgedDenom
