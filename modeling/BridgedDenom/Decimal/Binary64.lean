import BridgedDenom.Decimal.Integer
import BridgedDenom.Decimal.Magnitude

/-!
# Binary floating point

A number of the 64-bit binary format is the rank of its magnitude, with a sign;
besides these there are two infinities and one value that is not a number.  Every
rank below the last one is a number, and every number has one rank.

All arithmetic here is exact arithmetic on integers followed by one rounding,
`ofRatio`, which takes the nearest magnitude and at a tie the one of even rank.
-/

namespace BridgedDenom

inductive Binary64 where
  /-- Plus or minus the magnitude of a rank. -/
  | finite (negative : Bool) (rank : Fin Binary64.magnitudeCount)
  | infinite (negative : Bool)
  | nan
deriving DecidableEq

namespace Binary64

/-! ## Rounding -/

/-- The number of a rank, an infinity beyond the last one. -/
def ofRank (negative : Bool) (rank : Nat) : Binary64 :=
  if h : rank < magnitudeCount then .finite negative ⟨rank, h⟩ else .infinite negative

def signedZero (negative : Bool) : Binary64 := ofRank negative 0

/-- The number of the format nearest to `n / d`, with a sign. -/
def ofRatio (negative : Bool) (n d : Nat) : Binary64 := ofRank negative (nearestRank n d)

/-- The number nearest to `digits * 10 ^ exponent`.  Exponents far outside the
format are settled by the count of digits, without raising ten to them. -/
def ofDecimal (negative : Bool) (digits : Nat) (exponent : Int) : Binary64 :=
  if digits = 0 then signedZero negative
  else if 400 < exponent + (Nat.log2 digits : Int) / 4 then .infinite negative
  else if exponent + (Nat.log2 digits : Int) < -400 then signedZero negative
  else ofRatio negative (digits * Nat.pow 10 exponent.toNat) (Nat.pow 10 (-exponent).toNat)

/-- The number nearest to an integer, unless it is too large for the format. -/
def ofInt? (n : Int) : Option Binary64 :=
  match ofRatio (n < 0) n.natAbs 1 with
  | .finite negative rank => some (.finite negative rank)
  | _ => none

/-! ## Arithmetic -/

def units (negative : Bool) (rank : Nat) : Int :=
  if negative then -(magnitude rank : Int) else magnitude rank

/-- The sum, correctly rounded.  The sum of two opposite numbers is plus zero. -/
def add : Binary64 → Binary64 → Binary64
  | .finite s m, .finite t n =>
      let sum := units s m + units t n
      if sum = 0 then signedZero (s && t)
      else ofRatio (sum < 0) sum.natAbs unitsInOne
  | .infinite s, .infinite t => if s = t then .infinite s else .nan
  | .infinite s, .finite .. => .infinite s
  | .finite .., .infinite t => .infinite t
  | _, _ => .nan

/-- Equality as numbers: the two zeros are equal, and what is not a number
equals nothing. -/
def equal : Binary64 → Binary64 → Bool
  | .finite s m, .finite t n => units s m = units t n
  | .infinite s, .infinite t => s = t
  | _, _ => false

def equalInt : Binary64 → Int → Bool
  | .finite s m, n => units s m = n * unitsInOne
  | _, _ => false

/-- Lies between two integers, bounds included. -/
def between (low high : Int) : Binary64 → Bool
  | .finite s m => low * unitsInOne ≤ units s m && units s m ≤ high * unitsInOne
  | _ => false

def isZero : Binary64 → Bool
  | .finite _ m => m.val = 0
  | _ => false

/-- The integer part of a finite number, toward zero. -/
def truncate? : Binary64 → Option Int
  | .finite s m => some ((units s m).tdiv unitsInOne)
  | _ => none

/-! ## Reading -/

/-- The digits at the start of a text, with their value, and what follows. -/
def readDigits (s : Text) : List Nat × Text :=
  ((s.takeWhile Char.isDigit).map fun c => c.toNat - 48, s.dropWhile Char.isDigit)

def digitsValue (ds : List Nat) : Nat := ds.foldl (fun n d => 10 * n + d) 0

def readExponent? : Text → Option Int
  | '-' :: rest => (decimal? rest).map fun n => -(n : Int)
  | '+' :: rest => (decimal? rest).map fun n => (n : Int)
  | rest => (decimal? rest).map fun n => (n : Int)
where
  /-- A non-empty run of digits and nothing else. -/
  decimal? (s : Text) : Option Nat :=
    match readDigits s with
    | ([], _) => none
    | (ds, []) => some (digitsValue ds)
    | _ => none

/-- Digits, a fraction after a point, an exponent after `e`; the last two may be
missing. -/
def readUnsigned? (negative : Bool) (s : Text) : Option Binary64 :=
  let (whole, rest) := readDigits s
  let (fraction, rest) :=
    match rest with
    | '.' :: rest => readDigits rest
    | rest => ([], rest)
  if whole.isEmpty && fraction.isEmpty then none
  else
    let build := fun exponent : Int =>
      ofDecimal negative (digitsValue (whole ++ fraction)) (exponent - fraction.length)
    match rest with
    | [] => some (build 0)
    | c :: rest => if c = 'e' || c = 'E' then (readExponent? rest).map build else none

/-- A number in decimal, `inf` or `nan`, after an optional sign. -/
def read? : Text → Option Binary64
  | '-' :: rest => if rest = "inf".toList then some (.infinite true) else readUnsigned? true rest
  | '+' :: rest => if rest = "inf".toList then some (.infinite false) else readUnsigned? false rest
  | rest =>
      if rest = "inf".toList then some (.infinite false)
      else if rest = "nan".toList then some .nan
      else readUnsigned? false rest

example : read? "1.5".toList = some (ofRank false (1023 * 2 ^ 52 + 2 ^ 51)) := by decide +kernel
example : read? "-0.0".toList = some (signedZero true) := by decide +kernel
example : (read? "1e400".toList, read? "1e-400".toList)
    = (some (.infinite false), some (signedZero false)) := by decide +kernel
/-- The least positive number, and half of it, which is a tie with zero. -/
example : (read? "5e-324".toList, ofRatio false 1 (2 ^ 1075))
    = (some (ofRank false 1), signedZero false) := by decide +kernel
/-- The greatest number, and half way to the next power of two, which is a tie. -/
example : (read? "1.7976931348623157e308".toList, ofRatio false (2 ^ 1024 - 2 ^ 970) 1)
    = (some (ofRank false (magnitudeCount - 1)), .infinite false) := by decide +kernel
example : (read? "2.9".toList).bind truncate? = some 2 := by decide +kernel
example : (read? "-2.9".toList).bind truncate? = some (-2) := by decide +kernel

end Binary64

end BridgedDenom
