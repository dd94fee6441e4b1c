import BridgedDenom.Decimal.Shortest

/-!
# Decimal text with a precision

A binary number is written with as many digits as are asked for.  Its magnitude is rounded once,
to the nearest decimal with so many digits, and at a tie to the even one (`scaled`).

There are three styles.  The *fixed* one has the digits that are asked for behind the point.  The
*scientific* one has them behind the first digit of the number, and an exponent.  The *general*
one has so many digits in all, at least one, and no zeros at the end of the fraction; it has an
exponent where the first digit stands more than four places behind the point or the last one in
front of it would not be among the digits.  A point with nothing behind it is left out.

A *pointed* text keeps the point, and the zeros at the end of the fraction.
-/

namespace BridgedDenom

namespace Binary64

/-- How the digits of a number are laid out. -/
inductive Style where
  | fixed
  | scientific
  | general
deriving DecidableEq

/-- The multiple of `10 ^ -places` nearest to the magnitude of a rank. -/
def scaled (rank : Nat) (places : Int) : Nat :=
  roundDiv (magnitude rank * Nat.pow 10 places.toNat) (unitsInOne * Nat.pow 10 (-places).toNat)

/-- So many digits of the magnitude of a rank, from its first one on, and the exponent of the
first. -/
def significant (count rank : Nat) : Nat × Int :=
  if rank = 0 then (0, 0)
  else
    let exponent := decimalMagnitude (magnitude rank) unitsInOne
    let digits := scaled rank (count - 1 - exponent)
    -- Nines may be rounded up to a power of ten, which has one digit more.
    if digits < Nat.pow 10 count then (digits, exponent) else (digits / 10, exponent + 1)

/-- The digits of a number before and behind its point, which stands at so many places. -/
def atPoint (places digits : Nat) : Text × Text :=
  let all := Text.padLeft '0' (places + 1) (Decimal.ofNat digits)
  (all.take (all.length - places), all.drop (all.length - places))

def exponentText (exponent : Int) : Text :=
  (if exponent < 0 then "e-".toList else "e+".toList)
    ++ Text.padLeft '0' 2 (Decimal.ofNat exponent.natAbs)

/-- The whole part with the fraction; a point in front of nothing is kept only if asked for. -/
def joined (pointed : Bool) (whole fraction : Text) : Text :=
  whole ++ if fraction.isEmpty && !pointed then [] else '.' :: fraction

def withoutZeros (fraction : Text) : Text :=
  (fraction.reverse.dropWhile (· == '0')).reverse

/-- The magnitude of a rank with a precision. -/
def Style.magnitudeText (style : Style) (precision : Nat) (pointed : Bool) (rank : Nat) : Text :=
  match style with
  | .fixed =>
      let (whole, fraction) := atPoint precision (scaled rank precision)
      joined pointed whole fraction
  | .scientific =>
      let (digits, exponent) := significant (precision + 1) rank
      let (whole, fraction) := atPoint precision digits
      joined pointed whole fraction ++ exponentText exponent
  | .general =>
      let count := max 1 precision
      let (digits, exponent) := significant count rank
      let isScientific := exponent < -4 || count ≤ exponent
      let (whole, fraction) :=
        atPoint (if isScientific then count - 1 else (count - 1 - exponent).toNat) digits
      joined pointed whole (if pointed then fraction else withoutZeros fraction)
        ++ if isScientific then exponentText exponent else []

/-- A number without its sign, with a precision. -/
def Style.unsigned (style : Style) (precision : Nat) (pointed : Bool) : Binary64 → Text
  | .nan => "nan".toList
  | .infinite _ => "inf".toList
  | .finite _ rank => style.magnitudeText precision pointed rank

def isNegative : Binary64 → Bool
  | .finite negative _ => negative
  | .infinite negative => negative
  | .nan => false

/-- Ties go to the even digit, and a zero in front of the point counts as a digit. -/
example : [("0.5", 0), ("1.5", 0), ("0.1", 20), ("1e22", 1)].map
      (fun (s, precision) => (read? s.toList).map fun x =>
        String.ofList (Style.fixed.unsigned precision false x))
    = ["0", "2", "0.10000000000000000555", "10000000000000000000000.0"].map some := by
  decide +kernel
example : ["9.96", "0.0996", "0", "5e-324"].map
      (fun s => (read? s.toList).map fun x => String.ofList (Style.scientific.unsigned 1 false x))
    = ["1.0e+01", "1.0e-01", "0.0e+00", "4.9e-324"].map some := by
  decide +kernel
example : [("999.9", false), ("0.0001", false), ("0.00001", false), ("100", false), ("100", true),
        ("0", true)].map
      (fun (s, pointed) => (read? s.toList).map fun x =>
        String.ofList (Style.general.unsigned 3 pointed x))
    = ["1e+03", "0.0001", "1e-05", "100", "100.", "0.00"].map some := by
  decide +kernel

end Binary64

end BridgedDenom
