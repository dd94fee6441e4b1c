import BridgedDenom.Decimal.Binary64

/-!
# Shortest decimal text

A binary number is written with the fewest digits that read back as it, and of
these digits with the ones nearest to it.  The reals that round to the number
form an interval; a decimal grid with a point in the interval has one next to the
number itself, so it is enough to test the two neighbours of the number on the
grids of one, two, three digits, and so on.  A grid fine enough holds the number
itself, and then the search ends; seventeen digits always suffice.

How the digits are laid out, with or without an exponent, is a matter of the
format and not of the digits; `Layout` says it.
-/

namespace BridgedDenom

namespace Binary64

/-! ## Digits -/

/-- The point `d * 10 ^ k` reads back as the magnitude of a rank. -/
def readsBack (rank d : Nat) (k : Int) : Bool :=
  nearestRank (d * Nat.pow 10 k.toNat) (Nat.pow 10 (-k).toNat) = rank

/-- The natural number nearest to `n / d`, the even one at a tie. -/
def roundDiv (n d : Nat) : Nat :=
  let below := n / d
  let twice := 2 * (n % d)
  if twice < d then below
  else if d < twice then below + 1
  else if below % 2 = 0 then below else below + 1

/-- The neighbour of `n / d` among the natural numbers that passes; the nearer one if both do,
and the even one of two equally near. -/
def neighbour (passes : Nat → Bool) (n d : Nat) : Option Nat :=
  let below := n / d
  match passes below, passes (below + 1) with
  | true, false => some below
  | false, true => some (below + 1)
  | true, true => some (roundDiv n d)
  | false, false => none

/-- The neighbour of a magnitude on the grid of step `10 ^ k` that reads back as it. -/
def onGrid (rank : Nat) (k : Int) : Option Nat :=
  neighbour (fun d => readsBack rank d k) (magnitude rank * Nat.pow 10 (-k).toNat)
    (Nat.pow 10 k.toNat * unitsInOne)

/-- The greatest power of ten that is at most `n / d`, for a positive ratio in the
range of the format. -/
def decimalMagnitude (n d : Nat) : Int :=
  let guess : Int := ((Nat.log2 n : Int) - Nat.log2 d) * 30103 / 100000
  let reaches := fun k : Int => d * Nat.pow 10 k.toNat ≤ n * Nat.pow 10 (-k).toNat
  if reaches (guess + 1) then guess + 1 else if reaches guess then guess else guess - 1

/-- The first grid with a point, from the step `10 ^ k` downwards and among at most `fuel`
grids, where a point of a grid is found by its exponent. -/
def search (point : Int → Option Nat) : Nat → Int → Nat × Int
  | 0, _ => (0, 0)
  | fuel + 1, k =>
      match point k with
      | some d => (d, k)
      | none => search point fuel (k - 1)

/-- Drop trailing zeros, raising the exponent for each. -/
def dropZeros : Nat → Nat × Int → Nat × Int
  | 0, x => x
  | fuel + 1, (d, k) => if d ≠ 0 ∧ d % 10 = 0 then dropZeros fuel (d / 10, k + 1) else (d, k)

/-- The shortest digits of the magnitude of a rank, as a number without trailing
zeros and a power of ten.  The coarsest grid is that of one digit, and every
magnitude is a multiple of the finest one, `10 ^ -1074`. -/
def shortest (rank : Nat) : Nat × Int :=
  dropZeros 18 (search (onGrid rank) 1400 (decimalMagnitude (magnitude rank) unitsInOne))

/-! ## Layout -/

structure Layout where
  /-- The least position of the point that is written without an exponent. -/
  lowestPoint : Int
  /-- The greatest such position. -/
  highestPoint : Int
  /-- What ends a whole number written without an exponent. -/
  wholeEnd : Text
  /-- The least number of digits of an exponent. -/
  exponentWidth : Nat
  infinity : Text
  notNumber : Text

/-- Digits of value `0.ds * 10 ^ point`. -/
def Layout.digits (layout : Layout) (ds : Text) (point : Int) : Text :=
  if layout.lowestPoint ≤ point ∧ point ≤ layout.highestPoint then
    if point ≤ 0 then "0.".toList ++ List.replicate (-point).toNat '0' ++ ds
    else if (ds.length : Int) ≤ point then
      ds ++ List.replicate (point.toNat - ds.length) '0' ++ layout.wholeEnd
    else ds.take point.toNat ++ '.' :: ds.drop point.toNat
  else
    let exponent := point - 1
    let head := match ds with
      | c :: d :: rest => c :: '.' :: d :: rest
      | ds => ds
    head ++ (if exponent < 0 then "e-".toList else "e+".toList)
      ++ Text.padLeft '0' layout.exponentWidth (Decimal.ofNat exponent.natAbs)

def Layout.write (layout : Layout) : Binary64 → Text
  | .nan => layout.notNumber
  | .infinite negative => if negative then '-' :: layout.infinity else layout.infinity
  | .finite negative rank =>
      let body :=
        if rank.val = 0 then layout.digits ['0'] 1
        else
          let (d, k) := shortest rank
          let ds := Decimal.ofNat d
          layout.digits ds (ds.length + k)
      if negative then '-' :: body else body

/-- A number shown in a text: no exponent from 0.0001 up to below ten to the
sixteenth, and whole numbers end in `.0`. -/
def shown : Layout := ⟨-3, 16, ".0".toList, 2, "inf".toList, "nan".toList⟩

/-- A number in a JSON document: as in a text, except for the three values that
JSON has no numbers for. -/
def inJson : Layout := { shown with infinity := "Infinity".toList, notNumber := "NaN".toList }

example : ["1.5", "-0.0", "1e16", "123456789012345680", "1e-5", "0.0001", "5e-324", "0.1", "1e22"].map
      (fun s => (read? s.toList).map fun x => String.ofList (shown.write x))
    = ["1.5", "-0.0", "1e+16", "1.2345678901234568e+17", "1e-05", "0.0001", "5e-324", "0.1",
       "1e+22"].map some := by decide +kernel

end Binary64

end BridgedDenom
