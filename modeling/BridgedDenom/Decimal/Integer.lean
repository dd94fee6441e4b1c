import BridgedDenom.Bytes.Basic
import BridgedDenom.Text.Blank
import BridgedDenom.Text.Digit

/-!
# Written integers

An integer is written with the fewest decimal digits, after a minus sign if it is
negative.  Reading is more liberal than writing: blanks around the number, one
sign, leading zeros, the digits of every script, and a single underscore between
two digits.

Reading and writing a number takes time that grows with the square of its digits, so
where numbers come from outside a `DigitLimit` bounds them.  The bound counts every
digit, leading zeros too, and nothing else.
-/

namespace BridgedDenom

/-- The most digits that an integer may have where it is read or reported, if there is
a bound. -/
structure DigitLimit where
  most : Option Nat

namespace DigitLimit

def usual : DigitLimit := ⟨some 4300⟩

def unbounded : DigitLimit := ⟨none⟩

/-- A number of digits is within the bound. -/
def admits (limit : DigitLimit) (count : Nat) : Bool := limit.most.all fun most => count ≤ most

@[simp] theorem admits_unbounded (count : Nat) : unbounded.admits count = true := rfl

end DigitLimit

namespace Decimal

def ofNat (n : Nat) : Text := Nat.toDigits 10 n

def ofInt : Int → Text
  | .ofNat n => ofNat n
  | .negSucc n => '-' :: ofNat (n + 1)

/-- An integer in decimal, if it has no more digits than the limit. -/
def written? (limit : DigitLimit) (n : Int) : Option Text :=
  if limit.admits (ofNat n.natAbs).length then some (ofInt n) else none

/-- Continue a number whose digits so far have value `n`: digits, each with at
most one underscore before it. -/
def readFrom (n : Nat) : Text → Option Nat
  | [] => some n
  | '_' :: c :: rest =>
      match Text.digitValue? c with
      | some d => readFrom (10 * n + d) rest
      | none => none
  | c :: rest =>
      match Text.digitValue? c with
      | some d => readFrom (10 * n + d) rest
      | none => none

/-- A run of digits, with underscores only between digits. -/
def readNat? : Text → Option Nat
  | [] => none
  | c :: rest => (Text.digitValue? c).bind fun d => readFrom d rest

def readSigned? : Text → Option Int
  | '-' :: rest => (readNat? rest).map fun n => -(n : Int)
  | '+' :: rest => (readNat? rest).map fun n => (n : Int)
  | rest => (readNat? rest).map fun n => (n : Int)

def digitCount (s : Text) : Nat := s.countP fun c => (Text.digitValue? c).isSome

/-- An integer with blanks around it, if it has no more digits than the limit. -/
def readInt? (limit : DigitLimit) (s : Text) : Option Int :=
  if limit.admits (digitCount s) then readSigned? (s.trim Text.isNumericBlank) else none

/-- An integer written in ASCII bytes, if it has no more digits than the limit. -/
def readBytes? (limit : DigitLimit) (bytes : Bytes) : Option Int :=
  if bytes.all (· < 128) then readInt? limit (bytes.map fun byte => Char.ofNat byte.toNat)
  else none

example : readInt? .usual " +1_000\n".toList = some 1000 := by decide
example : readInt? .usual "-007".toList = some (-7) := by decide
example : readInt? .usual "\u0661\u0662\u0663".toList = some 123 := by decide
/-- Leading zeros count as digits; signs and underscores do not. -/
example : [" -0_0_7 ", "0007"].map (fun s => readInt? ⟨some 3⟩ s.toList) = [some (-7), none] := by
  decide
example : [-999, 1000].map (written? ⟨some 3⟩) = [some "-999".toList, none] := by decide
example : ["", "-", "1__0", "_1", "1_", "- 1", "1 2", "0x10", "\u001c7"].map
    (fun s => readInt? .usual s.toList) = List.replicate 9 none := by decide

end Decimal

end BridgedDenom
