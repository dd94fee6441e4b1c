import BridgedDenom.Text.Basic

/-!
# Decimal digits of every script

Each script with decimal digits has them as ten consecutive code points, so the
property of being a decimal digit, with its value, is given by the code points
of the zeros.
-/

namespace BridgedDenom

namespace Text

/-- The code points of the digit zero of every script, in ascending order. -/
def zeros : List Nat :=
  [0x30, 0x660, 0x6F0, 0x7C0, 0x966, 0x9E6, 0xA66, 0xAE6, 0xB66, 0xBE6, 0xC66, 0xCE6, 0xD66,
   0xDE6, 0xE50, 0xED0, 0xF20, 0x1040, 0x1090, 0x17E0, 0x1810, 0x1946, 0x19D0, 0x1A80, 0x1A90,
   0x1B50, 0x1BB0, 0x1C40, 0x1C50, 0xA620, 0xA8D0, 0xA900, 0xA9D0, 0xA9F0, 0xAA50, 0xABF0,
   0xFF10, 0x104A0, 0x10D30, 0x11066, 0x110F0, 0x11136, 0x111D0, 0x112F0, 0x11450, 0x114D0,
   0x11650, 0x116C0, 0x11730, 0x118E0, 0x11950, 0x11C50, 0x11D50, 0x11DA0, 0x16A60, 0x16AC0,
   0x16B50, 0x1D7CE, 0x1D7D8, 0x1D7E2, 0x1D7EC, 0x1D7F6, 0x1E140, 0x1E2F0, 0x1E950, 0x1FBF0]

/-- The value of a decimal digit of any script. -/
def digitValue? (c : Char) : Option Nat :=
  zeros.findSome? fun start =>
    if start ≤ c.toNat ∧ c.toNat < start + 10 then some (c.toNat - start) else none

theorem digitValue?_lt {c : Char} {n : Nat} (h : digitValue? c = some n) : n < 10 := by
  obtain ⟨_, _, found⟩ := List.exists_of_findSome?_eq_some h
  split at found
  · next bounds =>
      injection found with found
      omega
  · cases found

/-- An ASCII digit stands for its distance from zero. -/
example : "0123456789".toList.map digitValue? = (List.range 10).map some := by decide
/-- Arabic-Indic three, full-width two, and the superscript two, which is no decimal digit. -/
example : ['\u0663', '\uff12', '\u00b2'].map digitValue? = [some 3, some 2, none] := by decide
/-- The zeros are ascending and their runs do not overlap. -/
example : zeros.length = 66 ∧ (zeros.zip zeros.tail).all (fun (a, b) => a + 10 ≤ b) = true := by
  decide

end Text

end BridgedDenom
