import BridgedDenom.Text.Basic

/-!
# Blank characters

Three sets of blanks occur.  *Blank* is the Unicode property of white space
together with the four separators U+001C to U+001F; it is what `strip` drops.
*Numeric blanks* may surround a written integer; the four separators are not
among them.  *Gaps* are the six ASCII blanks that may stand between two hex
digit pairs.
-/

namespace BridgedDenom

namespace Text

/-- The six ASCII blanks: tab, line feed, vertical tab, form feed, carriage
return and space. -/
def isGap (c : Char) : Bool := (9 ≤ c.toNat && c.toNat ≤ 13) || c.toNat == 32

/-- The blanks outside ASCII. -/
def isWideBlank (c : Char) : Bool :=
  c.toNat == 0x85 || c.toNat == 0xA0 || c.toNat == 0x1680
    || (0x2000 ≤ c.toNat && c.toNat ≤ 0x200A)
    || c.toNat == 0x2028 || c.toNat == 0x2029 || c.toNat == 0x202F
    || c.toNat == 0x205F || c.toNat == 0x3000

/-- The blanks that may surround a written integer. -/
def isNumericBlank (c : Char) : Bool := isGap c || isWideBlank c

/-- The blanks dropped from both ends of a text. -/
def isBlank (c : Char) : Bool :=
  isNumericBlank c || (0x1C ≤ c.toNat && c.toNat ≤ 0x1F)

def strip (s : Text) : Text := s.trim isBlank

example : strip " \u000b\u3000x y\u0085\n".toList = "x y".toList := by decide
/-- The zero-width space and the byte order mark are not blank. -/
example : strip "\u200bx\ufeff".toList = "\u200bx\ufeff".toList := by decide

end Text

end BridgedDenom
