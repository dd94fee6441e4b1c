import BridgedDenom.Text.Basic

/-!
# Surrogates

Escapes in a text give characters by number.  Characters beyond `ffff` may be given
by two numbers, a pair of *surrogates*, which stand for no character on their own.

`units` writes a code point in this way, and `ofCodes` makes a text of code points
and surrogates, a pair of surrogates making one character.  A surrogate without its
other half becomes the replacement character.
-/

namespace BridgedDenom

namespace Text

/-- The UTF-16 units of a code point. -/
def units (code : Nat) : List Nat :=
  if code < 0x10000 then [code]
  else [0xD800 + (code - 0x10000) / 0x400, 0xDC00 + (code - 0x10000) % 0x400]

def isHighSurrogate (code : Nat) : Bool := 0xD800 ≤ code && code ≤ 0xDBFF

def isLowSurrogate (code : Nat) : Bool := 0xDC00 ≤ code && code ≤ 0xDFFF

def charOfCode (code : Nat) : Char :=
  if isHighSurrogate code || isLowSurrogate code then '\ufffd' else Char.ofNat code

/-- The text of codes, in which a pair of surrogates stands for one character. -/
def ofCodes : List Nat → Text
  | [] => []
  | [code] => [charOfCode code]
  | high :: low :: rest =>
      if isHighSurrogate high && isLowSurrogate low then
        Char.ofNat (0x10000 + (high - 0xD800) * 0x400 + (low - 0xDC00)) :: ofCodes rest
      else charOfCode high :: ofCodes (low :: rest)

example : ofCodes (0x61 :: units 0x1F600 ++ [0xD83D, 0x62]) = "a😀\ufffdb".toList := by decide

end Text

end BridgedDenom
