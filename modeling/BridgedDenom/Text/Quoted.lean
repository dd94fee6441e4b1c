import BridgedDenom.Bytes.Basic
import BridgedDenom.Text.Printable

/-!
# Quoted text and quoted bytes

A quoted text stands between two quotes.  The quote is `'`, or `"` if the text
has the first kind and not the second, so that as few characters as possible are
escaped.  Backslash, tab, line feed, carriage return and the chosen quote are
escaped by a backslash; every other character that is not printable is given by
its code point in hex.  Quoted bytes are the same with each byte as a character,
marked by a leading `b`, and there only ASCII counts as printable.  In the bytes of a
buffer the first kind of quote is escaped whichever quote is chosen.

A text is brought into ASCII by giving the code points of all characters outside it
(`escaped`).
-/

namespace BridgedDenom

namespace Text

/-- A number in lower-case hex with at least `width` digits. -/
def hexCode (width n : Nat) : Text := padLeft '0' width (Nat.toDigits 16 n)

def quoteFor (s : Text) : Char := if s.contains '\'' && !s.contains '"' then '"' else '\''

/-- A character by its code, in as many hex digits as its mark announces. -/
def codeEscape (c : Char) : Text :=
  if c.toNat < 0x100 then "\\x".toList ++ hexCode 2 c.toNat
  else if c.toNat < 0x10000 then "\\u".toList ++ hexCode 4 c.toNat
  else "\\U".toList ++ hexCode 8 c.toNat

/-- ASCII as it is and every other character by its code. -/
def escaped (s : Text) : Text :=
  s.flatMap fun c => if c.toNat < 128 then [c] else codeEscape c

def quotedChar (quote c : Char) : Text :=
  if c = quote || c = '\\' then ['\\', c]
  else if c = '\t' then "\\t".toList
  else if c = '\n' then "\\n".toList
  else if c = '\r' then "\\r".toList
  else if isPrintable c then [c]
  else codeEscape c

def quoted (s : Text) : Text :=
  quoteFor s :: s.flatMap (quotedChar (quoteFor s)) ++ [quoteFor s]

end Text

namespace Bytes

def quotedByte (quote : Char) (byte : UInt8) : Text :=
  if byte < 127 then Text.quotedChar quote (Char.ofNat byte.toNat)
  else "\\x".toList ++ Text.hexCode 2 byte.toNat

def quotedBufferByte (quote : Char) (byte : UInt8) : Text :=
  if byte = 39 then ['\\', '\''] else quotedByte quote byte

/-- Bytes between quotes, where each is spelled in its own way. -/
def quotedBy (spell : Char → UInt8 → Text) (bytes : Bytes) : Text :=
  let quote := Text.quoteFor (bytes.map fun byte => Char.ofNat byte.toNat)
  'b' :: quote :: bytes.flatMap (spell quote) ++ [quote]

def quoted (bytes : Bytes) : Text := quotedBy quotedByte bytes

def quotedBuffer (bytes : Bytes) : Text := quotedBy quotedBufferByte bytes

end Bytes

example : Text.quoted "LOUD".toList = "'LOUD'".toList := by decide +kernel
example : Text.quoted "it's\n".toList = "\"it's\\n\"".toList := by decide +kernel
example : Text.escaped "'é€😀'".toList = "'\\xe9\\u20ac\\U0001f600'".toList := by
  decide +kernel
example : Bytes.quoted [0x70, 0x5C, 0x00, 0xFF, 0x7F, 0x27]
    = "b\"p\\\\\\x00\\xff\\x7f'\"".toList := by decide +kernel
example : Bytes.quotedBuffer [0x70, 0x27] = "b\"p\\'\"".toList := by decide +kernel

end BridgedDenom
