import BridgedDenom.Bytes.Basic
import BridgedDenom.Text.Basic

/-!
# Text as bytes

UTF-8 in both directions, and the ASCII encoding, which refuses every character
beyond 127.  On ASCII text the two agree.
-/

namespace BridgedDenom

namespace Text

def utf8 (s : Text) : Bytes := s.flatMap String.utf8EncodeChar

/-- The text that a byte string encodes in UTF-8, if it encodes any. -/
def ofUtf8? (bytes : Bytes) : Option Text :=
  bytes.toByteArray.utf8Decode?.map Array.toList

/-- The ASCII bytes of a text, if all its characters are below 128. -/
def ascii? (s : Text) : Option Bytes :=
  if s.isAscii then some (s.map fun c => UInt8.ofNat c.toNat) else none

@[simp] theorem utf8_nil : utf8 [] = [] := rfl

@[simp] theorem utf8_append (s t : Text) : utf8 (s ++ t) = utf8 s ++ utf8 t := by
  simp [utf8]

/-- Reading back what was encoded gives the text. -/
theorem ofUtf8?_utf8 (s : Text) : ofUtf8? (utf8 s) = some s := by
  have encoded : (utf8 s).toByteArray = s.utf8Encode := by
    simp [utf8, List.utf8Encode]
  simp [ofUtf8?, encoded, List.utf8Decode?_utf8Encode]

example : utf8 "a\u00e9\u20ac😀".toList
    = [0x61, 0xC3, 0xA9, 0xE2, 0x82, 0xAC, 0xF0, 0x9F, 0x98, 0x80] := by decide

end Text

end BridgedDenom
