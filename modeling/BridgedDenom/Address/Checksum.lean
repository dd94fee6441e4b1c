import BridgedDenom.Bytes.Hex
import BridgedDenom.Bytes.Keccak
import BridgedDenom.Text.Utf8

/-!
# Checksum case

The letters of a hex text carry a checksum in their case.  The digest of the
lower-case digits is taken half a byte at a time; a letter is raised where the half
byte of the same index is eight or more.  Digits have no case and need no half
byte.  A digest has 64 half bytes, so a byte string of at most 32 bytes always has
a checksum; a longer one has none as soon as a letter lies beyond the digest.
-/

namespace BridgedDenom

namespace Checksum

/-- The half bytes that decide the case of the digits of a byte string. -/
def nibbles (raw : Bytes) : List Nat := Hex.nibbles (Keccak.digest (Hex.encode raw).utf8)

/-- One digit under the half byte of its index. -/
def raise (c : Char) (nibble : Nat) : Char := if 8 ≤ nibble then c.toUpper else c

/-- All digits under their half bytes, unless a letter has none. -/
def raiseAll? : Text → List Nat → Option Text
  | [], _ => some []
  | c :: rest, nibble :: nibbles => (raiseAll? rest nibbles).map (raise c nibble :: ·)
  | c :: rest, [] => if c.isAlpha then none else (raiseAll? rest []).map (c :: ·)

/-- The hex digits of a byte string in checksum case, after `0x`. -/
def encode? (raw : Bytes) : Option Text :=
  (raiseAll? (Hex.encode raw) (nibbles raw)).map fun digits => '0' :: 'x' :: digits

@[simp] theorem length_nibbles (raw : Bytes) : (nibbles raw).length = 64 := by
  simp [nibbles]

/-- Where every digit has a half byte, nothing is refused. -/
theorem raiseAll?_eq_zipWith {digits : Text} {nibbles : List Nat}
    (h : digits.length ≤ nibbles.length) :
    raiseAll? digits nibbles = some (List.zipWith raise digits nibbles) := by
  induction digits generalizing nibbles with
  | nil => rfl
  | cons c rest ih =>
      cases nibbles with
      | nil => simp at h
      | cons nibble nibbles =>
          have shorter : rest.length ≤ nibbles.length := by simpa using h
          simp [raiseAll?, ih shorter]

end Checksum

end BridgedDenom
