import BridgedDenom.Address.Checksum

/-!
# Contract addresses

An address of a contract on the foreign chain is a string of exactly 20 bytes.  In
text it is `0x` followed by 40 hex digits.  Every letter case is accepted, and the
case chosen by the checksum is the one that is written.
-/

namespace BridgedDenom

/-- The address of a contract on the foreign chain. -/
structure Address where
  raw : Bytes
  length_raw : raw.length = 20
deriving DecidableEq

namespace Address

def size : Nat := 20

def textSize : Nat := 2 + 2 * size

/-- The text is `0x` or `0X` followed by forty hex digits. -/
def isHexAddress (s : Text) : Bool :=
  Hex.isMarked s && (s.drop 2).length == 2 * size && Hex.isHex (s.drop 2)

/-- The address made of given bytes, if there are twenty. -/
def ofBytes? (raw : Bytes) : Option Address :=
  if h : raw.length = 20 then some ⟨raw, h⟩ else none

/-- An address in text, in checksum case. -/
def checksum (a : Address) : Text :=
  '0' :: 'x' :: List.zipWith Checksum.raise (Hex.encode a.raw) (Checksum.nibbles a.raw)

/-- The checksum of an address always exists. -/
theorem encode?_raw (a : Address) : Checksum.encode? a.raw = some a.checksum := by
  have enough : (Hex.encode a.raw).length ≤ (Checksum.nibbles a.raw).length := by
    simp [a.length_raw]
  simp [Checksum.encode?, Checksum.raiseAll?_eq_zipWith enough, checksum]

@[simp] theorem ofBytes?_raw (a : Address) : ofBytes? a.raw = some a := by
  simp [ofBytes?, a.length_raw]

@[simp] theorem length_checksum (a : Address) : a.checksum.length = 42 := by
  simp [checksum, a.length_raw]

end Address

end BridgedDenom
