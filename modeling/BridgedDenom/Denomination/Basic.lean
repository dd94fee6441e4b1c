import BridgedDenom.Convention.Basic

/-!
# Denominations

A denomination names a contract of the foreign chain on the native chain.  It is a
byte string kept together with the convention it was made under: the lead followed
by the twenty bytes of the address.  The type also holds byte strings that name no
contract; whether one does is for the reading functions to say.

The text of an address after the lead is the display form.
-/

namespace BridgedDenom

/-- A byte string taken for a denomination under a convention. -/
structure Denomination where
  bytes : Bytes
  convention : Convention
deriving DecidableEq

namespace Convention

def encode (c : Convention) (a : Address) : Denomination := ⟨c.leadBytes ++ a.raw, c⟩

def denomText (c : Convention) (a : Address) : Text := c.stem ++ c.separator ++ a.checksum

@[simp] theorem encode_bytes (c : Convention) (a : Address) :
    (c.encode a).bytes = c.leadBytes ++ a.raw := rfl

@[simp] theorem encode_convention (c : Convention) (a : Address) :
    (c.encode a).convention = c := rfl

@[simp] theorem length_encode_bytes (c : Convention) (a : Address) :
    (c.encode a).bytes.length = c.denomLength := by
  simp [denomLength, Address.size, a.length_raw]

end Convention

end BridgedDenom
