import BridgedDenom.Value.Conversion

/-!
# Reading addresses

An address is read from text, from bytes, or from a value of any kind.  Text is
checked first, and only then are its digits read; bytes are checked for their
number.  The empty text has a fault of its own.
-/

namespace BridgedDenom

namespace Address

/-- The name under which the bytes of an address are reported. -/
def rawName : Text := "EthAddress.raw".toList

/-- The address of twenty bytes. -/
def ofBytes (raw : Bytes) : Except Failure Address :=
  if h : raw.length = 20 then .ok ⟨raw, h⟩
  else .error (.wrongLength rawName size raw.length)

def validate (s : Text) : Except Failure Unit :=
  if s.isEmpty then .error (.fault .emptyAddress)
  else if isHexAddress s then .ok ()
  else .error (.fault (.malformedAddress (.text s) s))

def ofText (s : Text) : Except Failure Address := do
  validate s
  match Hex.pairs (s.drop 2) with
  | .ok raw => ofBytes raw
  | .error _ => throw .badValue

def checksumOfText (s : Text) : Except Failure Text := return (← ofText s).checksum

def ofOctets (v : Value) : Except Failure Address := do ofBytes (← v.octetsOfLength size rawName)

def ofRawBytes (v : Value) : Except Failure Address := do ofBytes (← v.rawBytes)

@[simp] theorem ofBytes_raw (a : Address) : ofBytes a.raw = .ok a := by
  simp [ofBytes, a.length_raw]

end Address

def Value.isHexAddress : Value → Bool
  | .text s => Address.isHexAddress s
  | _ => false

def Value.checksumText (v : Value) : Except Failure Text :=
  match v.byteString? with
  | some data => (Checksum.encode? data).elim (.error .beyondDigest) .ok
  | none => .error .hexOfOther

end BridgedDenom
