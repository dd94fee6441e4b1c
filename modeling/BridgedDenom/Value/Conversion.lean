import BridgedDenom.Failure

/-!
# Conversions of values

Three ways to take a value for bytes and one to take it for an integer.

*Octets.*  Byte strings give their bytes and text its UTF-8 encoding; everything
else is refused by naming its kind.

*Raw bytes.*  Byte strings and addresses give their bytes, a list of integers from
0 to 255 gives those bytes, and an integer gives that many zero bytes.  A mapping counts
as the list of its keys, which are no integers, so only an empty one gives bytes.  Text is
refused.

*Hex.*  Only byte strings have a hex text.

Integers are read from texts and bytes, and made into texts, within a limit on the
number of digits.
-/

namespace BridgedDenom

namespace Value

/-- The bytes of a byte string or the UTF-8 bytes of a text. -/
def octets (v : Value) : Except Failure Bytes :=
  match v.byteString?, v with
  | some data, _ => .ok data
  | none, .text s => .ok s.utf8
  | none, _ => .error (.noOctets v.qualifiedKind)

/-- The octets, if there are as many as expected.  The name says whose they are. -/
def octetsOfLength (v : Value) (expected : Int) (name : Text) : Except Failure Bytes := do
  let data ← v.octets
  if (data.length : Int) = expected then pure data
  else throw (.wrongLength name expected data.length)

def itemByte (v : Value) : Except Failure UInt8 :=
  match v.integer? with
  | some n => if 0 ≤ n ∧ n ≤ 255 then .ok (UInt8.ofNat n.toNat) else .error .badValue
  | none => .error .wrongKind

/-- The count that no count of items reaches: counts have 63 bits and a sign. -/
def countLimit : Int := 0x8000000000000000

def zeroBytes (n : Int) : Except Failure Bytes :=
  if countLimit ≤ n ∨ n < -countLimit then .error .tooLarge
  else if n < 0 then .error .badValue
  else .ok (List.replicate n.toNat 0)

/-- The bytes a value stands for, without any encoding of text. -/
def rawBytes (v : Value) : Except Failure Bytes :=
  match v with
  | .bytes _ data => .ok data
  | .denom d => .ok d.bytes
  | .address a => .ok a.raw
  | .list items => items.mapM itemByte
  | .mapping entries => if entries.isEmpty then .ok [] else .error .wrongKind
  | .bool b => zeroBytes b.toInt
  | .int n => zeroBytes n
  | .null | .float _ | .text _ | .time _ | .coin _ _ => .error .wrongKind

/-- The hex digits of a byte string, after `0x` if marked. -/
def hexText (v : Value) (marked : Bool) : Except Failure Text :=
  match v.byteString? with
  | some data => .ok (if marked then Hex.encodeMarked data else Hex.encode data)
  | none => .error .hexOfOther

def bytesOfHex : Value → Except Failure Bytes
  | .text s =>
      match Hex.ofText s with
      | .ok data => .ok data
      | .error position => .error (.badHex position)
  | _ => .error .hexFromOther

/-- The integer a value stands for: a number without its fraction, or the number
written by a text or by bytes. -/
def toInteger (limit : DigitLimit) (v : Value) : Except Failure Int :=
  match v with
  | .bool b => .ok b.toInt
  | .int n => .ok n
  | .float x =>
      match x.truncate?, x with
      | some n, _ => .ok n
      | none, .infinite _ => .error .tooLarge
      | none, _ => .error .badValue
  | .text s => (Decimal.readInt? limit s).elim (.error .badValue) .ok
  | .bytes _ data => (Decimal.readBytes? limit data).elim (.error .badValue) .ok
  | .denom d => (Decimal.readBytes? limit d.bytes).elim (.error .badValue) .ok
  | .null | .time _ | .address _ | .coin _ _ | .list _ | .mapping _ => .error .wrongKind

/-- The text of a value in a message.  Integers have one within a limit of digits. -/
def reported (limit : DigitLimit) : Value → Except Failure Text
  | .int n => (Decimal.written? limit n).elim (.error .badValue) .ok
  | v => .ok v.plain

/-- The sum of two numbers.  Truth values count as integers; with a
floating-point operand the sum is floating-point. -/
def sum (v w : Value) : Except Failure Value :=
  match v, w with
  | .float x, .float y => .ok (.float (x.add y))
  | .float x, w =>
      match w.integer?.map Binary64.ofInt? with
      | some (some y) => .ok (.float (x.add y))
      | some none => .error .tooLarge
      | none => .error .wrongKind
  | v, .float y =>
      match v.integer?.map Binary64.ofInt? with
      | some (some x) => .ok (.float (x.add y))
      | some none => .error .tooLarge
      | none => .error .wrongKind
  | v, w =>
      match v.integer?, w.integer? with
      | some m, some n => .ok (.int (m + n))
      | _, _ => .error .wrongKind

/-- The comparison of the octets of two values; the first is converted first. -/
def compareOctets (v w : Value) : Except Failure Ordering := do
  let x ← v.octets
  let y ← w.octets
  pure (x.compare y)

@[simp] theorem octets_bytes (form : ByteForm) (data : Bytes) :
    (Value.bytes form data).octets = .ok data := rfl

@[simp] theorem octets_text (s : Text) : (Value.text s).octets = .ok s.utf8 := rfl

@[simp] theorem sum_int (m n : Int) : sum (.int m) (.int n) = .ok (.int (m + n)) := rfl

end Value

end BridgedDenom
