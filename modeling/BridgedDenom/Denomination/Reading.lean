import BridgedDenom.Address.Reading
import BridgedDenom.Log.Logged

/-!
# Reading denominations

A denomination is read from bytes or from its display form.  The bytes must be the
lead of the convention followed by exactly twenty bytes; the display form must be
the lead followed by an address in text, in any letter case, and reading it makes
the denomination anew.  A denomination refused for its lead or its length is
noted for the log.

`Denomination.display` is for messages.  Bytes that name no contract are shown as
hex with the reason, which is a fault of the denomination branch; a failure of any
other sort would be passed on.
-/

namespace BridgedDenom

namespace Denomination

def logger : Text := "peggy.denom".toList

end Denomination

namespace Convention

open Denomination (logger)

def byteMismatch (c : Convention) (data : Bytes) : Failure :=
  let denom := Hex.encode data
  let expected := Hex.encode c.leadBytes
  let form := "byte".toList
  .fault (.leadMismatch (.text denom) (.text expected) (.text form) denom expected form)

def textMismatch (c : Convention) (s : Text) : Failure :=
  let form := "string".toList
  .fault (.leadMismatch (.text s) (.text c.lead) (.text form) s c.lead form)

def decodeBytes (c : Convention) (data : Bytes) : Attempt Address :=
  if c.leadBytes.isPrefixOf data then
    let rest := data.drop c.leadBytes.length
    if rest.length = Address.size then .ofExcept (Address.ofBytes rest)
    else
      .refuse
        ⟨Level.debug, logger, "denom address length mismatch".toList, [],
          [("denom".toList, .text (Hex.encode data)), ("length".toList, .int rest.length)]⟩
        (.fault (.addressLength rest (.int Address.size)))
  else
    .refuse
      ⟨Level.debug, logger, "denom byte prefix mismatch".toList, [],
        [("denom".toList, .text (Hex.encode data))]⟩
      (c.byteMismatch data)

def decodeText (c : Convention) (s : Text) : Attempt Denomination :=
  if c.lead.isPrefixOf s then
    .ofExcept (do return c.encode (← Address.ofText (s.drop c.lead.length)))
  else
    .refuse
      ⟨Level.debug, logger, "denom string prefix mismatch".toList, [],
        [("denom".toList, .text s)]⟩
      (c.textMismatch s)

/-- The denomination named by a value; only text names one. -/
def decodeValue (c : Convention) : Value → Attempt Denomination
  | .text s => c.decodeText s
  | .bytes .fixed _ | .bytes .buffer _ | .denom _ => throw .wrongKind
  | _ => throw .noOperation

/-- The denomination of the address that the raw bytes of a value make. -/
def encodeValue (c : Convention) : Value → Except Failure Denomination
  | .address a => .ok (c.encode a)
  | v => do return c.encode (← Address.ofRawBytes v)

end Convention

namespace Denomination

/-- The address that a denomination names under its own convention. -/
def contract (d : Denomination) : Attempt Address := d.convention.decodeBytes d.bytes

/-- A denomination in a message: its display form, or its bytes with the reason why
they name no contract. -/
def display (d : Denomination) : Attempt Text :=
  tryCatch (return d.convention.denomText (← d.contract)) fun failure =>
    if failure.isDenomFault then do
      let bytes := Hex.encode d.bytes
      Attempt.note
        ⟨Level.warning, logger, "unparseable peggy denom".toList, [],
          [("denom".toList, .text bytes), ("error".toList, .text failure.message)]⟩
      pure (bytes ++ "(error: ".toList ++ failure.message ++ ")".toList)
    else throw failure

end Denomination

def Value.display : Value → Attempt Text
  | .denom d => d.display
  | v => pure v.plain

/-- Accept a value as an address in text; a value of another kind is refused by its
text. -/
def Address.validateValue : Value → Attempt Unit
  | .text s => .ofExcept (Address.validate s)
  | v => do
      let shown ← v.display
      throw (.fault (.malformedAddress (.text shown) shown))

/-- The address written by a value; only text writes one. -/
def Address.ofValue (v : Value) : Attempt Address := do
  Address.validateValue v
  match v with
  | .text s => .ofExcept (Address.ofText s)
  | _ => throw .wrongKind

end BridgedDenom
