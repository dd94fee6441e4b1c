import BridgedDenom.Denomination.Reading

/-!
# Faults about values

Faults made by callers, who may hand over values of any kind where the library
itself has text.  The message shows each value by its text in a message, while the
data keeps the value as it is.
-/

namespace BridgedDenom

namespace Fault

/-- A message given by a value; only text is one. -/
def messageOfValue : Value → Except Failure Text
  | .text s => .ok s
  | _ => .error .wrongKind

/-- A fault of a kind with everything given.  The code is the text of a value. -/
def ofParts (kind : Kind) (code message : Value) (data : Fields) (retryable : Bool)
    (cause : Option Cause) : Attempt Fault := do
  let code ← code.display
  let message ← Attempt.ofExcept (messageOfValue message)
  pure (ofReport ⟨kind, code, message, data, retryable⟩ cause)

def malformedAddressOf (address : Value) : Attempt Fault :=
  return malformedAddress address (← address.display)

def leadMismatchOf (denom expected form : Value) : Attempt Fault := do
  let shownDenom ← denom.display
  let shownForm ← form.display
  let shownExpected ← expected.display
  pure (leadMismatch denom expected form shownDenom shownExpected shownForm)

/-- The bytes after the lead are too few or too many.  Numbers and addresses have a
hex form of their own but no length. -/
def addressLengthOf (rest expected : Value) : Attempt Fault :=
  match rest.byteString?, rest with
  | some data, _ => pure (addressLength data expected)
  | none, .float _ | none, .address _ => throw .wrongKind
  | none, _ => throw .noOperation

def invalidAmountOf (coin reason : Value) : Attempt Fault := do
  let shownCoin ← coin.display
  let shownReason ← reason.display
  pure (invalidAmount coin reason shownCoin shownReason)

def amountOverflowOf (sum limit : Value) : Attempt Fault := do
  let sum ← sum.display
  let limit ← limit.display
  pure (amountOverflow sum limit)

def configurationOf (message : Value) (data : Fields) : Attempt Fault :=
  return configuration (← .ofExcept (messageOfValue message)) data

end Fault

end BridgedDenom
