import BridgedDenom.Fault.Kind
import BridgedDenom.Value.Basic

/-!
# Faults

A fault is a report (kind, code, message, data) together with its cause, if it was
made because of another failure.  The cause is held twice: as the cause that the
fault names in its record, and as the link of the chain of failures that led to
it.  A new fault has both alike.  `withContext` adds fields to the data of a copy
and keeps the cause, but the copy starts a chain of its own.

In a record all data is in a form that can be written down: byte strings as hex,
and times, addresses, coins and views as text.
-/

namespace BridgedDenom

/-- The form in which a value is recorded.  Lists and mappings stay as they are. -/
def Value.recorded : Value → Value
  | .bytes .fixed data => .text (Hex.encode data)
  | .bytes .buffer data => .text (Hex.encode data)
  | .denom d => .text (Hex.encode d.bytes)
  | .bytes .view data => .text (Value.bytes .view data).plain
  | .address a => .text a.checksum
  | .coin name amount => .text (Value.coin name amount).plain
  | .time written => .text written
  | v => v

def Fields.recorded (fields : Fields) : Fields :=
  fields.map fun (name, v) => (name, v.recorded)

namespace Fault

/-- What a fault says about itself. -/
structure Report where
  kind : Kind
  /-- Its code, stable for machines. -/
  code : Text
  message : Text
  data : Fields
  /-- The same attempt may succeed later. -/
  retryable : Bool

def Report.headline (r : Report) : Text := r.code ++ ": ".toList ++ r.message

/-- A failure that led to a fault. -/
inductive Cause where
  | fault (report : Report)
  /-- A fault that was itself caused. -/
  | because (report : Report) (cause : Cause)
  /-- A failure outside the family. -/
  | other (name message : Text)

namespace Cause

def name : Cause → Text
  | fault report => report.kind.name
  | because report _ => report.kind.name
  | other name _ => name

def message : Cause → Text
  | fault report => report.message
  | because report _ => report.message
  | other _ message => message

end Cause

end Fault

/-- A report with its cause and its link to the chain of failures. -/
structure Fault extends Fault.Report where
  /-- The failure it was made for. -/
  cause : Option Fault.Cause
  /-- The previous failure in the chain. -/
  chain : Option Fault.Cause

namespace Fault

/-! ## New faults -/

/-- A new fault is linked to its cause. -/
def ofReport (report : Report) (cause : Option Cause) : Fault :=
  { report with cause := cause, chain := cause }

/-- A fault of a kind that cannot succeed on another attempt. -/
def make (kind : Kind) (code : Code) (message : Text) (data : Fields)
    (cause : Option Cause) : Fault :=
  ofReport ⟨kind, code.text, message, data, false⟩ cause

def emptyAddress : Fault :=
  make .emptyAddress .emptyAddress "empty Ethereum address".toList [] none

/-- The value, shown by a text, is not an address. -/
def malformedAddress (address : Value) (shown : Text) : Fault :=
  make .malformedAddress .malformedAddress (shown ++ " is not a valid Ethereum address".toList)
    [("address".toList, address)] none

/-- The denomination does not start as expected.  The form, of bytes or of text,
says what was compared. -/
def leadMismatch (denom expected form : Value) (shownDenom shownExpected shownForm : Text) :
    Fault :=
  make .leadMismatch .leadMismatch
    ("denom '".toList ++ shownDenom ++ "' ".toList ++ shownForm
      ++ " prefix not equal to expected '".toList ++ shownExpected ++ "'".toList)
    [("denom".toList, denom), ("expected".toList, expected), ("form".toList, form)] none

/-- The bytes after the lead are too few or too many for an address. -/
def addressLength (rest : Bytes) (expected : Value) : Fault :=
  make .addressLength .addressLength
    ("failed to validate Ethereum address bytes: ".toList ++ Hex.encode rest)
    [("address".toList, .text (Hex.encode rest)), ("length".toList, .int rest.length),
     ("expected".toList, expected)] none

def invalidAddress (contract : Value) (cause : Option Cause) : Fault :=
  make .invalidAddress .invalidAddress
    ("ethereum address".toList
      ++ (match cause with
          | some cause => ": ".toList ++ cause.message
          | none => []))
    [("contract".toList, contract)] cause

/-- The amount of a token makes no coin, for a reason. -/
def invalidAmount (coin reason : Value) (shownCoin shownReason : Text) : Fault :=
  make .invalidAmount .invalidAmount
    (shownCoin ++ ": invalid coins (".toList ++ shownReason ++ ")".toList)
    [("coin".toList, coin), ("reason".toList, reason)] none

def mismatchedContract (left right : Value) : Fault :=
  make .mismatchedContract .mismatchedContract "invalid contract address".toList
    [("left".toList, left), ("right".toList, right)] none

/-- A sum, given by its text, is out of range. -/
def amountOverflow (sum limit : Text) : Fault :=
  make .amountOverflow .amountOverflow "invalid amount".toList
    [("sum".toList, .text sum), ("limit".toList, .text limit)] none

def configuration (message : Text) (data : Fields) : Fault :=
  make .configuration .configuration message data.recorded none

/-! ## Context and records -/

def asCause (f : Fault) : Cause :=
  match f.chain with
  | none => .fault f.toReport
  | some cause => .because f.toReport cause

/-- A copy with more data, later fields winning. -/
def withContext (f : Fault) (context : Fields) : Fault :=
  { f with data := f.data.merge context.recorded, chain := none }

def Cause.record (cause : Cause) : Fields :=
  [("type".toList, .text cause.name), ("message".toList, .text cause.message)]

/-- The record of a fault, with its cause if asked for. -/
def record (f : Fault) (includeCause : Bool) : Fields :=
  [("code".toList, .text f.code), ("message".toList, .text f.message),
   ("data".toList, .mapping f.data.recorded), ("retryable".toList, .bool f.retryable)]
    ++ (match includeCause, f.cause with
        | true, some cause => [("cause".toList, .mapping cause.record)]
        | _, _ => [])

@[simp] theorem chain_withContext (f : Fault) (context : Fields) :
    (f.withContext context).chain = none := rfl

@[simp] theorem cause_withContext (f : Fault) (context : Fields) :
    (f.withContext context).cause = f.cause := rfl

@[simp] theorem cause_ofReport (report : Report) (cause : Option Cause) :
    (ofReport report cause).cause = cause := rfl

@[simp] theorem chain_ofReport (report : Report) (cause : Option Cause) :
    (ofReport report cause).chain = cause := rfl

end Fault

end BridgedDenom
