import BridgedDenom.Coin

/-!
# Tokens

A token is an amount of one contract of the foreign chain.  The contract is kept
as text.  Whichever way a token is made, a contract that is an address is brought
into checksum case, so two spellings of one address give equal contracts; any other
contract is kept as it is, for `validate` to refuse.

Amounts are integers of any size and sign.  Only `make`, which stands where amounts
come in from outside, insists on 64 bits, and `add` does so for its result: the sum
is formed exactly and then checked, so it never wraps.

Where an amount is read from text, and where a sum is reported, a limit on its digits
is given.
-/

namespace BridgedDenom

/-- An amount of one contract of the foreign chain. -/
structure Token where
  amount : Value
  contract : Value

namespace Token

def logger : Text := "peggy.erc20".toList

/-- The greatest amount that fits in 64 bits. -/
def maxAmount : Int := 0xFFFFFFFFFFFFFFFF

/-! ## New tokens -/

/-- A contract as a token keeps it: addresses in checksum case, all else as it is. -/
def canonicalContract (contract : Value) : Except Failure Value :=
  match contract with
  | .address a => .ok (.text a.checksum)
  | .text s =>
      if Address.isHexAddress s then return .text (← Address.ofText s).checksum
      else .ok (.text s)
  | v => .ok v

/-- A token of an amount and a contract taken as they are. -/
def ofParts (amount contract : Value) : Except Failure Token :=
  return ⟨amount, ← canonicalContract contract⟩

/-- The text of a contract: the checksum form of an address, or the text of the
value. -/
def contractText : Value → Attempt Text
  | .address a => pure a.checksum
  | v => v.display

def make (amount contract : Value) : Attempt Token :=
  match amount with
  | .int n =>
      if 0 ≤ n ∧ n ≤ maxAmount then do
        .ofExcept (ofParts (.int n) (.text (← contractText contract)))
      else throw (.amountRange n)
  | _ => throw .amountKind

/-- A token of any amount that stands for an integer. -/
def ofAmount (limit : DigitLimit) (amount contract : Value) : Attempt Token := do
  let n ← Attempt.ofExcept (amount.toInteger limit)
  .ofExcept (ofParts (.int n) (.text (← contractText contract)))

def writtenAmount (limit : DigitLimit) (v : Value) : Attempt Int := do
  let s ← v.display
  match Decimal.readInt? limit s with
  | some n => pure n
  | none => throw .badValue

def field (fields : Fields) (key : Text) : Attempt Value :=
  match fields.get? key with
  | some v => pure v
  | none => throw (.missingKey key)

def amountKey : Text := "amount".toList

def contractKey : Text := "contract".toList

/-- The token of a record.  The amount is looked at first. -/
def ofRecord (limit : DigitLimit) (fields : Fields) : Attempt Token := do
  let n ← writtenAmount limit (← field fields amountKey)
  let contract ← (← field fields contractKey).display
  ofAmount limit (.int n) (.text contract)

/-! ## Views -/

/-- The record of a token, with the amount as text. -/
def record (t : Token) : Attempt Fields := do
  let amount ← t.amount.display
  pure [(amountKey, .text amount), (contractKey, t.contract)]

def address (t : Token) : Attempt Address := Address.ofValue t.contract

def coin (t : Token) (c : Convention) : Attempt Coin :=
  return ⟨.text (c.denomText (← t.address)), t.amount⟩

def hasAddress (t : Token) : Bool := t.contract.isHexAddress

/-- A token in a message: its coin, or the amount followed by what stands for the
contract. -/
def display (t : Token) : Attempt Text :=
  if t.hasAddress then do (← t.coin .default).display
  else do
    let amount ← t.amount.display
    let contract ← t.contract.display
    pure (amount ++ contract)

def same (t u : Token) : Bool := t.amount.same u.amount && t.contract.same u.contract

/-! ## Validation -/

/-- The failure of an address fault wrapped for the contract it is about; other
failures stay as they are. -/
def wrapAddressFault (contract : Value) : Failure → Failure
  | .fault f =>
      if f.kind.branch = .addressSyntax then
        .fault (.invalidAddress contract (some f.asCause))
      else .fault f
  | failure => failure

/-- The failure of a coin for a reason. -/
def invalidCoin (shown reason : Text) : Failure :=
  .fault (.invalidAmount (.text shown) (.text reason) shown reason)

/-- Accept a token: its contract is an address and its coin is valid and
positive. -/
def validate (t : Token) (c : Convention) : Attempt Unit := do
  tryCatch (Address.validateValue t.contract) fun failure =>
    throw (wrapAddressFault t.contract failure)
  let coin ← t.coin c
  if !coin.isValid then throw (invalidCoin (← coin.display) "invalid coin".toList)
  if !coin.isPositive then
    throw (invalidCoin (← coin.display) "amount must be positive".toList)

/-! ## Sums -/

/-- The number lies between zero and the greatest amount. -/
def inRange : Value → Bool
  | .float x => x.between 0 maxAmount
  | v => v.integer?.any fun n => 0 ≤ n && n ≤ maxAmount

/-- The sum of two tokens of one contract, if it fits in 64 bits.  A sum that does not
is reported, within a limit of digits. -/
def add (limit : DigitLimit) (t u : Token) : Attempt Token := do
  if !t.contract.same u.contract then
    .refuse
      ⟨Level.debug, logger, "rejecting sum of different contracts".toList, [],
        [("left".toList, t.contract), ("right".toList, u.contract)]⟩
      (.fault (.mismatchedContract t.contract u.contract))
  else
    let total ← Attempt.ofExcept (t.amount.sum u.amount)
    if inRange total then .ofExcept (ofParts total t.contract)
    else
      let shown ← Attempt.ofExcept (total.reported limit)
      .refuse
        ⟨Level.debug, logger, "rejecting out-of-range sum".toList, [],
          [("sum".toList, .text shown)]⟩
        (.fault (.amountOverflow shown (Decimal.ofInt maxAmount)))

end Token

end BridgedDenom
