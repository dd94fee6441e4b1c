import BridgedDenom.Denomination.Reading

/-!
# Coins

A coin of the native chain is an amount of a denomination.  It may hold values of
any kind; it is valid if the denomination is a name of 3 to 128 characters and the
amount a non-negative integer of at most 256 bits.  Its text is the amount followed
by the denomination.
-/

namespace BridgedDenom

structure Coin where
  denom : Value
  amount : Value

namespace Coin

def maxBits : Nat := 256

/-- A denomination of the native chain: a name of 3 to 128 characters. -/
def isDenom (s : Text) : Bool := s.isName && 3 ≤ s.length && s.length ≤ 128

def isDenomValue : Value → Bool
  | .text s => isDenom s
  | _ => false

/-- The amount is a non-negative integer of at most 256 bits, and no truth value. -/
def isAmount : Value → Bool
  | .int n => 0 ≤ n && n < Nat.pow 2 maxBits
  | _ => false

def isValid (c : Coin) : Bool := isDenomValue c.denom && isAmount c.amount

/-- The amount is an integer above zero; a truth value counts as one. -/
def isPositive (c : Coin) : Bool := c.amount.integer?.any fun n => 0 < n

def display (c : Coin) : Attempt Text := do
  let amount ← c.amount.display
  let denom ← c.denom.display
  pure (amount ++ denom)

example : (isDenom "abc".toList, isDenom "ab".toList, isDenom "1abc".toList)
    = (true, false, false) := by decide
example : (isAmount (.int (2 ^ 256 - 1)), isAmount (.int (2 ^ 256)), isAmount (.bool true))
    = (true, false, false) := by decide

end Coin

end BridgedDenom
