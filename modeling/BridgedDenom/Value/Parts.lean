import BridgedDenom.Value.Basic

/-!
# Parts of values

The parts of a value are the value itself and the values in it, at any depth.  Only lists and
mappings have parts besides themselves.

Where the digits of integers are limited, a value has a text only if every integer in it is
short enough, however deep it stands.
-/

namespace BridgedDenom

namespace Value

mutual

/-- The value and all values in it, at any depth, the value itself first. -/
def parts : Value → List Value
  | .list items => .list items :: itemParts items
  | .mapping entries => .mapping entries :: entryParts entries
  | v => [v]

def itemParts : List Value → List Value
  | [] => []
  | v :: rest => parts v ++ itemParts rest

def entryParts : List (Text × Value) → List Value
  | [] => []
  | (_, v) :: rest => parts v ++ entryParts rest

end

/-- The integer that a text of the value has in it by itself: that of an integer or of a coin. -/
def spelledInteger? : Value → Option Int
  | .int n => some n
  | .coin _ amount => some amount
  | _ => none

/-- All integers that a text of the value has in it are within a limit of digits. -/
def hasText (limit : DigitLimit) (v : Value) : Bool :=
  v.parts.all fun part => part.spelledInteger?.all fun n => (Decimal.written? limit n).isSome

example : hasText ⟨some 3⟩ (.list [.int 999, .mapping [("a".toList, .coin "peggy".toList 7)]])
    = true := by
  decide
example : hasText ⟨some 3⟩ (.list [.int 999, .mapping [("a".toList, .int 1000)]]) = false := by
  decide

end Value

end BridgedDenom
