import BridgedDenom.Address.Reading

/-!
# Order of addresses

Addresses are ordered by their bytes, as lists are: the first difference decides.

Whatever stands for an address can be compared: an address by its bytes, a text by
its UTF-8 encoding, a byte string by itself.  Sorting is stable: items are put one
after the other into the sorted part, each behind the items that are not greater.
-/

namespace BridgedDenom

namespace Address

instance : LT Address := ⟨fun a b => List.Lex (· < ·) a.raw b.raw⟩

instance : LE Address := ⟨fun a b => a.raw = b.raw ∨ a < b⟩

instance (a b : Address) : Decidable (a < b) := List.decidableLex (· < ·) a.raw b.raw

instance (a b : Address) : Decidable (a ≤ b) :=
  inferInstanceAs (Decidable (a.raw = b.raw ∨ a < b))

/-- The bytes by which a value is ordered. -/
def orderKey (v : Value) : Except Failure Bytes :=
  match v.byteString?, v with
  | some data, _ => .ok data
  | none, .address a => .ok a.raw
  | none, .text s => .ok s.utf8
  | none, _ => .error (.unordered v.kindName)

/-- The comparison of two values; the first is looked at first. -/
def compareValues (v w : Value) : Except Failure Ordering := do
  let x ← orderKey v
  let y ← orderKey w
  pure (x.compare y)

/-- The first value comes strictly before the second. -/
def isLess (v w : Value) : Except Failure Bool := return (← compareValues v w) == .lt

/-- Put an item with its label behind the items that are not greater. -/
def insertSorted {α : Type} (item : Value × α) :
    List (Value × α) → Except Failure (List (Value × α))
  | [] => .ok [item]
  | next :: rest => do
      if ← isLess item.1 next.1 then pure (item :: next :: rest)
      else pure (next :: (← insertSorted item rest))

/-- Labelled items sorted by their values, in front of them what is sorted already. -/
def sortOnto {α : Type} (sorted : List (Value × α)) :
    List (Value × α) → Except Failure (List (Value × α))
  | [] => .ok sorted
  | item :: rest => do sortOnto (← insertSorted item sorted) rest

def sort {α : Type} (items : List (Value × α)) : Except Failure (List (Value × α)) :=
  sortOnto [] items

end Address

end BridgedDenom
