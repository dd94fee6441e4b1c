/-!
# Byte strings

A byte string is the list of its bytes.  Byte strings are ordered
lexicographically, a proper initial part before the whole.
-/

namespace BridgedDenom

/-- A byte string as the list of its bytes. -/
abbrev Bytes := List UInt8

namespace Bytes

def compare : Bytes → Bytes → Ordering
  | [], [] => .eq
  | [], _ :: _ => .lt
  | _ :: _, [] => .gt
  | x :: xs, y :: ys => if x < y then .lt else if y < x then .gt else compare xs ys

@[simp] theorem compare_nil_cons (y : UInt8) (ys : Bytes) : compare [] (y :: ys) = .lt := rfl

@[simp] theorem compare_cons_nil (x : UInt8) (xs : Bytes) : compare (x :: xs) [] = .gt := rfl

/-- A shared first byte does not matter. -/
@[simp] theorem compare_cons_self (x : UInt8) (xs ys : Bytes) :
    compare (x :: xs) (x :: ys) = compare xs ys := by
  simp [compare, UInt8.lt_irrefl]

/-- A shared beginning does not matter. -/
@[simp] theorem compare_append_left (zs xs ys : Bytes) :
    compare (zs ++ xs) (zs ++ ys) = compare xs ys := by
  induction zs with
  | nil => rfl
  | cons z zs ih => simp [ih]

end Bytes

end BridgedDenom
