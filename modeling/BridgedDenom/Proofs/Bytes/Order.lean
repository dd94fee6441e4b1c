import BridgedDenom.Bytes.Basic

/-!
# The order of byte strings

Two byte strings that are not empty are compared by their first bytes, and by the rest
only if these are equal.  By induction a byte string comes first in the comparison exactly
where it does in the lexicographic order of lists (`compare_eq_lt_iff`), two byte strings
compare as equal only if they are (`compare_eq_eq_iff`), and exchanging the two turns the
result around (`compare_swap`).

The laws of a total order follow from these three, and they are stated by the classes of
the library for comparisons.
-/

namespace BridgedDenom

namespace Bytes

section
variable {xs ys zs : Bytes}

/-! ## One step -/

theorem compare_cons_of_lt {x y : UInt8} (h : x < y) : compare (x :: xs) (y :: ys) = .lt := by
  simp [compare, h]

theorem compare_cons_of_gt {x y : UInt8} (h : y < x) : compare (x :: xs) (y :: ys) = .gt := by
  simp [compare, h, UInt8.le_of_lt h]

/-- A step of a comparison has three cases. -/
theorem byte_trichotomy (x y : UInt8) : x < y ∨ x = y ∨ y < x := by
  by_cases same : x = y
  · exact Or.inr (Or.inl same)
  · exact (UInt8.lt_or_lt_of_ne same).imp_right Or.inr

/-! ## The three outcomes -/

theorem compare_swap (xs ys : Bytes) : compare xs ys = (compare ys xs).swap := by
  induction xs generalizing ys with
  | nil => cases ys <;> rfl
  | cons x xs ih =>
      cases ys with
      | nil => rfl
      | cons y ys =>
          rcases byte_trichotomy x y with less | rfl | greater
          · rw [compare_cons_of_lt less, compare_cons_of_gt less]
            rfl
          · rw [compare_cons_self, compare_cons_self, ih]
          · rw [compare_cons_of_gt greater, compare_cons_of_lt greater]
            rfl

/-- Coming first is coming first in the order of lists. -/
theorem compare_eq_lt_iff : compare xs ys = .lt ↔ List.Lex (· < ·) xs ys := by
  induction xs generalizing ys with
  | nil =>
      cases ys with
      | nil => simp [compare]
      | cons y ys => exact iff_of_true rfl .nil
  | cons x xs ih =>
      cases ys with
      | nil => simp
      | cons y ys =>
          rw [List.cons_lex_cons_iff]
          rcases byte_trichotomy x y with less | rfl | greater
          · exact iff_of_true (compare_cons_of_lt less) (Or.inl less)
          · simp [ih]
          · simp [compare_cons_of_gt greater, UInt8.lt_asymm greater, (UInt8.ne_of_lt greater).symm]

theorem compare_eq_eq_iff : compare xs ys = .eq ↔ xs = ys := by
  induction xs generalizing ys with
  | nil => cases ys <;> simp [compare]
  | cons x xs ih =>
      cases ys with
      | nil => simp
      | cons y ys =>
          rcases byte_trichotomy x y with less | rfl | greater
          · simp [compare_cons_of_lt less, UInt8.ne_of_lt less]
          · simp [ih]
          · simp [compare_cons_of_gt greater, (UInt8.ne_of_lt greater).symm]

theorem compare_isLE_iff : (compare xs ys).isLE ↔ xs = ys ∨ List.Lex (· < ·) xs ys := by
  rw [← compare_eq_eq_iff, ← compare_eq_lt_iff]
  cases compare xs ys <;> simp

/-- A proper beginning comes first. -/
theorem compare_append_self (xs : Bytes) (h : zs ≠ []) : compare xs (xs ++ zs) = .lt := by
  obtain ⟨z, zs, rfl⟩ := List.exists_cons_of_ne_nil h
  have shared := compare_append_left xs [] (z :: zs)
  rwa [List.append_nil] at shared

/-! ## A total order -/

theorem compare_isLE_trans (left : (compare xs ys).isLE) (right : (compare ys zs).isLE) :
    (compare xs zs).isLE := by
  rw [compare_isLE_iff] at left right ⊢
  rcases left with rfl | left
  · exact right
  · rcases right with rfl | right
    · exact Or.inr left
    · exact Or.inr (List.lex_trans UInt8.lt_trans left right)

end

instance : Std.TransCmp compare where
  eq_swap := compare_swap _ _
  isLE_trans := compare_isLE_trans

end Bytes

end BridgedDenom
