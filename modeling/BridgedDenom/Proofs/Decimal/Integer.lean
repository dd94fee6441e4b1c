import BridgedDenom.Decimal.Integer

/-!
# The writing of an integer

Different integers are written differently (`ofInt_injective`).  A writing has no
letters, so where it is followed by a text that starts with a letter, the two parts can
be told apart (`ofInt_append_inj`).

A number is too long for a limit on digits if it is not below the power of ten with as
many zeros (`admits_eq_false`).
-/

namespace BridgedDenom

namespace Decimal

/-! ## Reading the digits -/

theorem ofNat_injective {m n : Nat} (h : ofNat m = ofNat n) : m = n := by
  have values := congrArg (fun digits => Nat.ofDigitChars 10 digits 0) h
  simpa only [ofNat, Nat.ofDigitChars_ten_toDigits] using values

theorem isDigit_of_mem_ofNat {n : Nat} {c : Char} (h : c ∈ ofNat n) : c.isDigit = true :=
  Nat.isDigit_of_mem_toDigits (by decide) (by decide) h

theorem minus_not_mem_ofNat (n : Nat) : '-' ∉ ofNat n := by
  intro mem
  have digit := isDigit_of_mem_ofNat mem
  cases digit

theorem ofInt_injective {m n : Int} (h : ofInt m = ofInt n) : m = n := by
  cases m with
  | ofNat m =>
      cases n with
      | ofNat n => rw [ofNat_injective h]
      | negSucc n =>
          have written : ofNat m = '-' :: ofNat (n + 1) := h
          exact absurd (written ▸ List.mem_cons_self) (minus_not_mem_ofNat m)
  | negSucc m =>
      cases n with
      | ofNat n =>
          have written : ofNat n = '-' :: ofNat (m + 1) := h.symm
          exact absurd (written ▸ List.mem_cons_self) (minus_not_mem_ofNat n)
      | negSucc n =>
          have digits : ofNat (m + 1) = ofNat (n + 1) := List.tail_eq_of_cons_eq h
          rw [Nat.succ.inj (ofNat_injective digits)]

/-! ## Where a writing ends -/

theorem isAlpha_of_isDigit {c : Char} (h : c.isDigit = true) : c.isAlpha = false := by
  delta Char.isDigit at h
  delta Char.isAlpha Char.isUpper Char.isLower
  simp [UInt32.le_iff_toNat_le] at h ⊢
  omega

theorem isAlpha_of_mem_ofInt {n : Int} {c : Char} (h : c ∈ ofInt n) : c.isAlpha = false := by
  cases n with
  | ofNat n => exact isAlpha_of_isDigit (isDigit_of_mem_ofNat h)
  | negSucc n =>
      rcases List.mem_cons.mp h with rfl | mem
      · rfl
      · exact isAlpha_of_isDigit (isDigit_of_mem_ofNat mem)

theorem takeWhile_ofInt_append (n : Int) {c : Char} (letter : c.isAlpha = true) (rest : Text) :
    (ofInt n ++ c :: rest).takeWhile (fun d => !d.isAlpha) = ofInt n := by
  have none : ∀ d ∈ ofInt n, (!d.isAlpha) = true := by
    intro d mem
    rw [isAlpha_of_mem_ofInt mem]
    rfl
  rw [List.takeWhile_append_of_pos none, List.takeWhile_cons_of_neg (by simp [letter]),
    List.append_nil]

/-- An integer ends where a letter follows it. -/
theorem ofInt_append_inj {m n : Int} {c d : Char} {s t : Text} (hc : c.isAlpha = true)
    (hd : d.isAlpha = true) (h : ofInt m ++ c :: s = ofInt n ++ d :: t) :
    m = n ∧ c :: s = d :: t := by
  have written : ofInt m = ofInt n := by
    rw [← takeWhile_ofInt_append m hc s, h, takeWhile_ofInt_append n hd t]
  rw [written] at h
  exact ⟨ofInt_injective written, List.append_cancel_left h⟩

/-! ## Long numbers -/

theorem admits_eq_false {most n : Nat} (h : Nat.pow 10 most ≤ n) :
    (DigitLimit.mk (some most)).admits (ofNat n).length = false := by
  have long : most < (ofNat n).length := by
    cases most with
    | zero => exact Nat.length_toDigits_pos
    | succ k =>
        refine Nat.lt_of_not_le fun short => ?_
        have below : n < Nat.pow 10 (k + 1) :=
          (Nat.length_toDigits_le_iff (by decide) k.succ_pos).mp short
        omega
  simpa [DigitLimit.admits] using long

end Decimal

end BridgedDenom
