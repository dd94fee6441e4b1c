import BridgedDenom.Proofs.Bytes.Hex

/-!
# Texts of digit pairs

`Paired` is the form that the reader of digit pairs accepts: one pair of digits for each byte,
with blanks before, after and between them.  The reader finds the bytes of exactly these texts
(`pairs_eq_ok_iff`).

All that is said of such a text follows by induction on its form.  Its digits are those of the
bytes (`Paired.lower_filter`) and its other characters are blanks, so its length is even where
the number of its blanks is.  Blanks at its ends may be left out.
-/

namespace BridgedDenom

namespace Hex

/-! ## The form of the text -/

/-- The text has a pair of digits for each byte, with blanks before, after and between the
pairs. -/
inductive Paired : Text → Bytes → Prop where
  | nil : Paired [] []
  | gap {c : Char} {rest : Text} {bytes : Bytes} : Text.isGap c = true → Paired rest bytes →
      Paired (c :: rest) bytes
  | pair {c d : Char} {high low : Nat} {rest : Text} {bytes : Bytes} :
      value? c = some high → value? d = some low → Paired rest bytes →
      Paired (c :: d :: rest) (UInt8.ofNat (16 * high + low) :: bytes)

section
variable {c d : Char} {high low : Nat} {s rest : Text} {data bytes : Bytes}

theorem isDigit_of_value? {n : Nat} (h : value? c = some n) : isDigit c = true := by
  rw [isDigit, h]
  rfl

theorem value?_of_isGap (h : Text.isGap c = true) : value? c = none := by
  cases value : value? c with
  | none => rfl
  | some n =>
      rw [isGap_of_value? value] at h
      cases h

theorem isDigit_of_isGap (h : Text.isGap c = true) : isDigit c = false := by
  rw [isDigit, value?_of_isGap h]
  rfl

theorem lt_of_isGap (h : Text.isGap c = true) : c.toNat < 128 := by
  simp only [Text.isGap, Bool.or_eq_true, Bool.and_eq_true, decide_eq_true_eq, beq_iff_eq] at h
  omega

/-! ## One step of the reader -/

theorem pairsFrom_gap (i : Nat) (h : Text.isGap c = true) (rest : Text) :
    pairsFrom i (c :: rest) = pairsFrom (i + 1) rest := by
  cases rest with
  | nil => simp [pairsFrom, h]
  | cons d rest => simp [pairsFrom, h]

theorem pairsFrom_pair (i : Nat) (first : value? c = some high) (second : value? d = some low)
    (rest : Text) : pairsFrom i (c :: d :: rest)
      = (pairsFrom (i + 2) rest).map (UInt8.ofNat (16 * high + low) :: ·) := by
  simp only [pairsFrom, isGap_of_value? first, first, second]
  cases pairsFrom (i + 2) rest <;> rfl

/-- Inside a pair no blank may stand. -/
theorem pairsFrom_digit_gap (i : Nat) (first : value? c = some high)
    (second : Text.isGap d = true) (rest : Text) :
    pairsFrom i (c :: d :: rest) = .error (i + 1) := by
  simp [pairsFrom, isGap_of_value? first, first, value?_of_isGap second]

/-! ## What the reader accepts -/

theorem Paired.pairsFrom (h : Paired s bytes) (i : Nat) : pairsFrom i s = .ok bytes := by
  induction h generalizing i with
  | nil => rfl
  | gap blank _ ih => rw [pairsFrom_gap i blank, ih]
  | pair first second _ ih =>
      rw [pairsFrom_pair i first second, ih]
      rfl

/-- The cases are those of the reader: it stops at the end, drops a blank, reads a pair, or
fails. -/
theorem paired_of_pairsFrom {i : Nat} (h : pairsFrom i s = .ok bytes) : Paired s bytes := by
  fun_induction Hex.pairsFrom i s generalizing bytes with
  | case1 =>
      cases h
      exact .nil
  | case2 _ _ blank =>
      cases h
      exact .gap blank .nil
  | case5 _ _ _ _ blank ih => exact .gap blank (ih h)
  | case9 _ _ _ _ _ _ first _ second _ read ih =>
      cases h
      exact .pair first second (ih read)
  | _ => cases h

theorem Paired.lt_of_mem (h : Paired s bytes) : ∀ c ∈ s, c.toNat < 128 := by
  induction h with
  | nil => simp
  | gap blank _ ih => exact List.forall_mem_cons.mpr ⟨lt_of_isGap blank, ih⟩
  | pair first second _ ih =>
      exact List.forall_mem_cons.mpr ⟨lt_of_value? first,
        List.forall_mem_cons.mpr ⟨lt_of_value? second, ih⟩⟩

theorem pairs_of_ascii (ascii : ∀ c ∈ s, c.toNat < 128) : pairs s = Hex.pairsFrom 0 s := by
  have none : s.findIdx? (fun c => 128 ≤ c.toNat) = none := by
    rw [List.findIdx?_eq_none_iff]
    intro c mem
    have small := ascii c mem
    rw [decide_eq_false_iff_not]
    omega
  simp only [pairs, none]

/-- The reader of digit pairs finds the bytes of exactly the texts of this form. -/
theorem pairs_eq_ok_iff : pairs s = .ok bytes ↔ Paired s bytes := by
  constructor
  · intro h
    unfold pairs at h
    split at h
    case h_1 => cases h
    case h_2 => exact paired_of_pairsFrom h
  · intro h
    rw [pairs_of_ascii h.lt_of_mem, h.pairsFrom]

theorem paired_of_lower (h : s.lower = encode bytes) : Paired s bytes :=
  pairs_eq_ok_iff.mp (pairs_of_lower h)

/-! ## Digits and blanks -/

theorem Paired.isDigit_or_isGap (h : Paired s bytes) :
    ∀ c ∈ s, isDigit c = true ∨ Text.isGap c = true := by
  induction h with
  | nil => simp
  | gap blank _ ih => exact List.forall_mem_cons.mpr ⟨Or.inr blank, ih⟩
  | pair first second _ ih =>
      exact List.forall_mem_cons.mpr ⟨Or.inl (isDigit_of_value? first),
        List.forall_mem_cons.mpr ⟨Or.inl (isDigit_of_value? second), ih⟩⟩

/-- The digits of the text, in order, are those of the bytes. -/
theorem Paired.lower_filter (h : Paired s bytes) :
    Text.lower (s.filter isDigit) = encode bytes := by
  induction h with
  | nil => rfl
  | gap blank _ ih => rw [List.filter_cons_of_neg (by simp [isDigit_of_isGap blank]), ih]
  | pair first second _ ih =>
      rw [List.filter_cons_of_pos (isDigit_of_value? first),
        List.filter_cons_of_pos (isDigit_of_value? second), encode_pair first second, ← ih]
      rfl

theorem Paired.length_eq (h : Paired s bytes) :
    s.length = 2 * bytes.length + s.countP Text.isGap := by
  induction h with
  | nil => rfl
  | gap blank _ ih =>
      rw [List.length_cons, ih, List.countP_cons_of_pos blank]
      omega
  | pair first second _ ih =>
      rw [List.countP_cons_of_neg (by simp [isGap_of_value? first]),
        List.countP_cons_of_neg (by simp [isGap_of_value? second])]
      simp only [List.length_cons]
      omega

/-- In front of the first blank the digits stand in pairs. -/
theorem Paired.even_takeWhile (h : Paired s bytes) : (s.takeWhile isDigit).length % 2 = 0 := by
  induction h with
  | nil => rfl
  | gap blank _ _ =>
      rw [List.takeWhile_cons_of_neg (by simp [isDigit_of_isGap blank])]
      rfl
  | pair first second _ ih =>
      rw [List.takeWhile_cons_of_pos (isDigit_of_value? first),
        List.takeWhile_cons_of_pos (isDigit_of_value? second)]
      simp only [List.length_cons]
      omega

/-! ## Blanks at the ends -/

theorem Paired.tail (blank : Text.isGap c = true) (h : Paired (c :: s) bytes) :
    Paired s bytes := by
  cases h with
  | gap _ rest => exact rest
  | pair first _ _ =>
      rw [isGap_of_value? first] at blank
      cases blank

theorem Paired.of_append_left {before : Text} (gaps : ∀ c ∈ before, Text.isGap c = true)
    (h : Paired (before ++ s) bytes) : Paired s bytes := by
  induction before with
  | nil => exact h
  | cons c before ih =>
      obtain ⟨blank, gaps⟩ := List.forall_mem_cons.mp gaps
      exact ih gaps (Paired.tail blank h)

theorem Paired.eq_nil_of_gaps (h : Paired s bytes) (gaps : ∀ c ∈ s, Text.isGap c = true) :
    bytes = [] := by
  have count : s.countP Text.isGap = s.length := List.countP_eq_length.mpr gaps
  have length := h.length_eq
  exact List.eq_nil_of_length_eq_zero (by omega)

/-- The induction is on the form of the whole text.  A pair cannot reach into the blanks at the
end, since both its characters are digits. -/
theorem Paired.of_append_right {after : Text} (gaps : ∀ c ∈ after, Text.isGap c = true)
    (h : Paired (s ++ after) bytes) : Paired s bytes := by
  have noDigit : ∀ {c n}, value? c = some n → c ∉ after := by
    intro c n value mem
    have blank := gaps c mem
    rw [isGap_of_value? value] at blank
    cases blank
  generalize whole : s ++ after = t at h
  induction h generalizing s with
  | nil =>
      rw [(List.append_eq_nil_iff.mp whole).1]
      exact .nil
  | @gap c rest bytes blank paired ih =>
      cases s with
      | nil =>
          obtain rfl : after = c :: rest := whole
          rw [(Paired.gap blank paired).eq_nil_of_gaps gaps]
          exact .nil
      | cons d s =>
          cases whole
          exact .gap blank (ih rfl)
  | @pair c d _ _ rest bytes first second paired ih =>
      match s, whole with
      | [], whole =>
          obtain rfl : after = c :: d :: rest := whole
          exact absurd List.mem_cons_self (noDigit first)
      | [_], whole =>
          obtain rfl : after = d :: rest := List.tail_eq_of_cons_eq whole
          exact absurd List.mem_cons_self (noDigit second)
      | _ :: _ :: s, whole =>
          cases whole
          exact .pair first second (ih rfl)

end

end Hex

end BridgedDenom
