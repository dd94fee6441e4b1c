import BridgedDenom.Bytes.Hex

/-!
# Reading hex in either letter case

A byte string has one writing in lower case.  Its readings are exactly the texts
that become this writing when their letters are lowered: a digit has a value if and
only if its lower case is the written digit of that value (`value?_eq_some_iff`), so
a text whose lower case is a writing reads as the bytes that were written
(`pairs_of_lower`).  Conversely an even number of hex digits in any letter case has
such a lower case (`exists_lower_eq_encode`).

The facts on single characters are checked on the 128 characters of ASCII.  Beyond
ASCII no character has a value, and lowering changes nothing.
-/

namespace BridgedDenom

/-! ## Letter case -/

namespace Text

theorem exists_code {c : Char} (ascii : c.toNat < 128) : ∃ k : Fin 128, c = Char.ofNat k :=
  ⟨⟨c.toNat, ascii⟩, by simp⟩

/-- Only ASCII letters have another lower case or another upper case. -/
theorem toLower_toUpper_of_le {c : Char} (beyond : 128 ≤ c.toNat) :
    c.toLower = c ∧ c.toUpper = c := by
  have above : ∀ bound : UInt32, bound.toNat < 128 → ¬ c.val ≤ bound := by
    intro bound small le
    have : c.val.toNat ≤ bound.toNat := UInt32.le_iff_toNat_le.mp le
    have : c.toNat = c.val.toNat := rfl
    omega
  delta Char.toLower Char.toUpper
  simp [above 90 (by decide), above 122 (by decide)]

/-- Whatever lowers to an ASCII character is one. -/
theorem lt_of_toLower {c : Char} (ascii : c.toLower.toNat < 128) : c.toNat < 128 := by
  refine Nat.lt_of_not_le fun beyond => ?_
  rw [(toLower_toUpper_of_le beyond).1] at ascii
  omega

/-- Raising a letter first does not change its lower case. -/
@[simp] theorem toLower_toUpper (c : Char) : c.toUpper.toLower = c.toLower := by
  by_cases ascii : c.toNat < 128
  · obtain ⟨k, rfl⟩ := exists_code ascii
    have checked : ∀ k : Fin 128, (Char.ofNat k).toUpper.toLower = (Char.ofNat k).toLower := by
      decide
    exact checked k
  · rw [(toLower_toUpper_of_le (Nat.le_of_not_lt ascii)).2]

end Text

namespace Hex

/-! ## Single digits -/

/-- The hex digits in both letter cases. -/
def alphabet : Text := "0123456789abcdefABCDEF".toList

/-- Only ASCII characters have a value. -/
theorem lt_of_value? {c : Char} {n : Nat} (h : value? c = some n) : c.toNat < 128 := by
  have lt_of_le : ∀ {d : Char}, c ≤ d → d.toNat < 128 → c.toNat < 128 :=
    fun le small => Nat.lt_of_le_of_lt le small
  unfold value? at h
  split at h
  next digit => exact lt_of_le digit.2 (by decide)
  split at h
  next lower => exact lt_of_le lower.2 (by decide)
  split at h
  next upper => exact lt_of_le upper.2 (by decide)
  cases h

/-- A character has a value if and only if its lower case is the digit written for it. -/
theorem value?_eq_some_iff {c : Char} {n : Nat} :
    value? c = some n ↔ n < 16 ∧ c.toLower = digit n := by
  constructor
  · intro h
    obtain ⟨k, rfl⟩ := Text.exists_code (lt_of_value? h)
    have checked : ∀ k : Fin 128, ∀ m ∈ value? (Char.ofNat k),
        m < 16 ∧ (Char.ofNat k).toLower = digit m := by decide
    exact checked k n h
  · rintro ⟨small, lowered⟩
    have ascii : c.toNat < 128 := Text.lt_of_toLower (lowered ▸ digit_lt small)
    obtain ⟨k, rfl⟩ := Text.exists_code ascii
    have checked : ∀ k : Fin 128, ∀ m : Fin 16, (Char.ofNat k).toLower = digit m →
        value? (Char.ofNat k) = some m.val := by decide +kernel
    exact checked k ⟨n, small⟩ lowered

theorem isDigit_iff_mem_alphabet {c : Char} : isDigit c = true ↔ c ∈ alphabet := by
  constructor
  · intro h
    obtain ⟨n, value⟩ := Option.isSome_iff_exists.mp h
    obtain ⟨k, rfl⟩ := Text.exists_code (lt_of_value? value)
    have checked : ∀ k : Fin 128, isDigit (Char.ofNat k) = true → Char.ofNat k ∈ alphabet := by
      decide
    exact checked k h
  · intro mem
    have checked : alphabet.all isDigit = true := by decide
    exact List.all_eq_true.mp checked c mem

/-- No hex digit is a blank. -/
theorem isGap_of_value? {c : Char} {n : Nat} (h : value? c = some n) : Text.isGap c = false := by
  obtain ⟨k, rfl⟩ := Text.exists_code (lt_of_value? h)
  have checked : ∀ k : Fin 128, ∀ m ∈ value? (Char.ofNat k), Text.isGap (Char.ofNat k) = false := by
    decide
  exact checked k n h

theorem toLower_digit {n : Nat} (h : n < 16) : (digit n).toLower = digit n :=
  (value?_eq_some_iff.mp (value?_digit h)).2

/-! ## Marks -/

theorem isMarked_iff {s : Text} : isMarked s = true ↔
    ∃ (x : Char) (rest : Text), s = '0' :: x :: rest ∧ (x = 'x' ∨ x = 'X') := by
  constructor
  · intro h
    unfold isMarked at h
    split at h
    next x rest => exact ⟨x, rest, rfl, by simpa using h⟩
    next => cases h
  · rintro ⟨x, rest, rfl, mark⟩
    simpa [isMarked] using mark

/-- A mark in lower case comes from a mark in either case. -/
theorem mark_of_toLower {c d : Char} (first : c.toLower = '0') (second : d.toLower = 'x') :
    c = '0' ∧ (d = 'x' ∨ d = 'X') := by
  obtain ⟨j, rfl⟩ := Text.exists_code (Text.lt_of_toLower (c := c) (by rw [first]; decide))
  obtain ⟨k, rfl⟩ := Text.exists_code (Text.lt_of_toLower (c := d) (by rw [second]; decide))
  have checkedZero : ∀ k : Fin 128, (Char.ofNat k).toLower = '0' → Char.ofNat k = '0' := by decide
  have checkedMark : ∀ k : Fin 128, (Char.ofNat k).toLower = 'x' →
      Char.ofNat k = 'x' ∨ Char.ofNat k = 'X' := by decide
  exact ⟨checkedZero j first, checkedMark k second⟩

/-! ## Byte strings -/

@[simp] theorem lower_encode (bytes : Bytes) : Text.lower (encode bytes) = encode bytes := by
  simp only [Text.lower, encode, List.map_map, List.map_inj_left]
  exact fun n mem => toLower_digit (lt_of_mem_nibbles mem)

/-- The marked writings in any letter case are the writings in any letter case behind either
mark. -/
theorem lower_eq_encodeMarked_iff {s : Text} {bytes : Bytes} :
    s.lower = encodeMarked bytes ↔ ∃ (x : Char) (digits : Text), s = '0' :: x :: digits ∧
      (x = 'x' ∨ x = 'X') ∧ digits.lower = encode bytes := by
  constructor
  · intro h
    obtain ⟨c, _, rfl, first, h⟩ := List.map_eq_cons_iff.mp h
    obtain ⟨x, digits, rfl, second, lowered⟩ := List.map_eq_cons_iff.mp h
    obtain ⟨rfl, mark⟩ := mark_of_toLower first second
    exact ⟨x, digits, rfl, mark, lowered⟩
  · rintro ⟨x, digits, rfl, mark, lowered⟩
    have marked : Text.lower ('0' :: x :: digits) = '0' :: 'x' :: digits.lower := by
      rcases mark with rfl | rfl <;> rfl
    rw [marked, lowered, encodeMarked]

theorem lower_encodeMarked (bytes : Bytes) : (encodeMarked bytes).lower = encodeMarked bytes :=
  lower_eq_encodeMarked_iff.mpr ⟨'x', encode bytes, rfl, Or.inl rfl, lower_encode bytes⟩

theorem encode_injective {xs ys : Bytes} (h : encode xs = encode ys) : xs = ys := by
  have read : pairsFrom 0 (encode xs) = pairsFrom 0 (encode ys) := by rw [h]
  simpa [pairsFrom_encode] using read

/-- Whatever lowers to a writing is made of hex digits. -/
theorem isDigit_of_lower {s : Text} {bytes : Bytes} (h : s.lower = encode bytes) :
    ∀ c ∈ s, isDigit c = true := by
  intro c mem
  have written : c.toLower ∈ encode bytes := h ▸ List.mem_map_of_mem mem
  obtain ⟨n, memN, lowered⟩ := List.mem_map.mp written
  have value : value? c = some n :=
    value?_eq_some_iff.mpr ⟨lt_of_mem_nibbles memN, lowered.symm⟩
  simp [isDigit, value]

/-- Whatever lowers to a writing reads as the bytes written.  The induction is on the
bytes, each of which accounts for two digits. -/
theorem pairsFrom_of_lower (i : Nat) {s : Text} {bytes : Bytes} (h : s.lower = encode bytes) :
    pairsFrom i s = .ok bytes := by
  induction bytes generalizing i s with
  | nil =>
      obtain rfl : s = [] := by simpa [Text.lower] using h
      rfl
  | cons byte bytes ih =>
      rw [encode_cons] at h
      obtain ⟨c, _, rfl, first, h⟩ := List.map_eq_cons_iff.mp h
      obtain ⟨d, rest, rfl, second, h⟩ := List.map_eq_cons_iff.mp h
      have bound : byte.toNat < 256 := byte.toNat_lt
      have high : value? c = some (byte.toNat / 16) :=
        value?_eq_some_iff.mpr ⟨by omega, first⟩
      have low : value? d = some (byte.toNat % 16) :=
        value?_eq_some_iff.mpr ⟨by omega, second⟩
      have whole : 16 * (byte.toNat / 16) + byte.toNat % 16 = byte.toNat := by omega
      simp [pairsFrom, isGap_of_value? high, high, low, ih (i + 2) h, whole]

theorem pairs_of_lower {s : Text} {bytes : Bytes} (h : s.lower = encode bytes) :
    pairs s = .ok bytes := by
  have ascii : s.findIdx? (fun c => 128 ≤ c.toNat) = none := by
    rw [List.findIdx?_eq_none_iff]
    intro c mem
    obtain ⟨n, value⟩ := Option.isSome_iff_exists.mp (isDigit_of_lower h c mem)
    have small := lt_of_value? value
    rw [decide_eq_false_iff_not]
    omega
  simp [pairs, ascii, pairsFrom_of_lower 0 h]

/-- The byte of two digits is written in their lower case. -/
theorem encode_pair {c d : Char} {high low : Nat} (first : value? c = some high)
    (second : value? d = some low) (bytes : Bytes) :
    encode (UInt8.ofNat (16 * high + low) :: bytes) = c.toLower :: d.toLower :: encode bytes := by
  obtain ⟨smallHigh, lowerHigh⟩ := value?_eq_some_iff.mp first
  obtain ⟨smallLow, lowerLow⟩ := value?_eq_some_iff.mp second
  have toNat : (UInt8.ofNat (16 * high + low)).toNat = 16 * high + low := by
    rw [UInt8.toNat_ofNat']
    omega
  have upperHalf : (16 * high + low) / 16 = high := by omega
  have lowerHalf : (16 * high + low) % 16 = low := by omega
  rw [encode_cons, toNat, upperHalf, lowerHalf, lowerHigh, lowerLow]

/-- An even number of hex digits lowers to the writing of half as many bytes. -/
theorem exists_lower_eq_encode (n : Nat) {s : Text} (length : s.length = 2 * n)
    (digits : ∀ c ∈ s, isDigit c = true) :
    ∃ bytes : Bytes, bytes.length = n ∧ s.lower = encode bytes := by
  induction n generalizing s with
  | zero =>
      obtain rfl : s = [] := List.eq_nil_of_length_eq_zero length
      exact ⟨[], rfl, rfl⟩
  | succ n ih =>
      match s, length with
      | c :: d :: rest, length =>
          obtain ⟨high, first⟩ := Option.isSome_iff_exists.mp (digits c (by simp))
          obtain ⟨low, second⟩ := Option.isSome_iff_exists.mp (digits d (by simp))
          have shorter : rest.length = 2 * n := by
            simp only [List.length_cons] at length
            omega
          obtain ⟨bytes, count, lowered⟩ := ih shorter fun e mem => digits e (by simp [mem])
          refine ⟨UInt8.ofNat (16 * high + low) :: bytes, by simp [count], ?_⟩
          rw [encode_pair first second, ← lowered]
          rfl

end Hex

end BridgedDenom
