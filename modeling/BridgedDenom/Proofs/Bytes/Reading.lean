import BridgedDenom.Proofs.Bytes.Pairs
import BridgedDenom.Proofs.Text.Trim
import BridgedDenom.Value.Conversion

/-!
# Reading hex from any text

The liberal reader strips blanks, drops a mark, completes an odd number of characters by a zero
and reads digit pairs from the rest.

*Digits.*  Whatever it gives has the digits of the text and no others, apart from the zero
(`digits_kept`).  The zero is put in front for an odd number of characters, blanks among them,
and it is there for an odd number of digits.  The two agree where the reading succeeds, since
the rest then has the form `Paired`.

*Writing.*  A writing is read back in any letter case, with either mark and between blanks
(`ofText_between`).

*Blanks between pairs.*  A text of digit pairs is read as the reader of pairs reads it if an even
number of blanks stand between its pairs (`ofText_of_even`).  If their number is odd, the zero
shifts the digits in front of the first blank, and this blank falls into a pair
(`ofText_of_odd`).
-/

namespace BridgedDenom

namespace Hex

section
variable {c : Char} {s body before after : Text} {data : Bytes}

/-! ## Preparing the text -/

theorem isBlank_of_mem_alphabet (h : c ∈ alphabet) : Text.isBlank c = false := by
  have checked : alphabet.all (fun c => !Text.isBlank c) = true := by decide
  simpa using List.all_eq_true.mp checked c h

theorem isGap_of_isBlank (blank : Text.isBlank c = true)
    (h : isDigit c = true ∨ Text.isGap c = true) : Text.isGap c = true := by
  rcases h with digit | gap
  · rw [isBlank_of_mem_alphabet (isDigit_iff_mem_alphabet.mp digit)] at blank
    cases blank
  · exact gap

/-- The letter of a mark is neither a digit nor a blank. -/
theorem unmarked_of_paired (h : Paired s data) : unmarked s = s := by
  have unmarkable : isMarked s = false := by
    refine Bool.eq_false_iff.mpr fun marked => ?_
    obtain ⟨x, rest, rfl, mark⟩ := isMarked_iff.mp marked
    have neither : isDigit x = false ∧ Text.isGap x = false := by
      rcases mark with rfl | rfl
      · exact ⟨rfl, rfl⟩
      · exact ⟨rfl, rfl⟩
    rcases h.isDigit_or_isGap x (by simp) with digit | gap
    · rw [neither.1] at digit
      cases digit
    · rw [neither.2] at gap
      cases gap
  simp [unmarked, unmarkable]

theorem evened_of_even (h : s.length % 2 = 0) : evened s = s := by
  simp [evened, h]

theorem evened_of_odd (h : s.length % 2 = 1) : evened s = '0' :: s := by
  simp [evened, h]

/-! ## The digits that are read -/

theorem ofText_eq_ok_iff : ofText s = .ok data ↔ Paired (evened (unmarked s.strip)) data :=
  pairs_eq_ok_iff

/-- The zero in front of an odd number of characters makes up for an odd number of digits. -/
theorem encode_of_evened (h : Paired (evened body) data) :
    encode data = (if (body.filter isDigit).length % 2 = 1 then
      '0' :: Text.lower (body.filter isDigit) else Text.lower (body.filter isDigit)) := by
  have count : (encode data).length % 2 = 0 := by
    rw [length_encode]
    omega
  have written := h.lower_filter
  rcases Nat.mod_two_eq_zero_or_one body.length with even | odd
  · rw [evened_of_even even] at written
    rw [← written, Text.length_lower] at count
    rw [if_neg (by omega), written]
  · rw [evened_of_odd odd, List.filter_cons_of_pos (by decide)] at written
    rw [← written, Text.length_lower, List.length_cons] at count
    rw [if_pos (by omega), ← written]
    rfl

theorem isDigit_or_isGap_of_evened (h : Paired (evened body) data) :
    ∀ c ∈ body, isDigit c = true ∨ Text.isGap c = true := by
  intro c mem
  refine h.isDigit_or_isGap c ?_
  unfold evened
  split
  · exact List.mem_cons_of_mem _ mem
  · exact mem

/-! ## Reading what was written -/

theorem mem_alphabet_of_lower (h : s.lower = encode data) : ∀ c ∈ s, c ∈ alphabet :=
  fun c mem => isDigit_iff_mem_alphabet.mp (isDigit_of_lower h c mem)

theorem evened_of_lower (h : s.lower = encode data) : evened s = s := by
  refine evened_of_even ?_
  rw [← Text.length_lower, h, length_encode]
  omega

/-- A mark is dropped, whichever letter it has. -/
theorem unmarked_of_mark {x : Char} (mark : x = 'x' ∨ x = 'X') (digits : Text) :
    unmarked ('0' :: x :: digits) = digits := by
  have marked : isMarked ('0' :: x :: digits) = true := isMarked_iff.mpr ⟨x, digits, rfl, mark⟩
  exact if_pos marked

/-- A writing, marked or not, is read back in any letter case and between blanks. -/
theorem ofText_between (blanksBefore : ∀ c ∈ before, Text.isBlank c = true)
    (blanksAfter : ∀ c ∈ after, Text.isBlank c = true)
    (h : s.lower = encode data ∨ s.lower = encodeMarked data) :
    ofText (before ++ s ++ after) = .ok data := by
  rw [ofText_eq_ok_iff]
  rcases h with lowered | lowered
  · have stripped : (before ++ s ++ after).strip = s :=
      Text.trim_between blanksBefore blanksAfter
        fun c mem => isBlank_of_mem_alphabet (mem_alphabet_of_lower lowered c mem)
    have paired := paired_of_lower lowered
    rwa [stripped, unmarked_of_paired paired, evened_of_lower lowered]
  · obtain ⟨x, digits, rfl, mark, lowered⟩ := lower_eq_encodeMarked_iff.mp lowered
    have visible : ∀ c ∈ '0' :: x :: digits, Text.isBlank c = false := by
      have markVisible : Text.isBlank x = false := by rcases mark with rfl | rfl <;> decide
      refine List.forall_mem_cons.mpr ⟨by decide, List.forall_mem_cons.mpr ⟨markVisible, ?_⟩⟩
      exact fun c mem => isBlank_of_mem_alphabet (mem_alphabet_of_lower lowered c mem)
    have stripped : (before ++ '0' :: x :: digits ++ after).strip = '0' :: x :: digits :=
      Text.trim_between blanksBefore blanksAfter visible
    rw [stripped, unmarked_of_mark mark, evened_of_lower lowered]
    exact paired_of_lower lowered

theorem ofText_of_lower (h : s.lower = encode data ∨ s.lower = encodeMarked data) :
    ofText s = .ok data := by
  have read := ofText_between (List.forall_mem_nil _) (List.forall_mem_nil _) h
  rwa [List.append_nil] at read

/-- All blanks at the ends of a text of digit pairs are gaps, so what is left has this form too. -/
theorem Paired.strip (h : Paired s data) : Paired s.strip data := by
  obtain ⟨before, after, parts, blanksBefore, blanksAfter⟩ := Text.exists_trim Text.isBlank s
  have gap : ∀ c ∈ s, Text.isBlank c = true → Text.isGap c = true :=
    fun c mem blank => isGap_of_isBlank blank (h.isDigit_or_isGap c mem)
  have gapsBefore : ∀ c ∈ before, Text.isGap c = true :=
    fun c mem => gap c (by rw [parts]; simp [mem]) (blanksBefore c mem)
  have gapsAfter : ∀ c ∈ after, Text.isGap c = true :=
    fun c mem => gap c (by rw [parts]; simp [mem]) (blanksAfter c mem)
  rw [parts] at h
  exact Paired.of_append_left gapsBefore (Paired.of_append_right gapsAfter h)

theorem ofText_of_even (h : Paired s data) (even : s.strip.countP Text.isGap % 2 = 0) :
    ofText s = .ok data := by
  have length := h.strip.length_eq
  rw [ofText_eq_ok_iff, unmarked_of_paired h.strip, evened_of_even (by omega)]
  exact h.strip

/-- An odd number of digits in front of a blank leaves one of them without a partner.  The
induction takes off a pair at a time. -/
theorem pairsFrom_odd_run (n i : Nat) {digits : Text} (count : digits.length = 2 * n + 1)
    (all : ∀ d ∈ digits, isDigit d = true) (blank : Text.isGap c = true) (rest : Text) :
    pairsFrom i (digits ++ c :: rest) = .error (i + digits.length) := by
  induction n generalizing i digits with
  | zero =>
      match digits, count with
      | [d], _ =>
          obtain ⟨value, first⟩ := Option.isSome_iff_exists.mp (all d (by simp))
          exact pairsFrom_digit_gap i first blank rest
  | succ n ih =>
      match digits, count with
      | d :: e :: digits, count =>
          obtain ⟨high, first⟩ := Option.isSome_iff_exists.mp (all d (by simp))
          obtain ⟨low, second⟩ := Option.isSome_iff_exists.mp (all e (by simp))
          simp only [List.length_cons] at count
          have shorter : digits.length = 2 * n + 1 := by omega
          have failed := ih (i + 2) shorter fun x mem => all x (by simp [mem])
          rw [List.cons_append, List.cons_append, pairsFrom_pair i first second, failed,
            List.length_cons, List.length_cons, Except.map]
          congr 1
          omega

/-- A text of digit pairs with a blank in it is a run of digits, that blank and a rest. -/
theorem Paired.exists_gap (h : Paired s data) (some : s.countP Text.isGap ≠ 0) : ∃ c rest,
    s = s.takeWhile isDigit ++ c :: rest ∧ Text.isGap c = true := by
  have parts := s.takeWhile_append_dropWhile (p := isDigit)
  cases stop : s.dropWhile isDigit with
  | nil =>
      refine absurd (List.countP_eq_zero.mpr fun c mem => ?_) some
      have digit : isDigit c = true := List.dropWhile_eq_nil_iff.mp stop c mem
      intro blank
      rw [isDigit_of_isGap blank] at digit
      cases digit
  | cons c rest =>
      rw [stop] at parts
      have mem : c ∈ s := by
        rw [← parts]
        simp
      have other : isDigit c ≠ true := by
        have head := List.head_dropWhile_not isDigit (l := s) (by simp [stop])
        simpa [stop] using head
      exact ⟨c, rest, parts.symm, (h.isDigit_or_isGap c mem).resolve_left other⟩

theorem ofText_of_odd (h : Paired s data) (odd : s.strip.countP Text.isGap % 2 = 1) :
    ofText s = .error ((s.strip.takeWhile isDigit).length + 1) := by
  have paired := h.strip
  have length := paired.length_eq
  have shifted := paired.even_takeWhile
  obtain ⟨c, rest, parts, blank⟩ := paired.exists_gap (by omega)
  have ascii : ∀ d ∈ '0' :: s.strip, d.toNat < 128 :=
    List.forall_mem_cons.mpr ⟨by decide, paired.lt_of_mem⟩
  have all : ∀ d ∈ '0' :: s.strip.takeWhile isDigit, isDigit d = true :=
    List.forall_mem_cons.mpr ⟨by decide, fun d mem => List.mem_takeWhile_imp mem⟩
  rw [ofText, unmarked_of_paired paired, evened_of_odd (by omega), pairs_of_ascii ascii]
  have run := pairsFrom_odd_run ((s.strip.takeWhile isDigit).length / 2) 0
    (by simp only [List.length_cons]; omega) all blank rest
  rw [List.cons_append, ← parts, List.length_cons, Nat.zero_add] at run
  exact run

end

end Hex

/-! ## Reading values -/

namespace Value

open Hex (alphabet unmarked isDigit Paired)

section
variable {s : Text} {data : Bytes}

theorem bytesOfHex_of_ofText (h : Hex.ofText s = .ok data) :
    (Value.text s).bytesOfHex = .ok data := by
  simp only [bytesOfHex, h]

theorem bytesOfHex_of_ofText_error {position : Nat} (h : Hex.ofText s = .error position) :
    (Value.text s).bytesOfHex = .error (.badHex position) := by
  simp only [bytesOfHex, h]

theorem ofText_of_bytesOfHex (h : (Value.text s).bytesOfHex = .ok data) :
    Hex.ofText s = .ok data := by
  cases read : Hex.ofText s with
  | ok bytes =>
      rw [bytesOfHex_of_ofText read] at h
      cases h
      rfl
  | error position =>
      rw [bytesOfHex_of_ofText_error read] at h
      cases h

end

/-- Reading loses, adds and moves no digit.  The bytes that are read have the digits of the
text, without its mark and the blanks around it, in their order, after a zero if their number is
odd, and all else in it are blanks.  What is written is read back, in any letter case, with
either mark or none and between blanks. -/
theorem digits_kept :
    (∀ s data, (Value.text s).bytesOfHex = .ok data →
      let body := unmarked s.strip
      let digits := Text.lower (body.filter fun c => c ∈ alphabet)
      (Value.bytes .fixed data).hexText false
        = .ok (if digits.length % 2 = 1 then '0' :: digits else digits) ∧
      ∀ c ∈ body, c ∈ alphabet ∨ Text.isGap c = true) ∧
    (∀ (v : Value) data marked, v.byteString? = some data → ∃ written,
      v.hexText marked = .ok written ∧ written.lower = written ∧
      ∀ s before after : Text, s.lower = written → (∀ c ∈ before, Text.isBlank c = true) →
        (∀ c ∈ after, Text.isBlank c = true) →
        (Value.text (before ++ s ++ after)).bytesOfHex = .ok data) := by
  have digit : (fun c => decide (c ∈ alphabet)) = isDigit := by
    funext c
    rw [Bool.eq_iff_iff, decide_eq_true_iff, Hex.isDigit_iff_mem_alphabet]
  refine ⟨fun s data read => ?_, fun v data marked isBytes => ?_⟩
  · have paired := Hex.ofText_eq_ok_iff.mp (ofText_of_bytesOfHex read)
    simp only [digit, Text.length_lower]
    refine ⟨congrArg Except.ok (Hex.encode_of_evened paired), fun c mem => ?_⟩
    exact (Hex.isDigit_or_isGap_of_evened paired c mem).imp_left Hex.isDigit_iff_mem_alphabet.mp
  · refine ⟨if marked then Hex.encodeMarked data else Hex.encode data, ?_, ?_, ?_⟩
    · simp only [hexText, isBytes]
    · cases marked with
      | false => exact Hex.lower_encode data
      | true => exact Hex.lower_encodeMarked data
    · intro s before after written blanksBefore blanksAfter
      refine bytesOfHex_of_ofText (Hex.ofText_between blanksBefore blanksAfter ?_)
      cases marked with
      | false => exact Or.inl written
      | true => exact Or.inr written

/-- An odd number of digits is read with a zero in front, and with the zero it is read again. -/
theorem digits_kept_odd :
    (Value.bytes .fixed [0x0A, 0xBC]).hexText false = .ok "0abc".toList ∧
      (Value.text "\n0ABc ".toList).bytesOfHex = .ok [0x0A, 0xBC] := by
  have read : (Value.text "aBc".toList).bytesOfHex = .ok [0x0A, 0xBC] := rfl
  obtain ⟨written, text, -, again⟩ :=
    digits_kept.2 (.bytes .fixed [0x0A, 0xBC]) [0x0A, 0xBC] false rfl
  have shown := (digits_kept.1 _ _ read).1
  cases shown.symm.trans text
  exact ⟨shown, again "0ABc".toList ['\n'] [' '] rfl (List.forall_mem_singleton.mpr rfl)
    (List.forall_mem_singleton.mpr rfl)⟩

/-- A text of digit pairs is read as the reader of pairs reads it if the number of blanks
between its pairs is even.  If it is odd the text is refused, at the first of these blanks. -/
theorem bytesOfHex_of_paired (s : Text) (data : Bytes) :
    (Hex.pairs s = .ok data ↔ Paired s data) ∧
    (Paired s data → (Value.text s).bytesOfHex =
      if s.strip.countP Text.isGap % 2 = 0 then .ok data
      else .error (.badHex ((s.strip.takeWhile isDigit).length + 1))) := by
  refine ⟨Hex.pairs_eq_ok_iff, fun paired => ?_⟩
  rcases Nat.mod_two_eq_zero_or_one (s.strip.countP Text.isGap) with even | odd
  · rw [if_pos even]
    exact bytesOfHex_of_ofText (Hex.ofText_of_even paired even)
  · rw [if_neg (by omega)]
    exact bytesOfHex_of_ofText_error (Hex.ofText_of_odd paired odd)

/-- Two blanks inside, and blanks at both ends. -/
theorem bytesOfHex_of_paired_three :
    Paired " 12 34 56\n".toList [0x12, 0x34, 0x56] ∧
      (Value.text " 12 34 56\n".toList).bytesOfHex = .ok [0x12, 0x34, 0x56] := by
  have paired : Paired " 12 34 56\n".toList [0x12, 0x34, 0x56] :=
    (bytesOfHex_of_paired _ _).1.mp rfl
  exact ⟨paired, (bytesOfHex_of_paired _ _).2 paired⟩

/-- With one blank between two pairs a text is refused that the reader of pairs accepts. -/
theorem bytesOfHex_two_pairs : Hex.pairs "12 34".toList = .ok [0x12, 0x34] ∧
    (Value.text "12 34".toList).bytesOfHex = .error (.badHex 3) :=
  ⟨rfl, rfl⟩

end Value

end BridgedDenom
