import BridgedDenom.Proofs.Decimal.Integer
import BridgedDenom.Proofs.Text.Trim

/-!
# Written integers and their values

*Grammar.*  An integer in text is a run of digits of any scripts, with at most one underscore
between two of them (`Continues`), after at most one sign (`Signed`), and blanks may stand around
it.  The readers accept this and nothing else (`readFrom_eq_some_iff`,
`readSigned?_eq_some_iff`).

*Length.*  The value of a run is below the power of ten with as many zeros as it has digits
(`Continues.lt`).  So no text of an integer is shorter than its writing, and none has fewer
digits.  A limit on digits that admits some text of an integer therefore admits its writing
(`readInt?_ofInt_of_readInt?`).

*Shortest texts.*  A run of ASCII digits is determined by its length and its value
(`ofDigitChars_inj`).  So the writing of an integer is the only text of this length, among those
in ASCII (`isShortest_ofInt`).
-/

namespace BridgedDenom

/-! ## Decimal digits -/

namespace Text

variable {c : Char} {d : Nat}

theorem digitValue?_of_isDigit (h : c.isDigit = true) :
    digitValue? c = some (c.toNat - '0'.toNat) := by
  obtain ⟨low, high⟩ := Char.isDigit_iff_toNat.mp h
  have inside : 0x30 ≤ c.toNat ∧ c.toNat < 0x30 + 10 := ⟨low, Nat.lt_succ_of_le high⟩
  rw [digitValue?, zeros, List.findSome?_cons, if_pos inside]
  rfl

/-- In ASCII there is one script with digits. -/
theorem isDigit_of_digitValue? (ascii : c.toNat < 128) (h : digitValue? c = some d) :
    c.isDigit = true := by
  have only : ∀ start ∈ zeros, start = 0x30 ∨ 128 ≤ start := by decide
  obtain ⟨start, mem, found⟩ := List.exists_of_findSome?_eq_some h
  split at found
  case isTrue inside =>
    rcases only start mem with rfl | wide
    · exact Char.isDigit_iff_toNat.mpr ⟨inside.1, Nat.le_of_lt_succ inside.2⟩
    · omega
  case isFalse => cases found

theorem isNumericBlank_of_isDigit (h : c.isDigit = true) : isNumericBlank c = false := by
  obtain ⟨low, high⟩ := Char.isDigit_iff_toNat.mp h
  have low : 48 ≤ c.toNat := low
  have high : c.toNat ≤ 57 := high
  simp only [isNumericBlank, isGap, isWideBlank, Bool.or_eq_false_iff, Bool.and_eq_false_iff,
    decide_eq_false_iff_not, beq_eq_false_iff_ne]
  omega

end Text

namespace Decimal

open Text (digitValue?)

/-! ## Runs of digits -/

/-- The text continues a number of the first value to one of the last: by digits, each of them
with at most one underscore before it. -/
inductive Continues : Nat → Text → Nat → Prop where
  | done {n : Nat} : Continues n [] n
  | digit {n m d : Nat} {c : Char} {s : Text} : digitValue? c = some d →
      Continues (10 * n + d) s m → Continues n (c :: s) m
  | spaced {n m d : Nat} {c : Char} {s : Text} : digitValue? c = some d →
      Continues (10 * n + d) s m → Continues n ('_' :: c :: s) m

section
variable {n m : Nat} {s : Text}

theorem continues_of_readFrom (h : readFrom n s = some m) : Continues n s m := by
  fun_induction readFrom n s with
  | case1 n =>
      cases h
      exact .done
  | case2 n c rest d value ih => exact .spaced value (ih h)
  | case3 n c rest none => cases h
  | case4 n c rest _ d value ih => exact .digit value (ih h)
  | case5 n c rest _ none => cases h

theorem readFrom_of_continues (h : Continues n s m) : readFrom n s = some m := by
  induction h with
  | done => rfl
  | @digit n m d c s value _ ih =>
      rw [readFrom]
      · simp only [value, ih]
      · rintro _ _ rfl
        cases value
  | spaced value _ ih => simp only [readFrom, value, ih]

theorem readFrom_eq_some_iff : readFrom n s = some m ↔ Continues n s m :=
  ⟨continues_of_readFrom, readFrom_of_continues⟩

/-- A digit more makes the value at most ten times as great. -/
theorem Continues.lt (h : Continues n s m) : m < (n + 1) * Nat.pow 10 (digitCount s) := by
  have step : ∀ {n d k : Nat}, d < 10 →
      (10 * n + d + 1) * Nat.pow 10 k ≤ (n + 1) * Nat.pow 10 (k + 1) := by
    intro n d k small
    calc (10 * n + d + 1) * Nat.pow 10 k ≤ ((n + 1) * 10) * Nat.pow 10 k :=
          Nat.mul_le_mul_right _ (by omega)
      _ = (n + 1) * Nat.pow 10 (k + 1) := by
          rw [Nat.mul_assoc, Nat.mul_comm 10]
          rfl
  induction h with
  | @done n =>
      show n < (n + 1) * 1
      omega
  | @digit n m d c s value _ ih =>
      have count : digitCount (c :: s) = digitCount s + 1 := by simp [digitCount, value]
      rw [count]
      exact ih.trans_le (step (Text.digitValue?_lt value))
  | @spaced n m d c s value _ ih =>
      have count : digitCount ('_' :: c :: s) = digitCount s + 1 := by
        simp [digitCount, value, show digitValue? '_' = none from rfl]
      rw [count]
      exact ih.trans_le (step (Text.digitValue?_lt value))

/-- Of ASCII digits the value is that of the digits. -/
theorem continues_of_isDigit (digits : ∀ c ∈ s, c.isDigit = true) :
    Continues n s (Nat.ofDigitChars 10 s n) := by
  induction s generalizing n with
  | nil => exact .done
  | cons c s ih =>
      obtain ⟨first, digits⟩ := List.forall_mem_cons.mp digits
      rw [Nat.ofDigitChars_cons]
      exact .digit (Text.digitValue?_of_isDigit first) (ih digits)

/-- ASCII digits of one length and one value are the same. -/
theorem ofDigitChars_inj {t : Text} {a b : Nat} (digits : ∀ c ∈ s, c.isDigit = true)
    (digits' : ∀ c ∈ t, c.isDigit = true) (length : s.length = t.length)
    (value : Nat.ofDigitChars 10 s a = Nat.ofDigitChars 10 t b) : a = b ∧ s = t := by
  induction s generalizing t a b with
  | nil =>
      cases List.eq_nil_of_length_eq_zero length.symm
      exact ⟨value, rfl⟩
  | cons c s ih =>
      cases t with
      | nil => cases length
      | cons d t =>
          obtain ⟨first, digits⟩ := List.forall_mem_cons.mp digits
          obtain ⟨first', digits'⟩ := List.forall_mem_cons.mp digits'
          rw [Nat.ofDigitChars_cons, Nat.ofDigitChars_cons] at value
          obtain ⟨same, rfl⟩ := ih digits digits' (Nat.succ.inj length) value
          obtain ⟨low, high⟩ := Char.isDigit_iff_toNat.mp first
          obtain ⟨low', high'⟩ := Char.isDigit_iff_toNat.mp first'
          have zero : '0'.toNat = 48 := rfl
          have nine : '9'.toNat = 57 := rfl
          have code : c.toNat = d.toNat := by omega
          exact ⟨by omega, by rw [Char.toNat_inj.mp code]⟩

/-! ## Natural numbers -/

/-- A number is read from a digit and what continues it. -/
theorem readNat?_eq_some_iff : readNat? s = some m ↔
    ∃ c rest d, s = c :: rest ∧ digitValue? c = some d ∧ Continues d rest m := by
  constructor
  · intro h
    cases s with
    | nil => cases h
    | cons c rest =>
        obtain ⟨d, value, read⟩ := Option.bind_eq_some_iff.mp h
        exact ⟨c, rest, d, rfl, value, readFrom_eq_some_iff.mp read⟩
  · rintro ⟨c, rest, d, rfl, value, others⟩
    exact Option.bind_eq_some_iff.mpr ⟨d, value, readFrom_eq_some_iff.mpr others⟩

theorem continues_of_readNat? (h : readNat? s = some m) : Continues 0 s m ∧ 0 < digitCount s := by
  obtain ⟨c, rest, d, rfl, value, others⟩ := readNat?_eq_some_iff.mp h
  have first : 10 * 0 + d = d := by omega
  exact ⟨.digit value (first.symm ▸ others), by simp [digitCount, value]⟩

theorem readNat?_of_continues (first : ∀ c ∈ s.head?, c ≠ '_') (nonempty : s ≠ [])
    (h : Continues 0 s m) : readNat? s = some m := by
  cases h with
  | done => exact absurd rfl nonempty
  | @digit _ _ d c rest value others =>
      have only : 10 * 0 + d = d := by omega
      exact readNat?_eq_some_iff.mpr ⟨c, rest, d, rfl, value, only ▸ others⟩
  | spaced value others => exact absurd rfl (first '_' rfl)

/-- The writing of a number has no more digits than any text of it. -/
theorem length_ofNat_le (h : readNat? s = some m) : (ofNat m).length ≤ digitCount s := by
  obtain ⟨continues, some⟩ := continues_of_readNat? h
  have below : m < Nat.pow 10 (digitCount s) := by simpa using continues.lt
  exact (Nat.length_toDigits_le_iff (by decide) some).mpr below

theorem digitCount_le_length (s : Text) : digitCount s ≤ s.length := List.countP_le_length

theorem digitCount_of_isDigit (digits : ∀ c ∈ s, c.isDigit = true) : digitCount s = s.length := by
  refine List.countP_eq_length.mpr fun c mem => ?_
  rw [Text.digitValue?_of_isDigit (digits c mem)]
  rfl

theorem readNat?_ofNat (n : Nat) : readNat? (ofNat n) = some n := by
  have digits : ∀ c ∈ ofNat n, c.isDigit = true := fun c => isDigit_of_mem_ofNat
  have continues := continues_of_isDigit (n := 0) digits
  rw [ofNat, Nat.ofDigitChars_ten_toDigits] at continues
  refine readNat?_of_continues (fun c first => ?_) (List.ne_nil_of_length_pos ?_) continues
  · rintro rfl
    cases digits '_' (List.mem_of_mem_head? first)
  · exact Nat.length_toDigits_pos

/-- In ASCII the writing is the only text of its length. -/
theorem eq_ofNat_of_length_le (h : readNat? s = some m) (ascii : s.isAscii = true)
    (short : s.length ≤ (ofNat m).length) : s = ofNat m := by
  have long := length_ofNat_le h
  have count := digitCount_le_length s
  have all : digitCount s = s.length := by omega
  have digits : ∀ c ∈ s, c.isDigit = true := by
    intro c mem
    obtain ⟨d, value⟩ := Option.isSome_iff_exists.mp (List.countP_eq_length.mp all c mem)
    exact Text.isDigit_of_digitValue? (by simpa using List.all_eq_true.mp ascii c mem) value
  have value : Nat.ofDigitChars 10 s 0 = m := by
    have read := readFrom_eq_some_iff.mpr (continues_of_readNat? h).1
    rw [readFrom_eq_some_iff.mpr (continues_of_isDigit digits)] at read
    exact Option.some.inj read
  refine (ofDigitChars_inj (a := 0) (b := 0) digits (fun c => isDigit_of_mem_ofNat) (by omega) ?_).2
  rw [value, ofNat, Nat.ofDigitChars_ten_toDigits]

end

/-! ## Integers -/

/-- The text is a number after at most one sign. -/
inductive Signed : Text → Int → Prop where
  | bare {s : Text} {m : Nat} : readNat? s = some m → Signed s m
  | plus {s : Text} {m : Nat} : readNat? s = some m → Signed ('+' :: s) m
  | minus {s : Text} {m : Nat} : readNat? s = some m → Signed ('-' :: s) (-m)

section
variable {n : Int} {s t : Text} {limit : DigitLimit}

theorem exists_of_map {x : Option Nat} {sign : Int → Int}
    (h : (do let m ← x; pure (m : Int) : Option Int).map sign = some n) :
    ∃ m, x = some m ∧ sign m = n := by
  cases x with
  | none => cases h
  | some m => exact ⟨m, rfl, Option.some.inj h⟩

theorem signed_of_readSigned? (h : readSigned? s = some n) : Signed s n := by
  unfold readSigned? at h
  split at h
  all_goals
    obtain ⟨m, read, rfl⟩ := exists_of_map h
  · exact .minus read
  · exact .plus read
  · exact .bare read

theorem readSigned?_of_signed (h : Signed s n) : readSigned? s = some n := by
  cases h with
  | @bare s m read =>
      obtain ⟨c, rest, d, rfl, value, -⟩ := readNat?_eq_some_iff.mp read
      rw [readSigned?]
      · rw [read]
        rfl
      · rintro _ same
        cases same
        cases value
      · rintro _ same
        cases same
        cases value
  | plus read =>
      rw [readSigned?, read]
      rfl
  | minus read =>
      rw [readSigned?, read]
      rfl

theorem readSigned?_eq_some_iff : readSigned? s = some n ↔ Signed s n :=
  ⟨signed_of_readSigned?, readSigned?_of_signed⟩

theorem readInt?_eq_some_iff : readInt? limit s = some n ↔
    limit.admits (digitCount s) = true ∧ Signed (s.trim Text.isNumericBlank) n := by
  rw [readInt?, ← readSigned?_eq_some_iff]
  split
  case isTrue admitted => simp [admitted]
  case isFalse refused => simp [refused]

/-- The writing of a number is that of its absolute value, after a sign if it is negative. -/
theorem ofInt_neg (m : Nat) : ofInt (-m) = if m = 0 then ofNat 0 else '-' :: ofNat m := by
  cases m with
  | zero => rfl
  | succ m => rfl

theorem signed_ofInt (n : Int) : Signed (ofInt n) n := by
  cases n with
  | ofNat n => exact .bare (readNat?_ofNat n)
  | negSucc n => exact .minus (readNat?_ofNat (n + 1))

theorem digitCount_ofInt (n : Int) : digitCount (ofInt n) = (ofNat n.natAbs).length := by
  have digits (m : Nat) : digitCount (ofNat m) = (ofNat m).length :=
    digitCount_of_isDigit fun c => isDigit_of_mem_ofNat
  cases n with
  | ofNat n => exact digits n
  | negSucc n => exact (List.countP_cons_of_neg (by decide)).trans (digits (n + 1))

/-- The writing of an integer has no more digits than any text of it. -/
theorem Signed.length_natAbs_le (h : Signed s n) : (ofNat n.natAbs).length ≤ digitCount s := by
  cases h with
  | bare read => exact length_ofNat_le read
  | plus read =>
      rw [digitCount, List.countP_cons_of_neg (by decide)]
      exact length_ofNat_le read
  | minus read =>
      rw [digitCount, List.countP_cons_of_neg (by decide), Int.natAbs_neg]
      exact length_ofNat_le read

/-- The writing of an integer is no longer than any text of it. -/
theorem Signed.length_ofInt_le (h : Signed s n) : (ofInt n).length ≤ s.length := by
  have count := h.length_natAbs_le.trans (digitCount_le_length s)
  cases h with
  | bare read => exact count
  | plus read => exact count
  | @minus s m read =>
      have rest := (length_ofNat_le read).trans (digitCount_le_length s)
      rw [ofInt_neg, List.length_cons]
      split
      case isTrue zero =>
        subst zero
        omega
      case isFalse => simpa using rest

/-- In ASCII the writing of an integer is the only text of its length. -/
theorem Signed.eq_ofInt (h : Signed s n) (ascii : s.isAscii = true)
    (short : s.length ≤ (ofInt n).length) : s = ofInt n := by
  cases h with
  | bare read => exact eq_ofNat_of_length_le read ascii short
  | @plus s m read =>
      -- A plus sign is one character too many.
      have long := (length_ofNat_le read).trans (digitCount_le_length s)
      have short : s.length + 1 ≤ (ofNat m).length := short
      omega
  | @minus s m read =>
      have long := (length_ofNat_le read).trans (digitCount_le_length s)
      have ascii : Text.isAscii s = true := by
        simpa [Text.isAscii] using ascii
      rw [ofInt_neg] at short ⊢
      split at short
      case isTrue zero =>
        subst zero
        have short : s.length + 1 ≤ (ofNat 0).length := short
        omega
      case isFalse nonzero =>
        have short : s.length + 1 ≤ (ofNat m).length + 1 := short
        rw [if_neg nonzero, ← eq_ofNat_of_length_le read ascii (by omega)]

/-! ## Blanks and limits -/

theorem trim_ofInt (n : Int) : (ofInt n).trim Text.isNumericBlank = ofInt n := by
  refine Text.trim_of_none_blank fun c mem => ?_
  cases n with
  | ofNat n => exact Text.isNumericBlank_of_isDigit (isDigit_of_mem_ofNat mem)
  | negSucc n =>
      rcases List.mem_cons.mp mem with rfl | mem
      · rfl
      · exact Text.isNumericBlank_of_isDigit (isDigit_of_mem_ofNat mem)

/-- An integer is read back from its writing if the limit admits its digits. -/
theorem readInt?_ofInt (admitted : limit.admits (ofNat n.natAbs).length = true) :
    readInt? limit (ofInt n) = some n := by
  rw [readInt?_eq_some_iff, digitCount_ofInt, trim_ofInt]
  exact ⟨admitted, signed_ofInt n⟩

theorem DigitLimit.admits_of_le {limit : DigitLimit} {few many : Nat} (le : few ≤ many)
    (admitted : limit.admits many = true) : limit.admits few = true := by
  obtain ⟨most⟩ := limit
  cases most with
  | none => rfl
  | some most =>
      have fits : many ≤ most := by simpa [DigitLimit.admits] using admitted
      simpa [DigitLimit.admits] using le.trans fits

/-- A limit that admits some text of an integer admits its writing. -/
theorem readInt?_ofInt_of_readInt? (h : readInt? limit s = some n) :
    readInt? limit (ofInt n) = some n := by
  obtain ⟨admitted, signed⟩ := readInt?_eq_some_iff.mp h
  refine readInt?_ofInt (DigitLimit.admits_of_le (signed.length_natAbs_le.trans ?_) admitted)
  obtain ⟨before, after, parts, -, -⟩ := Text.exists_trim Text.isNumericBlank s
  have count := congrArg digitCount parts
  simp only [digitCount, List.countP_append] at count ⊢
  omega

/-! ## Shortest texts -/

/-- The text is the shortest text of an integer.  Of the texts of this length it is the only one in
ASCII. -/
structure IsShortest (s : Text) (n : Int) : Prop where
  reads : readInt? .unbounded s = some n
  isAscii : s.isAscii = true
  length_le : ∀ t, readInt? .unbounded t = some n → s.length ≤ t.length
  unique : ∀ t, readInt? .unbounded t = some n → t.isAscii = true → t.length ≤ s.length → t = s

theorem isAscii_ofInt (n : Int) : (ofInt n).isAscii = true := by
  have digits (m : Nat) : (ofNat m).isAscii = true := by
    refine List.all_eq_true.mpr fun c mem => decide_eq_true ?_
    obtain ⟨-, high⟩ := Char.isDigit_iff_toNat.mp (isDigit_of_mem_ofNat mem)
    exact Nat.lt_of_le_of_lt high (by decide)
  cases n with
  | ofNat n => exact digits n
  | negSucc n => exact Bool.and_eq_true_iff.mpr ⟨rfl, digits (n + 1)⟩

theorem isShortest_ofInt (n : Int) : IsShortest (ofInt n) n where
  reads := readInt?_ofInt rfl
  isAscii := isAscii_ofInt n
  length_le t h := by
    have signed := (readInt?_eq_some_iff.mp h).2
    exact signed.length_ofInt_le.trans (Text.length_trim_le _ t)
  unique t h ascii short := by
    have signed := (readInt?_eq_some_iff.mp h).2
    have trimmed : t.trim Text.isNumericBlank = t :=
      Text.trim_eq_of_length_le (short.trans signed.length_ofInt_le)
    rw [trimmed] at signed
    exact signed.eq_ofInt ascii short

end

end Decimal

end BridgedDenom
