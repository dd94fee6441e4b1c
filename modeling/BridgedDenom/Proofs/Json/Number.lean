import BridgedDenom.Proofs.Decimal.Reading
import BridgedDenom.Proofs.Decimal.Shortest
import BridgedDenom.Proofs.Json.Layout

/-!
# Numbers of documents

A number in a document is read back wherever it ends (`word_int`, `word_float`).

*Parts.*  A number has digits before the point, a fraction and an exponent, and the last two may
be missing.  The reader takes one part after the other, and each of them ends where the next one
starts (`readWhole?_append`, `readFraction_append`, `readExponent_append`).

*Values.*  What the parts say together is the value of the digits before and behind the point,
with an exponent from which the places behind the point are taken.  `Denotes` says so of a text,
and such a text is read as the number nearest to its value (`Denotes.reads`).

*Layouts.*  A binary number is laid out with its point among the digits, before or behind them,
or with an exponent.  All of these denote the digits and the exponent they were made of, but for
zeros at the end that the exponent takes back (`denotes_digits`).  The digits are the shortest
ones, so the number is read back.
-/

namespace BridgedDenom

namespace Json

open Text (Flaw)
open Binary64 (readDigits digitsValue)

/-! ## Digits -/

/-- The text is made of digits. -/
def IsDigits (s : Text) : Prop := ∀ c ∈ s, c.isDigit = true

/-- The number that digits stand for. -/
def numberOf (s : Text) : Nat := Nat.ofDigitChars 10 s 0

/-- No digit stands here. -/
def EndsDigits (s : Text) : Prop := ∀ c ∈ s.head?, c.isDigit = false

section
variable {s t rest : Text} {c : Char} {n : Nat}

theorem IsDigits.append (hs : IsDigits s) (ht : IsDigits t) : IsDigits (s ++ t) := by
  intro c mem
  rcases List.mem_append.mp mem with mem | mem
  · exact hs c mem
  · exact ht c mem

theorem isDigits_zeros (count : Nat) : IsDigits (List.replicate count '0') := by
  intro c mem
  rw [List.eq_of_mem_replicate mem]
  rfl

theorem isDigits_ofNat (n : Nat) : IsDigits (Decimal.ofNat n) :=
  fun _ => Decimal.isDigit_of_mem_ofNat

theorem numberOf_ofNat (n : Nat) : numberOf (Decimal.ofNat n) = n := Nat.ofDigitChars_ten_toDigits

theorem numberOf_append_zeros (s : Text) (count : Nat) :
    numberOf (s ++ List.replicate count '0') = numberOf s * Nat.pow 10 count := by
  rw [numberOf, Nat.ofDigitChars_append, Nat.ofDigitChars_replicate_zero, Nat.mul_comm]
  rfl

theorem numberOf_zeros_append (s : Text) (count : Nat) :
    numberOf (List.replicate count '0' ++ s) = numberOf s := by
  rw [numberOf, Nat.ofDigitChars_append, Nat.ofDigitChars_replicate_zero, Nat.mul_zero]
  rfl

theorem digitsValue_map (s : Text) : digitsValue (s.map fun c => c.toNat - 48) = numberOf s := by
  rw [digitsValue, List.foldl_map, numberOf, Nat.ofDigitChars_eq_foldl]
  rfl

theorem readDigits_append (digits : IsDigits s) (ends : EndsDigits rest) :
    readDigits (s ++ rest) = (s.map fun c => c.toNat - 48, rest) := by
  have stops : rest.takeWhile Char.isDigit = [] ∧ rest.dropWhile Char.isDigit = rest := by
    cases rest with
    | nil => exact ⟨rfl, rfl⟩
    | cons c rest =>
        have stop : c.isDigit = false := ends c rfl
        simp [stop]
  rw [readDigits, List.takeWhile_append_of_pos digits, List.dropWhile_append_of_pos digits, stops.1,
    stops.2, List.append_nil]

end

/-! ## Parts of a number -/

/-- The digits before the point: a single zero, or digits that start with none. -/
def IsWhole (s : Text) : Prop :=
  s = ['0'] ∨ ∃ c rest, s = c :: rest ∧ c ≠ '0' ∧ IsDigits (c :: rest)

/-- A fraction, if there are digits for one. -/
def fractionText (s : Text) : Text := if s.isEmpty then [] else '.' :: s

/-- An exponent of at least two digits, if there is one. -/
def exponentText : Option Int → Text
  | none => []
  | some e =>
      'e' :: (if e < 0 then '-' else '+') :: Text.padLeft '0' 2 (Decimal.ofNat e.natAbs)

/-- Neither a digit stands here nor anything else that continues a number. -/
def EndsNumber (s : Text) : Prop :=
  ∀ c ∈ s.head?, c.isDigit = false ∧ c ≠ '.' ∧ c ≠ 'e' ∧ c ≠ 'E'

section
variable {s whole fraction rest : Text} {e : Option Int} {c : Char}

theorem endsNumber_of_endsWord (ends : EndsWord rest) : EndsNumber rest := by
  intro c first
  rcases ends c first with blank | mark
  · simp only [isSpace, Bool.or_eq_true, beq_iff_eq] at blank
    rcases blank with ((rfl | rfl) | rfl) | rfl <;> decide
  · simp only [List.mem_cons, List.not_mem_nil, or_false] at mark
    rcases mark with rfl | rfl | rfl <;> decide

theorem EndsNumber.endsDigits (ends : EndsNumber rest) : EndsDigits rest :=
  fun c first => (ends c first).1

theorem endsDigits_exponentText (e : Option Int) (ends : EndsNumber rest) :
    EndsDigits (exponentText e ++ rest) := by
  cases e with
  | none => exact ends.endsDigits
  | some e =>
      intro c first
      cases first
      rfl

theorem readWhole?_append (isWhole : IsWhole whole) (ends : EndsDigits rest) :
    readWhole? (whole ++ rest) = some (whole.map fun c => c.toNat - 48, rest) := by
  rcases isWhole with rfl | ⟨c, tail, rfl, other, digits⟩
  · rfl
  · have first : c.isDigit = true := digits c List.mem_cons_self
    have read := readDigits_append digits ends
    rw [List.cons_append] at read ⊢
    simp only [readWhole?, other, if_false, first, if_true, read]

theorem readFraction_append (digits : IsDigits fraction) (ends : EndsDigits rest)
    (noPoint : ∀ c ∈ rest.head?, c ≠ '.') :
    readFraction (fractionText fraction ++ rest) = (fraction.map fun c => c.toNat - 48, rest) := by
  cases fraction with
  | nil =>
      show readFraction rest = ([], rest)
      unfold readFraction
      split
      · exact absurd rfl (noPoint '.' rfl)
      · rfl
  | cons c fraction =>
      show readFraction ('.' :: (c :: fraction ++ rest)) = _
      simp only [readFraction, readDigits_append digits ends]
      rfl

/-- An exponent is read with its sign. -/
theorem readExponent_sign (negative : Bool) (some : s ≠ []) (digits : IsDigits s)
    (ends : EndsDigits rest) :
    readExponent ('e' :: (if negative then '-' else '+') :: (s ++ rest))
      = (.some (if negative then -(numberOf s : Int) else numberOf s), rest) := by
  have read := readDigits_append digits ends
  have value := digitsValue_map s
  obtain ⟨c, tail, rfl⟩ := List.exists_cons_of_ne_nil some
  rw [List.map_cons] at read value
  cases negative with
  | true =>
      simp only [if_true, readExponent, read, value]
      rfl
  | false =>
      simp only [Bool.false_eq_true, if_false, readExponent, read, value]
      rfl

theorem readExponent_append (e : Option Int) (ends : EndsNumber rest) :
    readExponent (exponentText e ++ rest) = (e, rest) := by
  cases e with
  | none =>
      show readExponent rest = (none, rest)
      cases rest with
      | nil => rfl
      | cons c rest =>
          obtain ⟨-, -, notLower, notUpper⟩ := ends c rfl
          simp [readExponent, notLower, notUpper]
  | some e =>
      have digits : IsDigits (Text.padLeft '0' 2 (Decimal.ofNat e.natAbs)) :=
        (isDigits_zeros _).append (isDigits_ofNat e.natAbs)
      have number : numberOf (Text.padLeft '0' 2 (Decimal.ofNat e.natAbs)) = e.natAbs :=
        (numberOf_zeros_append _ _).trans (numberOf_ofNat e.natAbs)
      have some : Text.padLeft '0' 2 (Decimal.ofNat e.natAbs) ≠ [] :=
        List.append_ne_nil_of_right_ne_nil _ (List.ne_nil_of_length_pos Nat.length_toDigits_pos)
      have read := readExponent_sign (decide (e < 0)) some digits ends.endsDigits
      have sign : (if e < 0 then -(e.natAbs : Int) else e.natAbs) = e := by omega
      simp only [decide_eq_true_eq, number, sign] at read
      exact read

end

/-! ## Numbers without a sign -/

section
variable {s whole fraction rest : Text} {e : Option Int} {c : Char} {n : Nat} {negative : Bool}

theorem endsDigits_fractionText (fraction : Text) (ends : EndsDigits rest) :
    EndsDigits (fractionText fraction ++ rest) := by
  cases fraction with
  | nil => exact ends
  | cons d fraction =>
      intro c first
      cases first
      rfl

theorem exponentText_no_point (ends : EndsNumber rest) :
    ∀ c ∈ (exponentText e ++ rest).head?, c ≠ '.' := by
  cases e with
  | none => exact fun c first => (ends c first).2.1
  | some e =>
      rintro c first rfl
      cases first

/-- Without fraction and exponent a number is read exactly. -/
theorem readUnsigned_whole (isWhole : IsWhole whole) (few : whole.length ≤ 4300)
    (ends : EndsNumber rest) : readUnsigned negative (whole ++ rest)
      = .ok (.int (if negative then -(numberOf whole : Int) else numberOf whole), rest) := by
  have read := readWhole?_append isWhole ends.endsDigits
  have noDigits : IsDigits [] := nofun
  have noFraction := readFraction_append noDigits ends.endsDigits fun c first => (ends c first).2.1
  have noExponent := readExponent_append none ends
  change readFraction rest = ([], rest) at noFraction
  change readExponent rest = (none, rest) at noExponent
  have admitted : DigitLimit.usual.admits (whole.map fun c => c.toNat - 48).length = true := by
    rw [List.length_map]
    exact decide_eq_true few
  have value := digitsValue_map whole
  simp only [readUnsigned, read, Flaw.require, noFraction, noExponent, admitted, value, bind,
    Except.bind, List.isEmpty_nil, Option.isNone_none, Bool.and_self, if_true]
  rfl

/-- A fraction or an exponent makes a number a binary one. -/
theorem readUnsigned_number (isWhole : IsWhole whole) (digits : IsDigits fraction)
    (more : fraction ≠ [] ∨ e ≠ none) (ends : EndsNumber rest) :
    readUnsigned negative (whole ++ (fractionText fraction ++ (exponentText e ++ rest)))
      = .ok (.float (.ofDecimal negative (numberOf (whole ++ fraction))
          (e.getD 0 - fraction.length)), rest) := by
  have afterFraction := endsDigits_exponentText e ends
  have first := readWhole?_append isWhole (endsDigits_fractionText fraction afterFraction)
  have second := readFraction_append digits afterFraction (exponentText_no_point ends)
  have third := readExponent_append e ends
  have value := digitsValue_map (whole ++ fraction)
  have notWhole : ((fraction.map fun c => c.toNat - 48).isEmpty && e.isNone) = false := by
    rcases more with more | more
    · cases fraction with
      | nil => exact absurd rfl more
      | cons => rfl
    · cases e with
      | none => exact absurd rfl more
      | some => exact Bool.and_false _
  rw [List.map_append] at value
  simp only [readUnsigned, first, Flaw.require, second, third, notWhole, value, bind, Except.bind,
    Bool.false_eq_true, if_false, List.length_map]
  rfl

end

/-! ## Values and layouts -/

/-- The text is a number with a fraction or an exponent, of value `d * 10 ^ k`.  Its digits may
have zeros at their end, which count in the exponent. -/
inductive Denotes (d : Nat) (k : Int) : Text → Prop where
  | number {whole fraction : Text} {e : Option Int} (zeros : Nat) : IsWhole whole →
      IsDigits fraction → fraction ≠ [] ∨ e ≠ none →
      numberOf (whole ++ fraction) = d * Nat.pow 10 zeros →
      e.getD 0 - fraction.length = k - zeros →
      Denotes d k (whole ++ (fractionText fraction ++ exponentText e))

section
variable {s ds rest : Text} {d n : Nat} {k point : Int} {c : Char} {negative : Bool}

theorem Denotes.reads (h : Denotes d k s) (negative : Bool) :
    ∃ zeros : Nat, ∀ rest, EndsNumber rest → readUnsigned negative (s ++ rest)
      = .ok (.float (.ofDecimal negative (d * Nat.pow 10 zeros) (k - zeros)), rest) := by
  cases h with
  | number zeros isWhole digits more value exponent =>
      refine ⟨zeros, fun rest ends => ?_⟩
      rw [← value, ← exponent, List.append_assoc, List.append_assoc]
      exact readUnsigned_number isWhole digits more ends

theorem numberOf_lt (digits : IsDigits s) : numberOf s < Nat.pow 10 s.length := by
  have below := (Decimal.continues_of_isDigit (n := 0) digits).lt
  rwa [Decimal.digitCount_of_isDigit digits, Nat.zero_add, Nat.one_mul] at below

/-- A written number does not start with a zero, unless it is zero. -/
theorem exists_ofNat (nonzero : n ≠ 0) : ∃ c rest, Decimal.ofNat n = c :: rest ∧ c ≠ '0' := by
  obtain ⟨c, rest, written⟩ := List.exists_cons_of_length_pos
    (show 0 < (Decimal.ofNat n).length from Nat.length_toDigits_pos)
  refine ⟨c, rest, written, ?_⟩
  rintro rfl
  -- Without the zero the number would have fewer digits.
  have digits : IsDigits rest := fun c mem =>
    isDigits_ofNat n c (written ▸ List.mem_cons_of_mem _ mem)
  have value : numberOf rest = n := by
    rw [← numberOf_zeros_append rest 1, ← numberOf_ofNat n, written]
    rfl
  have below : n < Nat.pow 10 rest.length := value ▸ numberOf_lt digits
  cases rest with
  | nil => exact nonzero (Nat.lt_one_iff.mp below)
  | cons d rest =>
      have short := (Nat.length_toDigits_le_iff (by decide) (Nat.succ_pos _)).mpr below
      have long := congrArg List.length written
      simp only [Decimal.ofNat, List.length_cons] at short long
      omega

theorem isWhole_ofNat (n : Nat) : IsWhole (Decimal.ofNat n) := by
  by_cases zero : n = 0
  · exact .inl (zero ▸ rfl)
  · obtain ⟨c, rest, written, other⟩ := exists_ofNat zero
    exact .inr ⟨c, rest, written, other, written ▸ isDigits_ofNat n⟩

theorem isWhole_of_isDigits (digits : IsDigits (c :: ds)) (other : c ≠ '0') : IsWhole (c :: ds) :=
  .inr ⟨c, ds, rfl, other, digits⟩

/-- Digits behind the point, with zeros between. -/
theorem denotes_behind_point (digits : IsDigits ds) (some : ds ≠ []) (count : Nat) :
    Denotes (numberOf ds) (-(count + ds.length : Nat))
      ("0.".toList ++ List.replicate count '0' ++ ds) := by
  have number : Denotes (numberOf ds) (-(count + ds.length : Nat))
      (['0'] ++ (fractionText (List.replicate count '0' ++ ds) ++ exponentText none)) := by
    refine .number 0 (.inl rfl) ((isDigits_zeros count).append digits)
      (.inl (List.append_ne_nil_of_right_ne_nil _ some)) ?_ ?_
    · rw [← List.append_assoc]
      exact (numberOf_zeros_append ds (count + 1)).trans (Nat.mul_one _).symm
    · simp only [Option.getD_none, List.length_append, List.length_replicate]
      omega
  have text : fractionText (List.replicate count '0' ++ ds)
      = '.' :: (List.replicate count '0' ++ ds) := by
    rw [fractionText, if_neg (by simp [some])]
  rw [text, exponentText, List.append_nil] at number
  rw [List.append_assoc]
  exact number

/-- Digits before the point, with zeros between and one zero behind it. -/
theorem denotes_before_point (digits : IsDigits (c :: ds)) (other : c ≠ '0') (count : Nat) :
    Denotes (numberOf (c :: ds)) count
      (c :: ds ++ List.replicate count '0' ++ ".0".toList) := by
  have whole : IsWhole (c :: ds ++ List.replicate count '0') :=
    isWhole_of_isDigits (digits.append (isDigits_zeros count)) other
  have number : Denotes (numberOf (c :: ds)) count
      (c :: ds ++ List.replicate count '0' ++ (fractionText ['0'] ++ exponentText none)) := by
    refine .number (count + 1) whole (isDigits_zeros 1) (.inl (List.cons_ne_nil _ _)) ?_ ?_
    · have zeros : List.replicate count '0' ++ ['0'] = List.replicate (count + 1) '0' :=
        List.replicate_succ'.symm
      rw [List.append_assoc, zeros]
      exact numberOf_append_zeros (c :: ds) (count + 1)
    · simp only [Option.getD_none, List.length_singleton]
      omega
  exact number

/-- Digits with the point among them. -/
theorem denotes_around_point {before after : Text} (digits : IsDigits (c :: before ++ after))
    (other : c ≠ '0') (some : after ≠ []) :
    Denotes (numberOf (c :: before ++ after)) (-(after.length : Int))
      (c :: before ++ '.' :: after) := by
  have text : fractionText after = '.' :: after := by
    rw [fractionText, if_neg (by simp [some])]
  have number : Denotes (numberOf (c :: before ++ after)) (-(after.length : Int))
      (c :: before ++ (fractionText after ++ exponentText none)) := by
    refine .number 0 (isWhole_of_isDigits (fun d mem => ?_) other) (fun d mem => ?_) (.inl some)
      (Nat.mul_one _).symm ?_
    · exact digits d (List.mem_append_left _ mem)
    · exact digits d (List.mem_append_right _ mem)
    · simp only [Option.getD_none]
      omega
  rwa [text, exponentText, List.append_nil] at number

/-- Digits with the point behind the first one, and an exponent. -/
theorem denotes_with_exponent (digits : IsDigits (c :: ds)) (other : c ≠ '0') (e : Int) :
    Denotes (numberOf (c :: ds)) (e - ds.length) ([c] ++ (fractionText ds ++ exponentText (some e)))
    := by
  obtain ⟨first, rest⟩ := List.forall_mem_cons.mp digits
  refine .number 0 (isWhole_of_isDigits (List.forall_mem_singleton.mpr first) other) rest
    (.inr nofun) (Nat.mul_one _).symm ?_
  simp only [Option.getD_some]
  omega

/-- Digits are laid out as a number of their own value, whatever place the point has.  The cases
are those of the layout. -/
theorem denotes_digits (digits : IsDigits (c :: ds)) (other : c ≠ '0') (k : Int) :
    Denotes (numberOf (c :: ds)) k (Binary64.inJson.digits (c :: ds) ((c :: ds).length + k)) := by
  obtain ⟨point, rfl⟩ : ∃ point : Int, k = point - (c :: ds).length :=
    ⟨(c :: ds).length + k, by omega⟩
  rw [show ((c :: ds).length : Int) + (point - (c :: ds).length) = point by omega]
  unfold Binary64.Layout.digits
  split
  · split
    · next before =>
        have number := denotes_behind_point digits (List.cons_ne_nil c ds) (-point).toNat
        rwa [show (-((-point).toNat + (c :: ds).length : Nat) : Int) = point - (c :: ds).length by
          omega] at number
    · split
      · next behind =>
          have number := denotes_before_point digits other (point.toNat - (c :: ds).length)
          rwa [show ((point.toNat - (c :: ds).length : Nat) : Int) = point - (c :: ds).length by
            omega] at number
      · next after inside =>
          obtain ⟨j, place⟩ : ∃ j : Nat, point = j + 1 := ⟨(point - 1).toNat, by omega⟩
          subst place
          have whole : c :: ds.take j ++ ds.drop j = c :: ds :=
            congrArg (c :: ·) (List.take_append_drop j ds)
          have some : ds.drop j ≠ [] := by
            simp only [List.length_cons] at inside
            exact List.drop_eq_nil_iff.not.mpr (by omega)
          have number := denotes_around_point (whole.symm ▸ digits) other some
          rw [whole, List.length_drop] at number
          rw [show ((j : Int) + 1).toNat = j + 1 by omega, List.take_succ_cons, List.drop_succ_cons,
            show (j : Int) + 1 - (c :: ds).length = -(ds.length - j : Nat) by
              simp only [List.length_cons] at inside ⊢; omega]
          exact number
  · have sign : (if point - 1 < 0 then "e-".toList else "e+".toList)
        = ['e', if point - 1 < 0 then '-' else '+'] := by
      split <;> rfl
    have number := denotes_with_exponent digits other (point - 1)
    rw [show point - 1 - ds.length = point - (c :: ds).length by
      simp only [List.length_cons]; omega] at number
    simp only [sign, List.append_assoc]
    -- A point stands behind the first digit only if another one follows.
    cases ds with
    | nil => exact number
    | cons d rest => exact number

end

/-! ## Words -/

section
variable {s rest : Text} {c : Char} {n : Nat} {negative : Bool} {document : Json}

theorem ne_of_isDigit {d : Char} (other : d.isDigit = false) (digit : c.isDigit = true) : d ≠ c := by
  rintro rfl
  cases other.symm.trans digit

theorem readWord?_eq_none (other : ∀ entry ∈ words, entry.1.isPrefixOf s = false) :
    readWord? s = none := by
  refine List.findSome?_eq_none_iff.mpr fun (word, document) mem => if_neg ?_
  rw [other (word, document) mem]
  exact Bool.false_ne_true

theorem isPrefixOf_cons_eq_false {d : Char} {word : Text} (other : d ≠ c) :
    List.isPrefixOf (d :: word) (c :: rest) = false := by
  simp [List.isPrefixOf, other]

/-- No word starts with a digit. -/
theorem readPlain_digit (digit : c.isDigit = true) :
    readPlain (c :: rest) = readUnsigned false (c :: rest) := by
  have ne (d : Char) (other : d.isDigit = false) : d ≠ c := ne_of_isDigit other digit
  have noWord : readWord? (c :: rest) = none := by
    refine readWord?_eq_none fun entry mem => ?_
    simp only [words, List.mem_cons, List.not_mem_nil, or_false] at mem
    rcases mem with rfl | rfl | rfl | rfl | rfl | rfl <;>
      exact isPrefixOf_cons_eq_false (ne _ rfl)
  unfold readPlain
  simp only [noWord]
  split
  · next same => exact absurd (List.cons.inj same).1.symm (ne '-' rfl)
  · rfl

theorem readPlain_minus (digit : c.isDigit = true) :
    readPlain ('-' :: c :: rest) = readUnsigned true (c :: rest) := by
  have ne (d : Char) (other : d.isDigit = false) : d ≠ c := ne_of_isDigit other digit
  have noWord : readWord? ('-' :: c :: rest) = none := by
    refine readWord?_eq_none fun entry mem => ?_
    simp only [words, List.mem_cons, List.not_mem_nil, or_false] at mem
    rcases mem with rfl | rfl | rfl | rfl | rfl | rfl
    iterate 5 exact isPrefixOf_cons_eq_false (by decide)
    show List.isPrefixOf "Infinity".toList (c :: rest) = false
    exact isPrefixOf_cons_eq_false (ne 'I' rfl)
  unfold readPlain
  simp only [noWord]

/-- A number with a sign or without is a word if the reader of numbers takes it wherever it
ends. -/
theorem word_of_readUnsigned (negative : Bool) (start : ∃ c rest, s = c :: rest ∧ c.isDigit = true)
    (reads : ∀ rest, EndsNumber rest → readUnsigned negative (s ++ rest) = .ok (document, rest)) :
    Word document (if negative then '-' :: s else s) := by
  obtain ⟨c, tail, rfl, digit⟩ := start
  cases negative with
  | true =>
      refine ⟨⟨'-', c :: tail, rfl, by decide, by decide⟩, fun rest ends => ?_⟩
      exact (readPlain_minus digit).trans (reads rest (endsNumber_of_endsWord ends))
  | false =>
      have ne (d : Char) (other : d.isDigit = false) : d ≠ c := ne_of_isDigit other digit
      refine ⟨⟨c, tail, rfl, ?_, ?_⟩, fun rest ends => ?_⟩
      · simp [isSpace, (ne ' ' rfl).symm, (ne '\t' rfl).symm, (ne '\n' rfl).symm, (ne '\r' rfl).symm]
      · have marks : ∀ d ∈ ['"', '[', ']', '\x7b', '\x7d'], d.isDigit = false := by simp
        exact fun mem => ne c (marks c mem) rfl
      · exact (readPlain_digit digit).trans (reads rest (endsNumber_of_endsWord ends))

theorem exists_start_of_isWhole (isWhole : IsWhole s) : ∃ c rest, s = c :: rest ∧ c.isDigit = true := by
  rcases isWhole with rfl | ⟨c, rest, rfl, -, digits⟩
  · exact ⟨'0', [], rfl, rfl⟩
  · exact ⟨c, rest, rfl, digits c List.mem_cons_self⟩

theorem Denotes.exists_start {d : Nat} {k : Int} (h : Denotes d k s) :
    ∃ c rest, s = c :: rest ∧ c.isDigit = true := by
  cases h with
  | number zeros isWhole =>
      obtain ⟨c, rest, rfl, digit⟩ := exists_start_of_isWhole isWhole
      exact ⟨c, _, rfl, digit⟩

theorem word_natAbs (negative : Bool) {n : Nat} (few : (Decimal.ofNat n).length ≤ 4300) :
    Word (.int (if negative then -(n : Int) else n))
      (if negative then '-' :: Decimal.ofNat n else Decimal.ofNat n) := by
  have word := word_of_readUnsigned negative (exists_start_of_isWhole (isWhole_ofNat n))
    fun rest ends => readUnsigned_whole (isWhole_ofNat n) few ends
  rwa [numberOf_ofNat] at word

/-- An integer is read back from its writing if it is not too long. -/
theorem word_int {n : Int} (few : (Decimal.ofNat n.natAbs).length ≤ 4300) :
    Word (.int n) (scalar (.int n)) := by
  cases n with
  | ofNat n => exact word_natAbs false few
  | negSucc n => exact word_natAbs true few

/-- What is laid out for a magnitude is read as its number, with either sign. -/
theorem exists_denotes (rank : Fin Binary64.magnitudeCount) :
    ∃ d k, Denotes d k (Binary64.inJson.unsigned rank) ∧ ∀ (negative : Bool) (zeros : Nat),
      Binary64.ofDecimal negative (d * Nat.pow 10 zeros) (k - zeros) = .finite negative rank := by
  unfold Binary64.Layout.unsigned
  split
  case isTrue zero =>
    have number : Denotes 0 (-1) (['0'] ++ (fractionText ['0'] ++ exponentText none)) :=
      .number 0 (.inl rfl) (isDigits_zeros 1) (.inl (List.cons_ne_nil _ _)) rfl rfl
    refine ⟨0, -1, number, fun negative zeros => ?_⟩
    rw [Nat.zero_mul]
    exact Binary64.ofDecimal_zero negative zero _
  case isFalse nonzero =>
    have nearest := fun negative => Binary64.ofDecimal_shortest negative nonzero
    have some := Binary64.shortest_ne_zero nonzero
    revert nearest some
    -- What the shortest digits are does not matter from here on.
    generalize Binary64.shortest rank = x
    intro nearest some
    have digits := isDigits_ofNat x.1
    have value := numberOf_ofNat x.1
    obtain ⟨c, rest, written, other⟩ := exists_ofNat some
    rw [written] at digits value ⊢
    refine ⟨x.1, x.2, ?_, nearest⟩
    have number := denotes_digits digits other x.2
    rwa [value] at number

/-- A binary number is read back from its writing. -/
theorem word_float (x : Binary64) : Word (.float x) (scalar (.float x)) := by
  cases x with
  | nan => exact word_of_mem (.tail _ (.tail _ (.tail _ (.head _))))
  | infinite negative =>
      cases negative with
      | false => exact word_of_mem (.tail _ (.tail _ (.tail _ (.tail _ (.head _)))))
      | true => exact word_of_mem (.tail _ (.tail _ (.tail _ (.tail _ (.tail _ (.head _))))))
  | finite negative rank =>
      obtain ⟨d, k, denotes, nearest⟩ := exists_denotes rank
      obtain ⟨zeros, reads⟩ := denotes.reads negative
      rw [nearest] at reads
      rw [scalar, Binary64.Layout.write_finite]
      exact word_of_readUnsigned negative denotes.exists_start reads

end

end Json

end BridgedDenom
