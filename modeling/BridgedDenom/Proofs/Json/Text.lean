import BridgedDenom.Json.Text

/-!
# Strings of documents

A quoted text is read back, whatever its characters are and whatever follows its closing
quote (`readText?_quoted`).  A reader makes two steps, and so does the proof.  The codes that
are read are the UTF-16 units of the characters, also where a character was written by a
short escape or as it is (`readCodes?_escaped`).  And the units of a text stand for this text
again, since no character is a surrogate and so no unit of one is taken for half of another
(`ofCodes_units`).
-/

namespace BridgedDenom

namespace Text

/-! ## Codes of four digits -/

/-- The last digit of a code is that of the number, and what is before it is the code of the
rest, with one place less to fill. -/
theorem hexCode_succ (width n : Nat) :
    hexCode (width + 2) n = hexCode (width + 1) (n / 16) ++ [Nat.digitChar (n % 16)] := by
  by_cases small : n < 16
  case pos =>
    have rest : n / 16 = 0 := by omega
    have last : n % 16 = n := by omega
    simp only [hexCode, padLeft, Nat.toDigits_of_lt_base small, rest, last, Nat.toDigits_zero,
      List.length_singleton, ← List.replicate_succ']
    rfl
  case neg =>
    have digits := Nat.toDigits_of_base_le (b := 16) (by decide) (Nat.le_of_not_lt small)
    have filled : width + 2 - ((Nat.toDigits 16 (n / 16)).length + 1)
        = width + 1 - (Nat.toDigits 16 (n / 16)).length := by omega
    simp only [hexCode, padLeft, digits, List.length_append, List.length_singleton,
      List.append_assoc, filled]

theorem hexCode_one {n : Nat} (small : n < 16) : hexCode 1 n = [Nat.digitChar n] := by
  simp [hexCode, padLeft, Nat.toDigits_of_lt_base small]

theorem hexCode_four {n : Nat} (small : n < 0x10000) :
    hexCode 4 n = [Nat.digitChar (n / 16 / 16 / 16), Nat.digitChar (n / 16 / 16 % 16),
      Nat.digitChar (n / 16 % 16), Nat.digitChar (n % 16)] := by
  rw [hexCode_succ, hexCode_succ, hexCode_succ, hexCode_one (by omega)]
  rfl

/-! ## Units -/

theorem isHighSurrogate_char (c : Char) : isHighSurrogate c.toNat = false := by
  have valid : c.toNat < 0xD800 ∨ 0xDFFF < c.toNat ∧ c.toNat < 0x110000 := c.valid
  simp only [isHighSurrogate, Bool.and_eq_false_iff, decide_eq_false_iff_not]
  omega

theorem isLowSurrogate_char (c : Char) : isLowSurrogate c.toNat = false := by
  have valid : c.toNat < 0xD800 ∨ 0xDFFF < c.toNat ∧ c.toNat < 0x110000 := c.valid
  simp only [isLowSurrogate, Bool.and_eq_false_iff, decide_eq_false_iff_not]
  omega

theorem lt_of_mem_units {c : Char} {u : Nat} (mem : u ∈ units c.toNat) : u < 0x10000 := by
  have valid : c.toNat < 0xD800 ∨ 0xDFFF < c.toNat ∧ c.toNat < 0x110000 := c.valid
  unfold units at mem
  split at mem
  case isTrue small =>
    rw [List.mem_singleton] at mem
    omega
  case isFalse =>
    simp only [List.mem_cons, List.not_mem_nil, or_false] at mem
    omega

theorem charOfCode_char (c : Char) : charOfCode c.toNat = c := by
  simp [charOfCode, isHighSurrogate_char, isLowSurrogate_char]

/-- A code that starts no pair is a character of its own. -/
theorem ofCodes_cons {code : Nat} (alone : isHighSurrogate code = false) (codes : List Nat) :
    ofCodes (code :: codes) = charOfCode code :: ofCodes codes := by
  cases codes with
  | nil => rfl
  | cons next rest => simp [ofCodes, alone]

theorem ofCodes_units_append (c : Char) (codes : List Nat) :
    ofCodes (units c.toNat ++ codes) = c :: ofCodes codes := by
  have valid : c.toNat < 0xD800 ∨ 0xDFFF < c.toNat ∧ c.toNat < 0x110000 := c.valid
  by_cases small : c.toNat < 0x10000
  case pos =>
    rw [units, if_pos small, List.singleton_append, ofCodes_cons (isHighSurrogate_char c),
      charOfCode_char]
  case neg =>
    let high := 0xD800 + (c.toNat - 0x10000) / 0x400
    let low := 0xDC00 + (c.toNat - 0x10000) % 0x400
    have isPair : (isHighSurrogate high && isLowSurrogate low) = true := by
      simp only [isHighSurrogate, isLowSurrogate, Bool.and_eq_true, decide_eq_true_eq]
      omega
    have number : 0x10000 + (high - 0xD800) * 0x400 + (low - 0xDC00) = c.toNat := by omega
    rw [units, if_neg small, List.cons_append, List.cons_append, List.nil_append, ofCodes,
      if_pos isPair, number, Char.ofNat_toNat]

/-- The units of a text stand for the text. -/
theorem ofCodes_units (s : Text) : ofCodes (s.flatMap fun c => units c.toNat) = s := by
  induction s with
  | nil => rfl
  | cons c rest ih => rw [List.flatMap_cons, ofCodes_units_append, ih]

end Text

namespace Json

/-! ## Escapes -/

theorem value?_digitChar {n : Nat} (small : n < 16) : Hex.value? (Nat.digitChar n) = some n := by
  have checked : ∀ k : Fin 16, Hex.value? (Nat.digitChar k) = some k.val := by decide
  exact checked ⟨n, small⟩

section
variable {c letter : Char} {u : Nat} {s rest : Text} {codes : List Nat}

/-- The escape of one unit. -/
theorem readCodes?_unit (small : u < 0x10000) (read : readCodes? s = some (codes, rest)) :
    readCodes? (('\\' :: 'u' :: Text.hexCode 4 u) ++ s) = some (u :: codes, rest) := by
  have unit : unitOfHex? (Nat.digitChar (u / 16 / 16 / 16)) (Nat.digitChar (u / 16 / 16 % 16))
      (Nat.digitChar (u / 16 % 16)) (Nat.digitChar (u % 16)) = some u := by
    simp only [unitOfHex?, value?_digitChar (show u / 16 / 16 / 16 < 16 by omega),
      value?_digitChar (Nat.mod_lt _ (show 16 > 0 by decide)), Option.bind_eq_bind,
      Option.bind_some, Option.pure_def, Option.some.injEq]
    omega
  rw [Text.hexCode_four small]
  simp [readCodes?, unit, read]

theorem readCodes?_units {units : List Nat} (small : ∀ u ∈ units, u < 0x10000)
    (read : readCodes? s = some (codes, rest)) :
    readCodes? ((units.flatMap fun u => '\\' :: 'u' :: Text.hexCode 4 u) ++ s)
      = some (units ++ codes, rest) := by
  induction units with
  | nil => exact read
  | cons u units ih =>
      rw [List.flatMap_cons, List.append_assoc]
      exact readCodes?_unit (small u List.mem_cons_self)
        (ih fun v mem => small v (List.mem_cons_of_mem u mem))

/-- A short escape is read as the character it stands for. -/
theorem shortEscape?_of_lookup (short : shortEscapes.lookup c = some letter) :
    shortEscape? letter = some c ∧ letter ≠ 'u' ∧ c.toNat < 0x10000 := by
  have member : (c, letter) ∈ shortEscapes := by
    obtain ⟨before, after, split, -⟩ := List.lookup_eq_some_iff.mp short
    rw [split]
    exact List.mem_append_right before List.mem_cons_self
  have checked : ∀ e ∈ shortEscapes,
      shortEscape? e.2 = some e.1 ∧ e.2 ≠ 'u' ∧ e.1.toNat < 0x10000 := by
    decide
  exact checked _ member

theorem readCodes?_short (short : shortEscapes.lookup c = some letter)
    (read : readCodes? s = some (codes, rest)) :
    readCodes? (['\\', letter] ++ s) = some (c.toNat :: codes, rest) := by
  obtain ⟨back, notUnit, -⟩ := shortEscape?_of_lookup short
  rw [List.cons_append, List.singleton_append, readCodes?.eq_def]
  simp [notUnit, back, read]

/-- A character without an escape stands for itself. -/
theorem readCodes?_plain (long : shortEscapes.lookup c = none) (printable : 0x20 ≤ c.toNat)
    (read : readCodes? s = some (codes, rest)) :
    readCodes? (c :: s) = some (c.toNat :: codes, rest) := by
  have notQuote : c ≠ '"' := by
    rintro rfl
    cases long
  have notBackslash : c ≠ '\\' := by
    rintro rfl
    cases long
  have notControl : ¬ c.toNat < 0x20 := by omega
  rw [readCodes?.eq_def]
  simp [notQuote, notBackslash, notControl, read]

theorem readCodes?_escapedChar (c : Char) (read : readCodes? s = some (codes, rest)) :
    readCodes? (escapedChar c ++ s) = some (Text.units c.toNat ++ codes, rest) := by
  have one : c.toNat < 0x10000 → Text.units c.toNat ++ codes = c.toNat :: codes := by
    intro small
    rw [Text.units, if_pos small, List.singleton_append]
  cases short : shortEscapes.lookup c with
  | some letter =>
      obtain ⟨-, -, small⟩ := shortEscape?_of_lookup short
      rw [escapedChar, short, one small]
      exact readCodes?_short short read
  | none =>
      by_cases printable : (0x20 ≤ c.toNat && c.toNat ≤ 0x7E) = true
      · simp only [escapedChar, short, printable, if_true]
        rw [Bool.and_eq_true, decide_eq_true_eq, decide_eq_true_eq] at printable
        rw [one (by omega)]
        exact readCodes?_plain short printable.1 read
      · simp only [escapedChar, short, if_neg printable]
        exact readCodes?_units (fun u mem => Text.lt_of_mem_units mem) read

/-! ## Texts -/

/-- The codes of a text between quotes are its units. -/
theorem readCodes?_escaped (s rest : Text) :
    readCodes? (s.flatMap escapedChar ++ '"' :: rest)
      = some (s.flatMap fun c => Text.units c.toNat, rest) := by
  induction s with
  | nil => rw [List.flatMap_nil, List.nil_append, readCodes?.eq_def]; rfl
  | cons c s ih =>
      rw [List.flatMap_cons, List.append_assoc]
      exact readCodes?_escapedChar c ih

/-- A quoted text is read back, and nothing behind its closing quote is touched. -/
theorem readText?_quoted (s rest : Text) :
    readText? (s.flatMap escapedChar ++ '"' :: rest) = some (s, rest) := by
  simp [readText?, readCodes?_escaped, Text.ofCodes_units]

end

end Json

end BridgedDenom
