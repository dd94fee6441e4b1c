import BridgedDenom.Address.Reading
import BridgedDenom.Proofs.Bytes.Hex

/-!
# Spellings of an address

An address in text is `0x` or `0X` followed by forty hex digits (`IsSpelling`).  A
spelling stands for the address whose bytes have these digits (`Spells`), and two
texts spell one address if and only if they differ in letter case alone, since
`Spells` is a condition on the lower case of a text (`spells_iff_lower`).

Reading accepts the spellings and nothing else, and gives the address that is
spelled (`ofText_eq_ok_iff`).  Every other text is refused, in a way that depends on
the text alone (`ofText_eq_error_iff`).  The two later steps of reading, which look
at digits and at the number of bytes, refuse nothing that the first one has let
through.  The checksum form is one of the spellings (`spells_checksum`), so it
determines the address.
-/

namespace BridgedDenom

namespace Address

/-! ## The two sides of a spelling -/

/-- The text is an address in text: a mark and forty hex digits. -/
def IsSpelling (s : Text) : Prop :=
  ∃ (x : Char) (digits : Text), s = '0' :: x :: digits ∧ (x = 'x' ∨ x = 'X') ∧
    digits.length = 40 ∧ ∀ c ∈ digits, c ∈ Hex.alphabet

/-- The text is a mark followed by the digits of the bytes, in any letter case. -/
def Spells (s : Text) (a : Address) : Prop :=
  ∃ (x : Char) (digits : Text), s = '0' :: x :: digits ∧ (x = 'x' ∨ x = 'X') ∧
    digits.lower = Hex.encode a.raw

/-- Only the lower case of a text decides what it spells. -/
theorem spells_iff_lower {s : Text} {a : Address} :
    Spells s a ↔ s.lower = Hex.encodeMarked a.raw :=
  Hex.lower_eq_encodeMarked_iff.symm

theorem Spells.lower_eq {s t : Text} {a : Address} (hs : Spells s a) (ht : Spells t a) :
    s.lower = t.lower :=
  (spells_iff_lower.mp hs).trans (spells_iff_lower.mp ht).symm

theorem Spells.of_lower_eq {s t : Text} {a : Address} (hs : Spells s a) (h : s.lower = t.lower) :
    Spells t a :=
  spells_iff_lower.mpr (h.symm.trans (spells_iff_lower.mp hs))

theorem Spells.length_eq {s : Text} {a : Address} (h : Spells s a) : s.length = 42 := by
  rw [← Text.length_lower, spells_iff_lower.mp h]
  simp [Hex.encodeMarked, a.length_raw]

/-- Two addresses of the same bytes are one. -/
theorem eq_of_raw {a b : Address} (h : a.raw = b.raw) : a = b := by
  cases a
  cases b
  cases h
  rfl

/-- A text spells one address at most. -/
theorem Spells.unique {s : Text} {a b : Address} (ha : Spells s a) (hb : Spells s b) : a = b := by
  obtain ⟨x, digits, rfl, -, lowered⟩ := ha
  obtain ⟨_, _, same, -, lowered'⟩ := hb
  cases same
  exact eq_of_raw (Hex.encode_injective (lowered.symm.trans lowered'))

/-- The spellings are the texts that spell an address. -/
theorem isSpelling_iff_exists {s : Text} : IsSpelling s ↔ ∃ a, Spells s a := by
  constructor
  · rintro ⟨x, digits, rfl, mark, count, all⟩
    have allDigits : ∀ c ∈ digits, Hex.isDigit c = true :=
      fun c mem => Hex.isDigit_iff_mem_alphabet.mpr (all c mem)
    obtain ⟨raw, length, lowered⟩ := Hex.exists_lower_eq_encode 20 count allDigits
    exact ⟨⟨raw, length⟩, x, digits, rfl, mark, lowered⟩
  · rintro ⟨a, x, digits, rfl, mark, lowered⟩
    refine ⟨x, digits, rfl, mark, ?_, fun c mem => ?_⟩
    · rw [← Text.length_lower, lowered, Hex.length_encode, a.length_raw]
    · exact Hex.isDigit_iff_mem_alphabet.mp (Hex.isDigit_of_lower lowered c mem)

/-- A spelling ends in a hex digit. -/
theorem IsSpelling.getLast? {s : Text} (h : IsSpelling s) :
    ∃ c ∈ Hex.alphabet, s.getLast? = some c := by
  obtain ⟨x, digits, rfl, -, count, all⟩ := h
  have nonempty : digits ≠ [] := by
    rintro rfl
    cases count
  refine ⟨digits.getLast nonempty, all _ (List.getLast_mem nonempty), ?_⟩
  rw [List.getLast?_cons, List.getLast?_cons, List.getLast?_eq_some_getLast nonempty]
  rfl

/-! ## Reading -/

theorem isHexAddress_iff {s : Text} : isHexAddress s = true ↔ IsSpelling s := by
  constructor
  · intro h
    simp only [isHexAddress, Bool.and_eq_true, beq_iff_eq] at h
    obtain ⟨⟨marked, count⟩, isHex⟩ := h
    obtain ⟨x, digits, rfl, mark⟩ := Hex.isMarked_iff.mp marked
    simp only [Hex.isHex, Bool.and_eq_true, List.all_eq_true] at isHex
    exact ⟨x, digits, rfl, mark, count, fun c mem => Hex.isDigit_iff_mem_alphabet.mp (isHex.2 c mem)⟩
  · rintro ⟨x, digits, rfl, mark, count, all⟩
    have marked : Hex.isMarked ('0' :: x :: digits) = true :=
      Hex.isMarked_iff.mpr ⟨x, digits, rfl, mark⟩
    have nonempty : digits ≠ [] := by
      rintro rfl
      cases count
    have allDigits : digits.all Hex.isDigit = true :=
      List.all_eq_true.mpr fun c mem => Hex.isDigit_iff_mem_alphabet.mpr (all c mem)
    simp [isHexAddress, marked, size, count, Hex.isHex, nonempty, allDigits]

instance (s : Text) : Decidable (IsSpelling s) := decidable_of_iff _ isHexAddress_iff

/-- The failure of a text that is no spelling.  The empty text has one of its own. -/
def refusal (s : Text) : Failure :=
  if s = [] then .fault .emptyAddress else .fault (.malformedAddress (.text s) s)

theorem not_isSpelling_nil : ¬ IsSpelling [] := by
  rintro ⟨_, _, form, _⟩
  cases form

/-- A text that is no spelling is refused for being empty or for what it is. -/
theorem refused_iff {s : Text} {failure : Failure} :
    (¬ IsSpelling s ∧ failure = refusal s) ↔
      (s = [] ∧ failure = .fault .emptyAddress) ∨
      (s ≠ [] ∧ ¬ IsSpelling s ∧ failure = .fault (.malformedAddress (.text s) s)) := by
  by_cases empty : s = []
  · subst empty
    simp [refusal, not_isSpelling_nil]
  · simp [refusal, empty]

theorem validate_of_isSpelling {s : Text} (h : IsSpelling s) : validate s = .ok () := by
  have nonempty : s.isEmpty = false := by
    obtain ⟨_, _, rfl, _⟩ := h
    rfl
  simp [validate, nonempty, isHexAddress_iff.mpr h]

theorem validate_of_not_isSpelling {s : Text} (h : ¬ IsSpelling s) :
    validate s = .error (refusal s) := by
  have unchecked : isHexAddress s = false :=
    Bool.eq_false_iff.mpr fun checked => h (isHexAddress_iff.mp checked)
  by_cases empty : s = []
  · simp [validate, refusal, empty]
  · simp [validate, refusal, empty, unchecked]

/-- After the check neither the digits nor the number of bytes can be refused. -/
theorem ofText_of_spells {s : Text} {a : Address} (h : Spells s a) : ofText s = .ok a := by
  have accepted : validate s = .ok () :=
    validate_of_isSpelling (isSpelling_iff_exists.mpr ⟨a, h⟩)
  obtain ⟨x, digits, rfl, -, lowered⟩ := h
  have read : Hex.pairs digits = .ok a.raw := Hex.pairs_of_lower lowered
  simp [ofText, accepted, read, bind, Except.bind]

theorem ofText_of_not_isSpelling {s : Text} (h : ¬ IsSpelling s) :
    ofText s = .error (refusal s) := by
  simp [ofText, validate_of_not_isSpelling h, bind, Except.bind]

/-- Reading gives an address if and only if the text spells it. -/
theorem ofText_eq_ok_iff {s : Text} {a : Address} : ofText s = .ok a ↔ Spells s a := by
  constructor
  · intro h
    by_cases spelling : IsSpelling s
    · obtain ⟨b, spelled⟩ := isSpelling_iff_exists.mp spelling
      rw [ofText_of_spells spelled] at h
      cases h
      exact spelled
    · rw [ofText_of_not_isSpelling spelling] at h
      cases h
  · exact ofText_of_spells

theorem toLower_raise (c : Char) (nibble : Nat) : (Checksum.raise c nibble).toLower = c.toLower := by
  unfold Checksum.raise
  split
  · exact Text.toLower_toUpper c
  · rfl

/-- Raising some of the letters does not change the lower case. -/
theorem lower_zipWith_raise {digits : Text} {nibbles : List Nat}
    (h : digits.length ≤ nibbles.length) :
    Text.lower (List.zipWith Checksum.raise digits nibbles) = digits.lower := by
  induction digits generalizing nibbles with
  | nil => rfl
  | cons c rest ih =>
      cases nibbles with
      | nil => simp at h
      | cons nibble nibbles =>
          have shorter : rest.length ≤ nibbles.length := by simpa using h
          have lowered := ih shorter
          simp only [Text.lower] at lowered
          simp [Text.lower, toLower_raise, lowered]

/-- The checksum form of an address spells it. -/
theorem spells_checksum (a : Address) : Spells a.checksum a := by
  have enough : (Hex.encode a.raw).length ≤ (Checksum.nibbles a.raw).length := by
    simp [a.length_raw]
  refine ⟨'x', _, rfl, Or.inl rfl, ?_⟩
  rw [lower_zipWith_raise enough, Hex.lower_encode]

theorem isSpelling_checksum (a : Address) : IsSpelling a.checksum :=
  isSpelling_iff_exists.mpr ⟨a, spells_checksum a⟩

theorem checksum_injective {a b : Address} (h : a.checksum = b.checksum) : a = b :=
  (spells_checksum a).unique (h ▸ spells_checksum b)

end Address

end BridgedDenom
