import BridgedDenom.Convention.Validation
import BridgedDenom.Proofs.Bytes.Hex

/-!
# The grammar of conventions

A stem is a letter followed by characters of the alphabet of names, and a separator is any
text over that alphabet (`IsStem`, `IsSeparator`).  Both are stated on the characters written
out, and agree with the classes of characters that are looked at (`isName_iff`,
`all_isNameChar_iff`); this is checked on the characters of ASCII, since no class reaches
beyond them.

Two values make a convention if and only if they are a stem and a separator in text
(`ofValues_eq_ok_iff`).  Whatever is not accepted is refused by a fault of the configuration
(`ofValues_ok_or_refused`).
-/

namespace BridgedDenom

/-! ## The alphabet -/

namespace Text

def letters : Text := "abcdefghijklmnopqrstuvwxyzABCDEFGHIJKLMNOPQRSTUVWXYZ".toList

/-- The characters of names. -/
def nameAlphabet : Text := letters ++ "0123456789/:._-".toList

theorem isNameChar_iff {c : Char} : isNameChar c = true ↔ c ∈ nameAlphabet := by
  constructor
  · intro isChar
    obtain ⟨k, rfl⟩ := exists_code (lt_of_isNameChar isChar)
    have checked : ∀ k : Fin 128,
        isNameChar (Char.ofNat k) = true → Char.ofNat k ∈ nameAlphabet := by
      decide +kernel
    exact checked k isChar
  · intro mem
    have checked : nameAlphabet.all isNameChar = true := by decide
    exact List.all_eq_true.mp checked c mem

theorem isAlpha_iff {c : Char} : c.isAlpha = true ↔ c ∈ letters := by
  constructor
  · intro alpha
    obtain ⟨k, rfl⟩ := exists_code (lt_of_isNameChar (isNameChar_of_isAlpha alpha))
    have checked : ∀ k : Fin 128, (Char.ofNat k).isAlpha = true → Char.ofNat k ∈ letters := by
      decide +kernel
    exact checked k alpha
  · intro mem
    have checked : letters.all Char.isAlpha = true := by decide
    exact List.all_eq_true.mp checked c mem

end Text

namespace Convention

/-! ## Stems and separators -/

/-- A letter and then characters of names. -/
def IsStem (s : Text) : Prop :=
  ∃ c rest, s = c :: rest ∧ c ∈ Text.letters ∧ ∀ d ∈ rest, d ∈ Text.nameAlphabet

/-- Characters of names, or nothing. -/
def IsSeparator (s : Text) : Prop := ∀ c ∈ s, c ∈ Text.nameAlphabet

theorem all_isNameChar_iff {s : Text} : s.all Text.isNameChar = true ↔ IsSeparator s := by
  simp only [List.all_eq_true, Text.isNameChar_iff, IsSeparator]

theorem isName_iff {s : Text} : s.isName = true ↔ IsStem s := by
  cases s with
  | nil => simp [Text.isName, IsStem]
  | cons c rest =>
      simp only [Text.isName, Bool.and_eq_true, Text.isAlpha_iff, all_isNameChar_iff]
      constructor
      · rintro ⟨letter, tail⟩
        exact ⟨c, rest, rfl, letter, tail⟩
      · rintro ⟨d, tail, same, letter, inside⟩
        cases same
        exact ⟨letter, inside⟩

theorem isStem_stem (c : Convention) : IsStem c.stem := isName_iff.mp c.isName_stem

theorem isSeparator_separator (c : Convention) : IsSeparator c.separator :=
  all_isNameChar_iff.mp c.all_separator

/-! ## Accepting texts and values -/

/-- A refusal by a fault of the configuration. -/
def Refused (x : Except Failure Convention) : Prop :=
  ∃ message data, x = .error (.fault (.configuration message data))

theorem ofTexts_eq_ok_iff {stem separator : Text} {c : Convention} :
    ofTexts stem separator = .ok c ↔ c.stem = stem ∧ c.separator = separator := by
  constructor
  · intro accepted
    unfold ofTexts at accepted
    split at accepted
    case isTrue =>
      split at accepted
      case isTrue =>
        cases accepted
        exact ⟨rfl, rfl⟩
      case isFalse => cases accepted
    case isFalse => cases accepted
  · rintro ⟨rfl, rfl⟩
    exact ofTexts_stem_separator c

theorem exists_ofTexts_iff {stem separator : Text} :
    (∃ c, ofTexts stem separator = .ok c) ↔ IsStem stem ∧ IsSeparator separator := by
  constructor
  · rintro ⟨c, accepted⟩
    obtain ⟨rfl, rfl⟩ := ofTexts_eq_ok_iff.mp accepted
    exact ⟨c.isStem_stem, c.isSeparator_separator⟩
  · rintro ⟨isStem, isSeparator⟩
    exact ⟨⟨stem, separator, isName_iff.mpr isStem, all_isNameChar_iff.mpr isSeparator⟩,
      ofTexts_eq_ok_iff.mpr ⟨rfl, rfl⟩⟩

theorem ofTexts_ok_or_refused (stem separator : Text) :
    (∃ c, ofTexts stem separator = .ok c) ∨ Refused (ofTexts stem separator) := by
  unfold ofTexts
  split
  case isTrue =>
    split
    case isTrue => exact .inl ⟨_, rfl⟩
    case isFalse => exact .inr ⟨_, _, rfl⟩
  case isFalse => exact .inr ⟨_, _, rfl⟩

theorem ofValues_eq_ok_iff {stem separator : Value} {c : Convention} :
    ofValues stem separator = .ok c ↔ stem = .text c.stem ∧ separator = .text c.separator := by
  constructor
  · intro accepted
    unfold ofValues at accepted
    split at accepted
    case h_1 =>
      obtain ⟨rfl, rfl⟩ := ofTexts_eq_ok_iff.mp accepted
      exact ⟨rfl, rfl⟩
    case h_2 => cases accepted
  · rintro ⟨rfl, rfl⟩
    exact ofTexts_stem_separator c

theorem ofValues_ok_or_refused (stem separator : Value) :
    (∃ c, ofValues stem separator = .ok c) ∨ Refused (ofValues stem separator) := by
  unfold ofValues
  split
  case h_1 => exact ofTexts_ok_or_refused _ _
  case h_2 => exact .inr ⟨_, _, rfl⟩

end Convention

end BridgedDenom
