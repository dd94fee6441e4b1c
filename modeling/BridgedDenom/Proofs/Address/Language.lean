import BridgedDenom.Denomination.Reading
import BridgedDenom.Proofs.Address.Spelling
import BridgedDenom.Proofs.Bytes.Reading

/-!
# Readers of addresses

A text is taken for an address in several places.  All of them accept the spellings of
`IsSpelling` and nothing else, and all that fail on other texts fail in one way.  A
computation of this sort is one that `Reads` the text: on a spelling it goes on with the
address and does not fail any more, and on any other text it has the refusal of the text.
From this its outcomes follow, those of success (`Reads.exists_ok_iff`) and those of
failure (`Reads.eq_error_iff`).

The liberal reader of hex accepts more texts than these, but where a text spells an
address it gives the same bytes (`Hex.ofText_of_spells`), since a spelling is a marked writing
in some letter case.
-/

namespace BridgedDenom

open Address (IsSpelling Spells refusal)

/-! ## The liberal reader of hex -/

namespace Hex

theorem ofText_of_spells {s : Text} {a : Address} (h : Spells s a) : ofText s = .ok a.raw :=
  ofText_of_lower (Or.inr (Address.spells_iff_lower.mp h))

end Hex

/-! ## Readers of addresses -/

namespace Address

/-- The computation reads the text as an address and goes on with it, without failing. -/
structure Reads {α : Type} (s : Text) (x : Except Failure α) (next : Address → α) : Prop where
  accepts : ∀ a, Spells s a → x = .ok (next a)
  refuses : ¬ IsSpelling s → x = .error (refusal s)

section
variable {α : Type} {s : Text} {x : Except Failure α} {next : Address → α} {failure : Failure}

theorem Reads.exists_ok_iff (h : Reads s x next) : (∃ b, x = .ok b) ↔ IsSpelling s := by
  constructor
  · rintro ⟨b, accepted⟩
    by_cases spelling : IsSpelling s
    · exact spelling
    · rw [h.refuses spelling] at accepted
      cases accepted
  · intro spelling
    obtain ⟨a, spelled⟩ := isSpelling_iff_exists.mp spelling
    exact ⟨next a, h.accepts a spelled⟩

theorem Reads.eq_error_iff (h : Reads s x next) :
    x = .error failure ↔ ¬ IsSpelling s ∧ failure = refusal s := by
  constructor
  · intro failed
    by_cases spelling : IsSpelling s
    · obtain ⟨a, spelled⟩ := isSpelling_iff_exists.mp spelling
      rw [h.accepts a spelled] at failed
      cases failed
    · rw [h.refuses spelling] at failed
      exact ⟨spelling, (Except.error.inj failed).symm⟩
  · rintro ⟨spelling, rfl⟩
    exact h.refuses spelling

end

theorem reads_validate (s : Text) : Reads s (validate s) fun _ => () where
  accepts a spelled := validate_of_isSpelling (isSpelling_iff_exists.mpr ⟨a, spelled⟩)
  refuses := validate_of_not_isSpelling

theorem reads_ofText (s : Text) : Reads s (ofText s) id where
  accepts _ := ofText_of_spells
  refuses := ofText_of_not_isSpelling

theorem reads_checksumOfText (s : Text) : Reads s (checksumOfText s) checksum where
  accepts a spelled := by
    simp [checksumOfText, ofText_of_spells spelled, bind, Except.bind, pure, Except.pure]
  refuses none := by
    simp [checksumOfText, ofText_of_not_isSpelling none, bind, Except.bind]

/-- The check that comes first refuses what the reading would refuse. -/
theorem outcome_ofValue (s : Text) : (ofValue (.text s)).outcome = ofText s := by
  by_cases spelling : IsSpelling s
  · exact Attempt.outcome_bind_ok (x := validateValue (.text s)) (validate_of_isSpelling spelling) _
  · rw [ofText_of_not_isSpelling spelling]
    exact Attempt.outcome_bind_error (x := validateValue (.text s))
      (validate_of_not_isSpelling spelling) _

end Address

end BridgedDenom
