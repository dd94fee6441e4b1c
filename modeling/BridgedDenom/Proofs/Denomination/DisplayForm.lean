import BridgedDenom.Proofs.Address.Spelling
import BridgedDenom.Proofs.Denomination.Storage

/-!
# The display form

A text names an address under a convention if and only if it is the lead followed by
a spelling of the address.  As for bytes there is one case distinction
(`decodeText_cases`): the text is the lead and a spelling, or it lacks the lead, or
what follows the lead is no spelling.

The two forms of a denomination meet in the address.  Reading a text gives the
denomination of the address that is spelled, and showing this denomination gives the
lead and the checksum form, which is one more spelling of the same address.  So
showing what was read changes letter case only, and reading what is shown changes
nothing.
-/

namespace BridgedDenom

namespace Convention

open Address (IsSpelling Spells)

section
variable {c : Convention} {s t : Text} {a : Address} {d : Denomination} {failure : Failure}

/-! ## Outcomes of reading -/

theorem decodeText_of_not_prefix (h : ¬ c.lead <+: s) :
    (c.decodeText s).outcome = .error (c.textMismatch s) := by
  simp [decodeText, h]

theorem decodeText_of_spells (c : Convention) (h : Spells t a) :
    (c.decodeText (c.lead ++ t)).outcome = .ok (c.encode a) := by
  simp [decodeText, Address.ofText_of_spells h, bind, Except.bind, pure, Except.pure]

theorem decodeText_of_not_isSpelling (c : Convention) (h : ¬ IsSpelling t) :
    (c.decodeText (c.lead ++ t)).outcome = .error (Address.refusal t) := by
  simp [decodeText, Address.ofText_of_not_isSpelling h, bind, Except.bind]

/-- What a text can be to a convention, and what becomes of it. -/
theorem decodeText_cases (c : Convention) (s : Text) :
    (∃ t a, s = c.lead ++ t ∧ Spells t a ∧ (c.decodeText s).outcome = .ok (c.encode a)) ∨
    (¬ c.lead <+: s ∧ (c.decodeText s).outcome = .error (c.textMismatch s)) ∨
    (∃ t, s = c.lead ++ t ∧ ¬ IsSpelling t ∧
      (c.decodeText s).outcome = .error (Address.refusal t)) := by
  by_cases starts : c.lead <+: s
  · obtain ⟨t, rfl⟩ := starts
    by_cases spelling : IsSpelling t
    · obtain ⟨a, spelled⟩ := Address.isSpelling_iff_exists.mp spelling
      exact Or.inl ⟨t, a, rfl, spelled, decodeText_of_spells c spelled⟩
    · exact Or.inr (Or.inr ⟨t, rfl, spelling, decodeText_of_not_isSpelling c spelling⟩)
  · exact Or.inr (Or.inl ⟨starts, decodeText_of_not_prefix starts⟩)

theorem decodeText_eq_ok_iff :
    (c.decodeText s).outcome = .ok d ↔ ∃ t a, s = c.lead ++ t ∧ Spells t a ∧ d = c.encode a := by
  constructor
  · intro h
    rcases decodeText_cases c s with ⟨t, a, form, spelled, read⟩ | ⟨-, read⟩ | ⟨_, -, -, read⟩
    · rw [read] at h
      cases h
      exact ⟨t, a, form, spelled, rfl⟩
    · rw [read] at h
      cases h
    · rw [read] at h
      cases h
  · rintro ⟨t, a, rfl, spelled, rfl⟩
    exact decodeText_of_spells c spelled

/-- What follows the lead of a text that was read spells the address that is named. -/
theorem spells_of_decodeText (h : (c.decodeText (c.lead ++ t)).outcome = .ok d) :
    ∃ a, Spells t a ∧ d = c.encode a := by
  obtain ⟨u, a, form, spelled, same⟩ := decodeText_eq_ok_iff.mp h
  cases List.append_cancel_left form
  exact ⟨a, spelled, same⟩

theorem decodeText_eq_error_iff :
    (c.decodeText s).outcome = .error failure ↔
      (¬ c.lead <+: s ∧ failure = c.textMismatch s) ∨
      (∃ t, s = c.lead ++ t ∧ ¬ IsSpelling t ∧ failure = Address.refusal t) := by
  constructor
  · intro h
    rcases decodeText_cases c s with ⟨_, _, -, -, read⟩ | ⟨starts, read⟩ | ⟨t, form, none, read⟩
    · rw [read] at h
      cases h
    · rw [read] at h
      cases h
      exact Or.inl ⟨starts, rfl⟩
    · rw [read] at h
      cases h
      exact Or.inr ⟨t, form, none, rfl⟩
  · rintro (⟨starts, rfl⟩ | ⟨t, rfl, none, rfl⟩)
    · exact decodeText_of_not_prefix starts
    · exact decodeText_of_not_isSpelling c none

/-- After the lead, the display form is the checksum form. -/
theorem denomText_eq (c : Convention) (a : Address) : c.denomText a = c.lead ++ a.checksum := rfl

theorem decodeText_denomText (c : Convention) (a : Address) :
    (c.decodeText (c.denomText a)).outcome = .ok (c.encode a) := by
  rw [denomText_eq]
  exact decodeText_of_spells c (Address.spells_checksum a)

/-- Two texts name one denomination if and only if they differ in letter case alone. -/
theorem encode_eq_iff_lower {u : Text} {b : Address} (ht : Spells t a) (hu : Spells u b) :
    c.encode a = c.encode b ↔ t.lower = u.lower := by
  constructor
  · intro h
    cases encode_bytes_inj.mp (congrArg Denomination.bytes h)
    exact ht.lower_eq hu
  · intro h
    rw [(ht.of_lower_eq h).unique hu]

/-! ## Outcomes of showing -/

theorem contract_encode (c : Convention) (a : Address) : (c.encode a).contract.outcome = .ok a :=
  decodeBytes_encode c a

theorem display_of_contract (h : d.contract.outcome = .ok a) :
    d.display.outcome = .ok (d.convention.denomText a) := by
  have shown : (do return d.convention.denomText (← d.contract) : Attempt Text).outcome
      = .ok (d.convention.denomText a) := by
    rw [Attempt.outcome_bind_ok h]
    rfl
  exact Attempt.outcome_tryCatch_ok shown _

theorem display_encode (c : Convention) (a : Address) :
    (c.encode a).display.outcome = .ok (c.denomText a) :=
  display_of_contract (contract_encode c a)

end

/-! ## The display form is exact -/

/-- Reading text accepts the lead followed by a spelling of an address and nothing
else.  What is read is shown in another letter case at most, and it reads back.  Two
texts are read as one denomination if and only if both are read and differ in letter
case alone.  All other texts are refused for their lead, for having nothing after it,
or for what they have. -/
theorem displayForm_exact (c : Convention) :
    (∀ s, (∃ d, (c.decodeText s).outcome = .ok d) ↔ ∃ t, s = c.lead ++ t ∧ IsSpelling t) ∧
    (∀ s d, (c.decodeText s).outcome = .ok d ↔
      ∃ t a, s = c.lead ++ t ∧ Spells t a ∧ d = c.encode a) ∧
    (∀ s d, (c.decodeText s).outcome = .ok d → ∃ t u a,
      s = c.lead ++ t ∧ (c.decodeBytes d.bytes).outcome = .ok a ∧
      d.display.outcome = .ok (c.denomText a) ∧
      c.denomText a = c.lead ++ u ∧ u.lower = t.lower ∧
      (c.decodeText (c.denomText a)).outcome = .ok d) ∧
    (∀ a, (c.decodeText (c.denomText a)).outcome = .ok (c.encode a)) ∧
    (∀ t u, (∃ d, (c.decodeText (c.lead ++ t)).outcome = .ok d ∧
        (c.decodeText (c.lead ++ u)).outcome = .ok d) ↔
      (∃ d, (c.decodeText (c.lead ++ t)).outcome = .ok d) ∧
      (∃ e, (c.decodeText (c.lead ++ u)).outcome = .ok e) ∧ t.lower = u.lower) ∧
    (∀ s failure, (c.decodeText s).outcome = .error failure ↔
      (¬ c.lead <+: s ∧ failure = c.textMismatch s) ∨
      (s = c.lead ∧ failure = .fault .emptyAddress) ∨
      (∃ t, s = c.lead ++ t ∧ t ≠ [] ∧ ¬ IsSpelling t ∧
        failure = .fault (.malformedAddress (.text t) t))) := by
  refine ⟨fun s => ?_, fun _ _ => decodeText_eq_ok_iff, fun s d read => ?_,
    decodeText_denomText c, fun t u => ?_, fun s failure => ?_⟩
  · constructor
    · rintro ⟨d, read⟩
      obtain ⟨t, a, form, spelled, -⟩ := decodeText_eq_ok_iff.mp read
      exact ⟨t, form, Address.isSpelling_iff_exists.mpr ⟨a, spelled⟩⟩
    · rintro ⟨t, rfl, spelling⟩
      obtain ⟨a, spelled⟩ := Address.isSpelling_iff_exists.mp spelling
      exact ⟨c.encode a, decodeText_of_spells c spelled⟩
  · obtain ⟨t, a, form, spelled, rfl⟩ := decodeText_eq_ok_iff.mp read
    exact ⟨t, a.checksum, a, form, decodeBytes_encode c a, display_encode c a, denomText_eq c a,
      (Address.spells_checksum a).lower_eq spelled, decodeText_denomText c a⟩
  · constructor
    · rintro ⟨d, readT, readU⟩
      refine ⟨⟨d, readT⟩, ⟨d, readU⟩, ?_⟩
      obtain ⟨a, spelledT, rfl⟩ := spells_of_decodeText readT
      obtain ⟨b, spelledU, same⟩ := spells_of_decodeText readU
      exact (encode_eq_iff_lower spelledT spelledU).mp same
    · rintro ⟨⟨d, readT⟩, ⟨e, readU⟩, lower⟩
      obtain ⟨a, spelledT, rfl⟩ := spells_of_decodeText readT
      exact ⟨c.encode a, readT, decodeText_of_spells c (spelledT.of_lower_eq lower)⟩
  · rw [decodeText_eq_error_iff]
    refine or_congr_right ⟨?_, ?_⟩
    · rintro ⟨t, rfl, refused⟩
      rcases Address.refused_iff.mp refused with ⟨rfl, same⟩ | malformed
      · exact Or.inl ⟨List.append_nil c.lead, same⟩
      · exact Or.inr ⟨t, rfl, malformed⟩
    · rintro (⟨rfl, same⟩ | ⟨t, rfl, malformed⟩)
      · exact ⟨[], (List.append_nil c.lead).symm, Address.refused_iff.mpr (Or.inl ⟨rfl, same⟩)⟩
      · exact ⟨t, rfl, Address.refused_iff.mpr (Or.inr malformed)⟩

end Convention

end BridgedDenom
