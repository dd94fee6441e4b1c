import BridgedDenom.Proofs.Denomination.DisplayForm

/-!
# Denominations in messages

Every byte string can be shown.  Reading it fails with faults of the denomination
branch only, and those are the failures that `Denomination.display` turns into a text:
the bytes in hex, followed by the reason in parentheses.

Nothing is lost by showing.  The two kinds of text cannot be confused, whatever the
lead is and whatever the reason says: a display form ends in a hex digit, the other
text in a parenthesis.  Within each kind the bytes can be found again.  A display form
reads back, and in the other text the bytes end where the first parenthesis opens.
-/

namespace BridgedDenom

open Address (IsSpelling)

namespace Denomination

/-- The text shown for bytes that name no contract. -/
def fallback (data : Bytes) (failure : Failure) : Text :=
  Hex.encode data ++ "(error: ".toList ++ failure.message ++ ")".toList

section
variable {d : Denomination} {data data' : Bytes} {failure failure' : Failure}

/-! ## Parentheses -/

theorem getLast?_fallback (data : Bytes) (failure : Failure) :
    (fallback data failure).getLast? = some ')' := by
  rw [fallback, List.getLast?_append]
  rfl

/-- No text that ends in a spelling is a fallback. -/
theorem fallback_ne_append {s t : Text} (h : IsSpelling t) : fallback data failure ≠ s ++ t := by
  intro same
  obtain ⟨c, mem, last⟩ := h.getLast?
  have closes : some ')' = some c := by
    rw [← getLast?_fallback data failure, same, List.getLast?_append, last]
    rfl
  cases closes
  exact absurd mem (by decide)

/-- The hex digits of a fallback end where a parenthesis opens. -/
theorem takeWhile_fallback (data : Bytes) (failure : Failure) :
    (fallback data failure).takeWhile (· != '(') = Hex.encode data := by
  have digits : ∀ c ∈ Hex.encode data, (c != '(') = true := by
    intro c mem
    have digit := Hex.isDigit_of_lower (Hex.lower_encode data) c mem
    have checked : Hex.alphabet.all (· != '(') = true := by decide
    exact List.all_eq_true.mp checked c (Hex.isDigit_iff_mem_alphabet.mp digit)
  have form : fallback data failure
      = Hex.encode data ++ '(' :: ("error: ".toList ++ failure.message ++ ")".toList) := by
    simp [fallback]
  rw [form, List.takeWhile_append_of_pos digits]
  exact List.append_nil _

/-- The bytes of a fallback can be found again. -/
theorem eq_of_fallback_eq (h : fallback data failure = fallback data' failure') : data = data' := by
  have digits : Hex.encode data = Hex.encode data' := by
    rw [← takeWhile_fallback data failure, h, takeWhile_fallback]
  exact Hex.encode_injective digits

end

end Denomination

namespace Convention

open Denomination (fallback)

section
variable {c : Convention} {data : Bytes} {shown : Text} {a : Address} {d : Denomination}
  {failure : Failure}

/-! ## Two kinds of text -/

/-- Bytes are refused with faults of the denomination branch only. -/
theorem isDenomFault_of_decodeBytes (h : (c.decodeBytes data).outcome = .error failure) :
    failure.isDenomFault = true := by
  rcases decodeBytes_eq_error_iff.mp h with ⟨-, rfl⟩ | ⟨rest, -, -, rfl⟩
  · rfl
  · rfl

theorem display_of_contract_error (h : d.contract.outcome = .error failure) :
    d.display.outcome = .ok (fallback d.bytes failure) := by
  have failed : (do return d.convention.denomText (← d.contract) : Attempt Text).outcome
      = .error failure := Attempt.outcome_bind_error h _
  refine (Attempt.outcome_tryCatch_error failed _).trans ?_
  rw [isDenomFault_of_decodeBytes h]
  rfl

theorem fallback_ne_denomText : fallback data failure ≠ c.denomText a := by
  rw [denomText_eq]
  exact Denomination.fallback_ne_append (Address.isSpelling_checksum a)

/-- A fallback is read under no convention. -/
theorem decodeText_fallback_ne_ok : (c.decodeText (fallback data failure)).outcome ≠ .ok d := by
  intro read
  obtain ⟨t, a, form, spelled, -⟩ := decodeText_eq_ok_iff.mp read
  exact Denomination.fallback_ne_append (Address.isSpelling_iff_exists.mpr ⟨a, spelled⟩) form

/-- What a byte string can be to a convention, and how it is shown. -/
theorem display_cases (c : Convention) (data : Bytes) :
    (∃ a, (⟨data, c⟩ : Denomination) = c.encode a ∧
      (⟨data, c⟩ : Denomination).contract.outcome = .ok a ∧
      (⟨data, c⟩ : Denomination).display.outcome = .ok (c.denomText a)) ∨
    (∃ failure, (⟨data, c⟩ : Denomination).contract.outcome = .error failure ∧
      (⟨data, c⟩ : Denomination).display.outcome = .ok (fallback data failure)) := by
  cases read : (⟨data, c⟩ : Denomination).contract.outcome with
  | ok a =>
      obtain rfl : data = (c.encode a).bytes := decodeBytes_eq_ok_iff.mp read
      exact Or.inl ⟨a, rfl, rfl, display_of_contract read⟩
  | error failure =>
      exact Or.inr ⟨failure, rfl, display_of_contract_error read⟩

theorem display_total (c : Convention) (data : Bytes) :
    ∃ shown, (⟨data, c⟩ : Denomination).display.outcome = .ok shown := by
  rcases display_cases c data with ⟨a, -, -, display⟩ | ⟨failure, -, display⟩
  · exact ⟨_, display⟩
  · exact ⟨_, display⟩

/-- A fallback is shown if and only if the bytes name no contract. -/
theorem shown_fallback_iff (h : (⟨data, c⟩ : Denomination).display.outcome = .ok shown) :
    (∃ failure, shown = fallback data failure) ↔
      ∃ failure, (⟨data, c⟩ : Denomination).contract.outcome = .error failure := by
  rcases display_cases c data with ⟨a, -, read, display⟩ | ⟨failure, refused, display⟩
  · rw [display] at h
    cases h
    constructor
    · rintro ⟨failure, same⟩
      exact absurd same.symm fallback_ne_denomText
    · rintro ⟨failure, refused⟩
      rw [read] at refused
      cases refused
  · rw [display] at h
    cases h
    exact iff_of_true ⟨failure, rfl⟩ ⟨failure, refused⟩

/-- What is shown reads back if and only if the bytes were read. -/
theorem decodeText_shown_iff (h : (⟨data, c⟩ : Denomination).display.outcome = .ok shown) :
    (c.decodeText shown).outcome = .ok d ↔
      (∃ a, (c.decodeBytes data).outcome = .ok a) ∧ d = ⟨data, c⟩ := by
  rcases display_cases c data with ⟨a, encoded, read, display⟩ | ⟨failure, refused, display⟩
  · rw [display] at h
    cases h
    rw [decodeText_denomText, ← encoded]
    constructor
    · intro same
      exact ⟨⟨a, read⟩, (Except.ok.inj same).symm⟩
    · rintro ⟨-, rfl⟩
      rfl
  · rw [display] at h
    cases h
    constructor
    · intro read
      exact absurd read decodeText_fallback_ne_ok
    · rintro ⟨⟨a, read⟩, -⟩
      have refused : (c.decodeBytes data).outcome = .error failure := refused
      rw [refused] at read
      cases read

/-- One text is shown for one byte string only.  A display form reads back as the
bytes, and a fallback contains them. -/
theorem eq_of_display_eq {data' : Bytes}
    (h : (⟨data, c⟩ : Denomination).display.outcome = .ok shown)
    (h' : (⟨data', c⟩ : Denomination).display.outcome = .ok shown) : data = data' := by
  rcases display_cases c data with ⟨a, encoded, read, display⟩ | ⟨failure, -, display⟩
  · have back : (c.decodeText shown).outcome = .ok ⟨data, c⟩ :=
      (decodeText_shown_iff h).mpr ⟨⟨a, read⟩, rfl⟩
    exact congrArg Denomination.bytes ((decodeText_shown_iff h').mp back).2
  · rw [display] at h
    cases h
    rcases display_cases c data' with ⟨b, -, -, display'⟩ | ⟨failure', -, display'⟩
    · rw [display'] at h'
      exact absurd (Except.ok.inj h').symm fallback_ne_denomText
    · rw [display'] at h'
      exact (Denomination.eq_of_fallback_eq (Except.ok.inj h')).symm

end

/-! ## Showing is total and faithful -/

/-- Every byte string is shown, as a fallback if and only if it names no contract.
What is shown is read if and only if the byte string was a denomination, and as this
one.  Different byte strings are shown as different texts. -/
theorem display_exact (c : Convention) :
    (∀ data, ∃ shown, (⟨data, c⟩ : Denomination).display.outcome = .ok shown ∧
      (∀ a, (⟨data, c⟩ : Denomination).contract.outcome = .ok a → shown = c.denomText a) ∧
      (∀ failure, (⟨data, c⟩ : Denomination).contract.outcome = .error failure →
        shown = fallback data failure) ∧
      ((∃ failure, shown = fallback data failure) ↔
        ∃ failure, (⟨data, c⟩ : Denomination).contract.outcome = .error failure) ∧
      (∀ d, (c.decodeText shown).outcome = .ok d ↔
        (∃ a, (c.decodeBytes data).outcome = .ok a) ∧ d = ⟨data, c⟩)) ∧
    (∀ data failure d, (c.decodeText (fallback data failure)).outcome ≠ .ok d) ∧
    (∀ data data', (⟨data, c⟩ : Denomination).display.outcome
      = (⟨data', c⟩ : Denomination).display.outcome ↔ data = data') := by
  refine ⟨fun data => ?_, fun _ _ _ => decodeText_fallback_ne_ok, fun data data' => ?_⟩
  · rcases display_cases c data with ⟨a, -, read, display⟩ | ⟨failure, refused, display⟩
    · refine ⟨_, display, fun b read' => ?_, fun failure refused => ?_,
        shown_fallback_iff display, fun _ => decodeText_shown_iff display⟩
      · rw [read] at read'
        cases read'
        rfl
      · rw [read] at refused
        cases refused
    · refine ⟨_, display, fun a read => ?_, fun failure' refused' => ?_,
        shown_fallback_iff display, fun _ => decodeText_shown_iff display⟩
      · rw [refused] at read
        cases read
      · rw [refused] at refused'
        cases refused'
        rfl
  · constructor
    · intro same
      obtain ⟨shown, display⟩ := display_total c data
      exact eq_of_display_eq display (same.symm.trans display)
    · rintro rfl
      rfl

end Convention

end BridgedDenom
