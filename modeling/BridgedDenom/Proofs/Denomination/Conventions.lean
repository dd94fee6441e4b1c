import BridgedDenom.Proofs.Denomination.DisplayForm

/-!
# Denominations of different conventions

A denomination made under one convention and read under another is understood if and
only if the two leads are equal.  This is not for want of similar denominations: one
lead may be the beginning of another, and an address may go on with the characters
that the shorter lead lacks, so the denomination does start with the longer lead.  But
what follows a lead has one length, 20 bytes or 42 characters, so two ways to cut one
denomination into a lead and the rest cut it in the same place.

Two conventions with one lead need not be equal, since the lead may be divided
between stem and separator in several ways.
-/

namespace BridgedDenom

namespace Convention

open Address (Spells)

section
variable {c₁ c₂ : Convention} {a b : Address}

/-- Bytes are cut into a lead and an address in one way at most. -/
theorem leadBytes_append_inj :
    c₁.leadBytes ++ a.raw = c₂.leadBytes ++ b.raw ↔ c₁.lead = c₂.lead ∧ a = b := by
  constructor
  · intro h
    have lengths : a.raw.length = b.raw.length := by rw [a.length_raw, b.length_raw]
    obtain ⟨leads, raws⟩ := List.append_inj' h lengths
    exact ⟨leadBytes_inj.mp leads, Address.eq_of_raw raws⟩
  · rintro ⟨leads, rfl⟩
    rw [leadBytes_inj.mpr leads]

theorem eq_encode_iff {c : Convention} {d : Denomination} :
    d = c.encode a ↔ d.bytes = (c.encode a).bytes ∧ d.convention = c := by
  cases d
  simp [encode]

/-- A text is cut into a lead and a spelling in one way at most. -/
theorem lead_append_inj {s t : Text} (hs : Spells s a) (ht : Spells t b)
    (h : c₁.lead ++ s = c₂.lead ++ t) : c₁.lead = c₂.lead ∧ a = b := by
  have lengths : s.length = t.length := by rw [hs.length_eq, ht.length_eq]
  obtain ⟨leads, rfl⟩ := List.append_inj' h lengths
  exact ⟨leads, hs.unique ht⟩

theorem encode_bytes_congr (h : c₁.lead = c₂.lead) :
    (c₁.encode a).bytes = (c₂.encode a).bytes :=
  leadBytes_append_inj.mpr ⟨h, rfl⟩

theorem denomText_congr (h : c₁.lead = c₂.lead) : c₁.denomText a = c₂.denomText a := by
  rw [denomText_eq, denomText_eq, h]

end

/-! ## Reading under another convention -/

/-- Under another convention, bytes or text, a denomination is read if and only if the
leads are equal, and then as what it is. -/
theorem read_under_other_iff (c₁ c₂ : Convention) (a : Address) :
    (∀ b, (c₂.decodeBytes (c₁.encode a).bytes).outcome = .ok b ↔ c₁.lead = c₂.lead ∧ b = a) ∧
    (∀ d, (c₂.decodeText (c₁.denomText a)).outcome = .ok d ↔
      c₁.lead = c₂.lead ∧ d.bytes = (c₁.encode a).bytes ∧ d.convention = c₂) := by
  refine ⟨fun b => ?_, fun d => ?_⟩
  · rw [decodeBytes_eq_ok_iff, encode_bytes, encode_bytes, leadBytes_append_inj]
    exact and_congr_right' eq_comm
  · constructor
    · intro read
      obtain ⟨t, b, form, spelled, rfl⟩ := decodeText_eq_ok_iff.mp read
      obtain ⟨leads, rfl⟩ := lead_append_inj (Address.spells_checksum a) spelled form
      exact ⟨leads, encode_bytes_congr leads.symm, rfl⟩
    · rintro ⟨leads, bytes, convention⟩
      have encoded : d = c₂.encode a :=
        eq_encode_iff.mpr ⟨bytes.trans (encode_bytes_congr leads), convention⟩
      rw [denomText_congr leads, decodeText_denomText, encoded]

/-- The address completes the longer lead, and one byte too few is left. -/
example :
    let longer : Convention := ⟨"peggyA".toList, [], by decide, by decide⟩
    let a : Address := ⟨List.replicate 20 0x41, by decide⟩
    (longer.decodeBytes (default.encode a).bytes).outcome
      = .error (lengthMismatch (List.replicate 19 0x41)) := by
  rfl

end Convention

end BridgedDenom
