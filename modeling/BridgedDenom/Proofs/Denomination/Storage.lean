import BridgedDenom.Denomination.Reading

/-!
# The storage form

A byte string names an address under a convention if and only if it is the lead
followed by the bytes of the address.  Everything rests on one case distinction
(`decodeBytes_cases`): a byte string either is the denomination of an address, or it
lacks the lead, or something of another length than an address follows the lead.
Each case has its own outcome, and no two of them meet.

The length of a convention counts characters and the length of a denomination counts
bytes.  They agree since a lead is made of ASCII characters, and for the same reason
the bytes of a lead determine its characters (`leadBytes_inj`).
-/

namespace BridgedDenom

namespace Convention

section
variable {c : Convention} {data : Bytes} {a : Address} {failure : Failure}

/-! ## The bytes of a lead -/

theorem lt_of_mem_lead {x : Char} (h : x ∈ c.lead) : x.toNat < 128 := by
  have names := Text.all_isNameChar_of_isName c.isName_lead
  exact Text.lt_of_isNameChar (List.all_eq_true.mp names x h)

/-- Characters below 128 can be told apart by their bytes. -/
theorem leadBytes_inj {c₁ c₂ : Convention} : c₁.leadBytes = c₂.leadBytes ↔ c₁.lead = c₂.lead := by
  have back : ∀ c : Convention, c.leadBytes.map (fun byte => Char.ofNat byte.toNat) = c.lead := by
    intro c
    rw [leadBytes, List.map_map]
    refine (List.map_congr_left fun x mem => ?_).trans (List.map_id c.lead)
    have small := lt_of_mem_lead mem
    have exact : (UInt8.ofNat x.toNat).toNat = x.toNat := by
      rw [UInt8.toNat_ofNat']
      omega
    rw [Function.comp_apply, exact, Char.ofNat_toNat, id_eq]
  constructor
  · intro h
    rw [← back c₁, ← back c₂, h]
  · intro h
    rw [leadBytes, leadBytes, h]

/-! ## Outcomes -/

/-- The failure of bytes with something else than an address after the lead. -/
def lengthMismatch (rest : Bytes) : Failure :=
  .fault (.addressLength rest (.int Address.size))

theorem decodeBytes_of_not_prefix (h : ¬ c.leadBytes <+: data) :
    (c.decodeBytes data).outcome = .error (c.byteMismatch data) := by
  simp [decodeBytes, h]

theorem decodeBytes_encode (c : Convention) (a : Address) :
    (c.decodeBytes (c.encode a).bytes).outcome = .ok a := by
  simp [decodeBytes, Address.size, a.length_raw]

theorem events_decodeBytes_encode (c : Convention) (a : Address) :
    (c.decodeBytes (c.encode a).bytes).events = [] := by
  simp [decodeBytes, Address.size, a.length_raw]

theorem decodeBytes_of_length (c : Convention) {rest : Bytes} (h : rest.length ≠ Address.size) :
    (c.decodeBytes (c.leadBytes ++ rest)).outcome = .error (lengthMismatch rest) := by
  simp [decodeBytes, h, lengthMismatch]

/-- What a byte string can be to a convention, and what becomes of it. -/
theorem decodeBytes_cases (c : Convention) (data : Bytes) :
    (∃ a, data = (c.encode a).bytes ∧ (c.decodeBytes data).outcome = .ok a) ∨
    (¬ c.leadBytes <+: data ∧ (c.decodeBytes data).outcome = .error (c.byteMismatch data)) ∨
    (∃ rest, data = c.leadBytes ++ rest ∧ rest.length ≠ Address.size ∧
      (c.decodeBytes data).outcome = .error (lengthMismatch rest)) := by
  by_cases starts : c.leadBytes <+: data
  · obtain ⟨rest, rfl⟩ := starts
    by_cases length : rest.length = Address.size
    · exact Or.inl ⟨⟨rest, length⟩, rfl, decodeBytes_encode c ⟨rest, length⟩⟩
    · exact Or.inr (Or.inr ⟨rest, rfl, length, decodeBytes_of_length c length⟩)
  · exact Or.inr (Or.inl ⟨starts, decodeBytes_of_not_prefix starts⟩)

theorem decodeBytes_eq_ok_iff :
    (c.decodeBytes data).outcome = .ok a ↔ data = (c.encode a).bytes := by
  constructor
  · intro h
    rcases decodeBytes_cases c data with ⟨b, form, read⟩ | ⟨-, read⟩ | ⟨_, -, -, read⟩
    · rw [read] at h
      cases h
      exact form
    · rw [read] at h
      cases h
    · rw [read] at h
      cases h
  · rintro rfl
    exact decodeBytes_encode c a

theorem decodeBytes_eq_error_iff :
    (c.decodeBytes data).outcome = .error failure ↔
      (¬ c.leadBytes <+: data ∧ failure = c.byteMismatch data) ∨
      (∃ rest, data = c.leadBytes ++ rest ∧ rest.length ≠ Address.size ∧
        failure = lengthMismatch rest) := by
  constructor
  · intro h
    rcases decodeBytes_cases c data with ⟨b, -, read⟩ | ⟨starts, read⟩ | ⟨rest, form, length, read⟩
    · rw [read] at h
      cases h
    · rw [read] at h
      cases h
      exact Or.inl ⟨starts, rfl⟩
    · rw [read] at h
      cases h
      exact Or.inr ⟨rest, form, length, rfl⟩
  · rintro (⟨starts, rfl⟩ | ⟨rest, rfl, length, rfl⟩)
    · exact decodeBytes_of_not_prefix starts
    · exact decodeBytes_of_length c length

/-- Too few bytes are always refused for their lead. -/
theorem decodeBytes_of_lt (h : data.length < c.leadBytes.length) :
    (c.decodeBytes data).outcome = .error (c.byteMismatch data) := by
  refine decodeBytes_of_not_prefix fun starts => ?_
  have longer := starts.length_le
  omega

/-- The kind of the failure tells the lead from the length. -/
theorem decodeBytes_leadMismatch_iff :
    (∃ fault : Fault, (c.decodeBytes data).outcome = .error (.fault fault) ∧
      fault.kind = .leadMismatch) ↔ ¬ c.leadBytes <+: data := by
  constructor
  · rintro ⟨fault, refused, kind⟩
    rcases decodeBytes_eq_error_iff.mp refused with ⟨starts, -⟩ | ⟨rest, -, -, same⟩
    · exact starts
    · cases same
      cases kind
  · intro starts
    exact ⟨_, decodeBytes_of_not_prefix starts, rfl⟩

theorem encode_bytes_inj {b : Address} : (c.encode a).bytes = (c.encode b).bytes ↔ a = b := by
  constructor
  · intro h
    have read := decodeBytes_encode c b
    rw [← h, decodeBytes_encode c a] at read
    cases read
    rfl
  · rintro rfl
    rfl

end

/-! ## The storage form is exact -/

/-- Reading bytes accepts the denominations of a convention and nothing else, and it
gives back the address.  All other bytes are refused for their lead or else for the
length of what follows it, so that no address of another length is ever made. -/
theorem storageForm_exact (c : Convention) :
    (c.lead.ascii? = some c.leadBytes ∧ ∀ a, (c.encode a).bytes.length = c.denomLength) ∧
    (∀ data a, (c.decodeBytes data).outcome = .ok a ↔ data = c.leadBytes ++ a.raw) ∧
    (∀ data a, (c.decodeBytes data).outcome = .ok a ↔ data = (c.encode a).bytes) ∧
    (∀ a b, (c.encode a).bytes = (c.encode b).bytes ↔ a = b) ∧
    (∀ data failure, (c.decodeBytes data).outcome = .error failure ↔
      (¬ c.leadBytes <+: data ∧ failure = c.byteMismatch data) ∨
      (∃ rest, data = c.leadBytes ++ rest ∧ rest.length ≠ Address.size ∧
        failure = lengthMismatch rest)) ∧
    (∀ data, (∃ fault : Fault, (c.decodeBytes data).outcome = .error (.fault fault) ∧
      fault.kind = .leadMismatch) ↔ ¬ c.leadBytes <+: data) ∧
    (∀ data, data.length < c.leadBytes.length →
      (c.decodeBytes data).outcome = .error (c.byteMismatch data)) ∧
    (∀ rest, ∃ fault : Fault, lengthMismatch rest = .fault fault ∧ fault.kind = .addressLength ∧
      fault.data = [("address".toList, .text (Hex.encode rest)),
        ("length".toList, .int rest.length), ("expected".toList, .int 20)]) ∧
    (∀ data name expected actual,
      (c.decodeBytes data).outcome ≠ .error (.wrongLength name expected actual)) := by
  refine ⟨⟨c.ascii?_lead, c.length_encode_bytes⟩, fun _ _ => decodeBytes_eq_ok_iff,
    fun _ _ => decodeBytes_eq_ok_iff, fun _ _ => encode_bytes_inj,
    fun _ _ => decodeBytes_eq_error_iff, fun _ => decodeBytes_leadMismatch_iff,
    fun _ => decodeBytes_of_lt, fun rest => ⟨_, rfl, rfl, rfl⟩, ?_⟩
  intro data name expected actual refused
  rcases decodeBytes_eq_error_iff.mp refused with ⟨-, same⟩ | ⟨rest, -, -, same⟩
  · cases same
  · cases same

end Convention

end BridgedDenom
