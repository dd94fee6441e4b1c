import BridgedDenom.Proofs.Token.Contract

/-!
# The address of a token

A token gives the address that its contract was read as, or fails as the reading did,
since the checksum form that it keeps spells the same address (`outcome_addressOfNew`).
So tokens are one more place where a text is taken for an address, and it agrees with the
others on which texts are addresses and on how the rest is refused.
-/

namespace BridgedDenom

open Address (IsSpelling Spells Reads refusal)

namespace Token

section
variable {t : Token} {s : Text} {a : Address} {limit : DigitLimit} {g : Given}

theorem outcome_address (h : t.contract = .text s) : t.address.outcome = Address.ofText s := by
  rw [address, h, Address.outcome_ofValue]

theorem Made.address_eq (made : Made limit t g) (names : g.Names a) :
    t.address.outcome = .ok a := by
  rw [outcome_address (made.contract_eq names)]
  exact Address.ofText_of_spells (Address.spells_checksum a)

end

/-- The address of a new token of an amount and a contract. -/
def addressOfNew (amount contract : Value) : Attempt Address := do
  let token ← Attempt.ofExcept (ofParts amount contract)
  token.address

theorem outcome_addressOfNew (amount : Value) (s : Text) :
    (addressOfNew amount (.text s)).outcome = Address.ofText s := by
  obtain ⟨t, kept⟩ := exists_keptAs (.text s)
  have made : (Attempt.ofExcept (ofParts amount (.text s))).outcome = .ok ⟨amount, .text t⟩ :=
    ofParts_of_keptAs amount kept
  refine (Attempt.outcome_bind_ok made _).trans ((outcome_address rfl).trans ?_)
  cases kept with
  | @checksum _ a names =>
      rw [Address.ofText_of_spells names, Address.ofText_of_spells (Address.spells_checksum a)]
  | verbatim _ => rfl

end Token

/-! ## The entry points agree -/

namespace Address

/-- A text is accepted as an address everywhere or nowhere, and everywhere if and only
if it is a spelling.  Where it is accepted the bytes are the same, and after the check
neither their digits nor their number is refused.  Where it is not, every failure is the
same, and it names the text unless this is empty. -/
theorem entryPoints_agree (s : Text) :
    (((Value.text s).isHexAddress = true ↔ IsSpelling s) ∧
      ((∃ u, (validateValue (.text s)).outcome = .ok u) ↔ IsSpelling s) ∧
      ((∃ a, (ofValue (.text s)).outcome = .ok a) ↔ IsSpelling s) ∧
      ((∃ t, checksumOfText s = .ok t) ↔ IsSpelling s) ∧
      (∀ amount, (∃ a, (Token.addressOfNew amount (.text s)).outcome = .ok a) ↔ IsSpelling s)) ∧
    (∀ a, Spells s a →
      (ofValue (.text s)).outcome = .ok a ∧ checksumOfText s = .ok a.checksum ∧
      (∀ amount, (Token.addressOfNew amount (.text s)).outcome = .ok a) ∧
      a.raw.length = 20 ∧ (Value.text s).bytesOfHex = .ok a.raw ∧
      Hex.pairs (s.drop 2) = .ok a.raw ∧ ofBytes a.raw = .ok a) ∧
    (∀ failure,
      ((validateValue (.text s)).outcome = .error failure ↔ ¬ IsSpelling s ∧ failure = refusal s) ∧
      ((ofValue (.text s)).outcome = .error failure ↔ ¬ IsSpelling s ∧ failure = refusal s) ∧
      (checksumOfText s = .error failure ↔ ¬ IsSpelling s ∧ failure = refusal s) ∧
      (∀ amount, (Token.addressOfNew amount (.text s)).outcome = .error failure ↔
        ¬ IsSpelling s ∧ failure = refusal s) ∧
      (¬ IsSpelling s ∧ failure = refusal s ↔
        (s = [] ∧ failure = .fault .emptyAddress) ∨
        (s ≠ [] ∧ ¬ IsSpelling s ∧ failure = .fault (.malformedAddress (.text s) s)))) := by
  have value : Reads s (ofValue (.text s)).outcome id := by
    rw [outcome_ofValue]
    exact reads_ofText s
  have token : ∀ amount, Reads s (Token.addressOfNew amount (.text s)).outcome id := by
    intro amount
    rw [Token.outcome_addressOfNew]
    exact reads_ofText s
  have checked := reads_validate s
  have written := reads_checksumOfText s
  refine ⟨⟨isHexAddress_iff, ?_, value.exists_ok_iff, written.exists_ok_iff,
      fun amount => (token amount).exists_ok_iff⟩, fun a spelled => ?_,
    fun failure => ⟨checked.eq_error_iff, value.eq_error_iff, written.eq_error_iff,
      fun amount => (token amount).eq_error_iff, refused_iff⟩⟩
  · exact checked.exists_ok_iff
  · refine ⟨value.accepts a spelled, written.accepts a spelled,
      fun amount => (token amount).accepts a spelled, a.length_raw, ?_, ?_, ofBytes_raw a⟩
    · simp only [Value.bytesOfHex, Hex.ofText_of_spells spelled]
    · obtain ⟨x, digits, rfl, -, lowered⟩ := spelled
      exact Hex.pairs_of_lower lowered

end Address

end BridgedDenom
