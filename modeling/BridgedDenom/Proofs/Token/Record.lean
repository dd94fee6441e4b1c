import BridgedDenom.Proofs.Decimal.Reading
import BridgedDenom.Proofs.Token.Contract

/-!
# The record of a token

*Reading.*  A record is accepted if the text of its amount is a number, and then the token has
this number and keeps the text of the contract in its kept form.  `ReadAs` says this of the fields
of a record, and acceptance is nothing else (`ofRecord_eq_ok_iff_readAs`).

*Writing.*  The record of a token of a whole amount has the writing of the amount and the contract
that is kept (`outcome_record`).  Both parts are read back as they are: the amount within each limit
that admits its digits, and the contract since what is kept is kept again (`readAs_canonical`).

So tokens are read back from their records.  Conversely, a record that has been accepted has a
canonical form, the record of its token, with the shortest text of the amount
(`record_round_trip`).
-/

namespace BridgedDenom

namespace Token

/-- The record in which a number and a contract are written. -/
def canonicalRecord (n : Int) (contract : Text) : Fields :=
  [(amountKey, .text (Decimal.ofInt n)), (contractKey, .text contract)]

/-- The fields have a text of the number, and a text that is kept as the contract. -/
structure ReadAs (limit : DigitLimit) (fields : Fields) (n : Int) (contract : Text) : Prop where
  amount : ∃ v written, fields.get? amountKey = some v ∧ v.display.outcome = .ok written ∧
    Decimal.readInt? limit written = some n
  contract : ∃ v written, fields.get? contractKey = some v ∧ v.display.outcome = .ok written ∧
    KeptAs (.text written) contract

section
variable {limit reading : DigitLimit} {fields : Fields} {n : Int} {s : Text} {g : Given} {t : Token}

/-! ## Reading -/

theorem writtenAmount_eq_ok_iff {v : Value} : (writtenAmount limit v).outcome = .ok n ↔
    ∃ written, v.display.outcome = .ok written ∧ Decimal.readInt? limit written = some n := by
  simp only [writtenAmount, Attempt.outcome_bind_eq_ok_iff]
  refine exists_congr fun written => and_congr_right fun _ => ?_
  cases Decimal.readInt? limit written <;> simp

theorem ofAmount_text_eq_ok_iff : (ofAmount limit (.int n) (.text s)).outcome = .ok t ↔
    ∃ kept, KeptAs (.text s) kept ∧ t = ⟨.int n, .text kept⟩ := by
  rw [← ofParts_eq_ok_iff (g := .text s)]
  exact Eq.congr_left (ofAmount_written n (.text s))

/-- A record is accepted if and only if it can be read, and the token is what is read. -/
theorem ofRecord_eq_ok_iff_readAs : (ofRecord limit fields).outcome = .ok t ↔
    ∃ n s, ReadAs limit fields n s ∧ t = ⟨.int n, .text s⟩ := by
  simp only [ofRecord, Attempt.outcome_bind_eq_ok_iff, field_eq_ok_iff, writtenAmount_eq_ok_iff,
    ofAmount_text_eq_ok_iff]
  constructor
  · rintro ⟨v, amount, n, ⟨written, shown, read⟩, w, contract, text, display, s, kept, rfl⟩
    exact ⟨n, s, ⟨⟨v, written, amount, shown, read⟩, ⟨w, text, contract, display, kept⟩⟩, rfl⟩
  · rintro ⟨n, s, ⟨⟨v, written, amount, shown, read⟩, ⟨w, text, contract, display, kept⟩⟩, rfl⟩
    exact ⟨v, amount, n, ⟨written, shown, read⟩, w, contract, text, display, s, kept, rfl⟩

/-! ## Writing -/

theorem outcome_record (n : Int) (s : Text) :
    (record ⟨.int n, .text s⟩).outcome = .ok (canonicalRecord n s) := rfl

theorem readAs_canonical (read : Decimal.readInt? limit (Decimal.ofInt n) = some n)
    (kept : KeptAs g s) : ReadAs limit (canonicalRecord n s) n s where
  amount := ⟨_, Decimal.ofInt n, rfl, rfl, read⟩
  contract := ⟨_, s, rfl, rfl, kept.again⟩

theorem ofRecord_canonical (read : Decimal.readInt? limit (Decimal.ofInt n) = some n)
    (kept : KeptAs g s) :
    (ofRecord limit (canonicalRecord n s)).outcome = .ok ⟨.int n, .text s⟩ :=
  ofRecord_eq_ok_iff_readAs.mpr ⟨n, s, readAs_canonical read kept, rfl⟩

/-- What can be read can be read from its canonical form, within the same limit. -/
theorem ReadAs.canonical (h : ReadAs limit fields n s) :
    (ofRecord limit (canonicalRecord n s)).outcome = .ok ⟨.int n, .text s⟩ := by
  obtain ⟨⟨_, _, -, -, read⟩, ⟨_, _, -, -, kept⟩⟩ := h
  exact ofRecord_canonical (Decimal.readInt?_ofInt_of_readInt? read) kept

/-- A token that came about with a whole amount is read back from its record. -/
theorem ofRecord_record (made : Made limit t g) (amount : t.amount = .int n)
    (admitted : reading.admits (Decimal.ofNat n.natAbs).length = true) :
    (do ofRecord reading (← t.record) : Attempt Token).outcome = .ok t := by
  obtain ⟨s, contract, kept⟩ := made.keptAs
  obtain ⟨_, _⟩ := t
  cases amount
  cases contract
  rw [Attempt.outcome_bind_ok (outcome_record n s)]
  exact ofRecord_canonical (Decimal.readInt?_ofInt admitted) kept

end

/-! ## Records are faithful and canonical -/

/-- A token of any whole amount and any contract in text is read back from its record, in whichever
way it came about.

Conversely, let a record be accepted, however its amount and its contract are written.  The record
of its token has the shortest text of the amount and the kept form of the contract, it is accepted
for the same token, and writing this token once more changes nothing. -/
theorem record_round_trip (limit : DigitLimit) :
    (∀ n s, ∃ t, ofParts (.int n) (.text s) = .ok t ∧ t.amount = .int n ∧
      Made limit t (.text s)) ∧
    (∀ t g n, Made limit t g → t.amount = .int n →
      (do ofRecord .unbounded (← t.record) : Attempt Token).outcome = .ok t ∧
      ∀ reading : DigitLimit, reading.admits (Decimal.ofNat n.natAbs).length = true →
        (do ofRecord reading (← t.record) : Attempt Token).outcome = .ok t) ∧
    (∀ fields t, (ofRecord limit fields).outcome = .ok t → ∃ n s, ReadAs limit fields n s ∧
      t = ⟨.int n, .text s⟩ ∧ t.record.outcome = .ok (canonicalRecord n s) ∧
      Decimal.IsShortest (Decimal.ofInt n) n ∧
      (ofRecord limit (canonicalRecord n s)).outcome = .ok t ∧
      (do (← ofRecord limit (canonicalRecord n s)).record : Attempt Fields).outcome
        = .ok (canonicalRecord n s)) := by
  refine ⟨fun n s => ?_, fun t g n made amount => ⟨?_, fun reading => ?_⟩,
    fun fields t accepted => ?_⟩
  · obtain ⟨kept, keptAs⟩ := exists_keptAs (.text s)
    have parts := ofParts_of_keptAs (.int n) keptAs
    exact ⟨_, parts, rfl, .ofParts parts⟩
  · exact ofRecord_record made amount (DigitLimit.admits_unbounded _)
  · exact ofRecord_record made amount
  · obtain ⟨n, s, read, rfl⟩ := ofRecord_eq_ok_iff_readAs.mp accepted
    refine ⟨n, s, read, rfl, outcome_record n s, Decimal.isShortest_ofInt n, read.canonical, ?_⟩
    rw [Attempt.outcome_bind_ok read.canonical]
    exact outcome_record n s

/-- Blanks, a sign, zeros and an underscore are gone after one round. -/
theorem record_round_trip_spaced :
    ∃ t, (ofRecord .usual [(contractKey, .text "0xA".toList),
        (amountKey, .text " +00_12\n".toList)]).outcome = .ok t ∧
      t.record.outcome = .ok (canonicalRecord 12 "0xA".toList) ∧
      (ofRecord .usual (canonicalRecord 12 "0xA".toList)).outcome = .ok t := by
  have accepted : (ofRecord .usual [(contractKey, .text "0xA".toList),
      (amountKey, .text " +00_12\n".toList)]).outcome = .ok ⟨.int 12, .text "0xA".toList⟩ := by
    refine ofRecord_eq_ok_iff_readAs.mpr ⟨12, _, ⟨?_, ?_⟩, rfl⟩
    · exact ⟨_, _, rfl, rfl, by decide⟩
    · exact ⟨_, _, rfl, rfl, .verbatim (by decide)⟩
  obtain ⟨n, s, -, same, record, -, again, -⟩ := (record_round_trip .usual).2.2 _ _ accepted
  cases same
  exact ⟨_, accepted, record, again⟩

end Token

end BridgedDenom
