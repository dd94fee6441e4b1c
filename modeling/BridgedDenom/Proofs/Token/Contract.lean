import BridgedDenom.Proofs.Address.Language
import BridgedDenom.Token.Basic

/-!
# The contract of a token

A caller gives the contract of a token as an address or as a text, and the token keeps
a text.  `KeptAs` says which one.  Whatever names an address is kept as the checksum
form of this address, and a text that names none is kept as it is.

*Constructors.*  Every one of them comes down to `ofParts`, and `ofParts` keeps what
`KeptAs` says (`ofParts_eq_ok_iff`).

*Sums.*  A sum is made of the contract of its first operand once more.  What has been
kept is kept unchanged when it is given again (`KeptAs.again`), so the contract of the
sum is the one that both operands have (`add_of_contract_eq`).

*Tokens.*  `Made` follows a token through constructors and sums, and by induction each
contract that was given on the way is the one that is kept (`Made.keptAs`).  So two
tokens made of addresses have equal contracts if and only if the addresses are equal,
however they were spelled.
-/

namespace BridgedDenom

/-! ## Faults of numbers -/

namespace Value

section
variable {limit : DigitLimit} {v w : Value} {fault : Fault}

theorem sum_ne_fault : v.sum w ≠ .error (.fault fault) := by
  intro h
  unfold sum at h
  repeat' split at h
  all_goals cases h

theorem reported_ne_fault : v.reported limit ≠ .error (.fault fault) := by
  intro h
  cases v with
  | int n =>
      rw [reported] at h
      cases written : Decimal.written? limit n <;> rw [written] at h <;> cases h
  | _ => cases h

end

end Value

namespace Token

open Address (IsSpelling Spells)

/-! ## What is kept -/

/-- A contract as a caller gives it. -/
inductive Given where
  | address (a : Address)
  | text (s : Text)

namespace Given

def value : Given → Value
  | address a => .address a
  | text s => .text s

/-- The contract names an address. -/
def Names : Given → Address → Prop
  | address a, b => a = b
  | text s, b => Spells s b

/-- The contract as text, before it is brought into the form in which it is kept. -/
def written : Given → Text
  | address a => a.checksum
  | text s => s

theorem names_iff_spells {g : Given} {a : Address} : g.Names a ↔ Spells g.written a := by
  cases g with
  | address b =>
      constructor
      · rintro rfl
        exact Address.spells_checksum b
      · exact (Address.spells_checksum b).unique
  | text s => exact Iff.rfl

theorem Names.unique {g : Given} {a b : Address} (ha : g.Names a) (hb : g.Names b) : a = b :=
  (names_iff_spells.mp ha).unique (names_iff_spells.mp hb)

end Given

/-- The text that a token keeps for a contract. -/
inductive KeptAs : Given → Text → Prop where
  | checksum {g : Given} {a : Address} : g.Names a → KeptAs g a.checksum
  | verbatim {s : Text} : ¬ IsSpelling s → KeptAs (.text s) s

section
variable {limit : DigitLimit} {g : Given} {s t : Text} {a b : Address} {token : Token}

theorem KeptAs.of_names (h : KeptAs g s) (names : g.Names a) : s = a.checksum := by
  cases h with
  | checksum names' => rw [names.unique names']
  | verbatim none => exact absurd (Address.isSpelling_iff_exists.mpr ⟨a, names⟩) none

theorem KeptAs.unique (hs : KeptAs g s) (ht : KeptAs g t) : s = t := by
  cases hs with
  | checksum names => exact (ht.of_names names).symm
  | verbatim none =>
      cases ht with
      | checksum names => exact absurd (Address.isSpelling_iff_exists.mpr ⟨_, names⟩) none
      | verbatim _ => rfl

theorem exists_keptAs (g : Given) : ∃ s, KeptAs g s := by
  cases g with
  | address a => exact ⟨a.checksum, .checksum rfl⟩
  | text s =>
      by_cases spelling : IsSpelling s
      · obtain ⟨a, spelled⟩ := Address.isSpelling_iff_exists.mp spelling
        exact ⟨a.checksum, .checksum spelled⟩
      · exact ⟨s, .verbatim spelling⟩

/-- What is kept is kept unchanged when it is given again. -/
theorem KeptAs.again (h : KeptAs g s) : KeptAs (.text s) s := by
  cases h with
  | checksum _ => exact .checksum (Address.spells_checksum _)
  | verbatim none => exact .verbatim none

/-- Writing a contract as text first does not change what is kept. -/
theorem keptAs_written : KeptAs (.text g.written) s ↔ KeptAs g s := by
  obtain ⟨t, kept⟩ := exists_keptAs g
  have written : KeptAs (.text g.written) t := by
    cases kept with
    | checksum names => exact .checksum (Given.names_iff_spells.mp names)
    | verbatim none => exact .verbatim none
  constructor
  · intro h
    rwa [h.unique written]
  · intro h
    rwa [h.unique kept]

/-! ## Constructors -/

theorem canonicalContract_of_keptAs (h : KeptAs g s) :
    canonicalContract g.value = .ok (.text s) := by
  cases h with
  | @checksum g a names =>
      cases g with
      | address b =>
          cases names
          rfl
      | text s =>
          have spelling : Address.isHexAddress s = true :=
            Address.isHexAddress_iff.mpr (Address.isSpelling_iff_exists.mpr ⟨a, names⟩)
          simp [Given.value, canonicalContract, spelling, Address.ofText_of_spells names, bind,
            Except.bind, pure, Except.pure]
  | verbatim none =>
      have other : Address.isHexAddress s = false :=
        Bool.eq_false_iff.mpr fun checked => none (Address.isHexAddress_iff.mp checked)
      simp [Given.value, canonicalContract, other]

theorem ofParts_of_keptAs (amount : Value) (h : KeptAs g s) :
    ofParts amount g.value = .ok ⟨amount, .text s⟩ := by
  simp [ofParts, canonicalContract_of_keptAs h, bind, Except.bind, pure, Except.pure]

theorem ofParts_eq_ok_iff {amount : Value} :
    ofParts amount g.value = .ok token ↔ ∃ s, KeptAs g s ∧ token = ⟨amount, .text s⟩ := by
  constructor
  · intro h
    obtain ⟨s, kept⟩ := exists_keptAs g
    rw [ofParts_of_keptAs amount kept] at h
    cases h
    exact ⟨s, kept, rfl⟩
  · rintro ⟨s, kept, rfl⟩
    exact ofParts_of_keptAs amount kept

/-! ## The other constructors -/

theorem contractText_value (g : Given) : contractText g.value = pure g.written := by
  cases g <;> rfl

theorem display_value (g : Given) : g.value.display = pure g.written := by
  cases g <;> rfl

theorem ofParts_written (amount : Value) (g : Given) :
    ofParts amount (.text g.written) = ofParts amount g.value := by
  obtain ⟨s, kept⟩ := exists_keptAs g
  rw [ofParts_of_keptAs amount kept]
  exact ofParts_of_keptAs amount (keptAs_written.mpr kept)

theorem ofParts_contractText (amount : Value) (g : Given) :
    (do Attempt.ofExcept (ofParts amount (.text (← contractText g.value))) : Attempt Token).outcome
      = ofParts amount g.value := by
  rw [contractText_value]
  exact ofParts_written amount g

theorem make_eq_ok_iff {amount : Value} : (make amount g.value).outcome = .ok token ↔
    (∃ n, amount = .int n ∧ 0 ≤ n ∧ n ≤ maxAmount) ∧ ofParts amount g.value = .ok token := by
  cases amount with
  | int n =>
      by_cases range : 0 ≤ n ∧ n ≤ maxAmount
      · simp [make, range, ofParts_contractText]
      · simp [make, range]
  | _ => simp [make]

theorem ofAmount_eq_ok_iff {amount : Value} : (ofAmount limit amount g.value).outcome = .ok token ↔
    ∃ n, amount.toInteger limit = .ok n ∧ ofParts (.int n) g.value = .ok token := by
  rw [ofAmount, Attempt.outcome_bind_eq_ok_iff]
  simp only [ofParts_contractText, Attempt.outcome_ofExcept]

theorem ofAmount_written (n : Int) (g : Given) :
    (ofAmount limit (.int n) (.text g.written)).outcome = ofParts (.int n) g.value :=
  (ofParts_contractText (.int n) (.text g.written)).trans (ofParts_written (.int n) g)

theorem field_eq_ok_iff {fields : Fields} {key : Text} {v : Value} :
    (field fields key).outcome = .ok v ↔ fields.get? key = some v := by
  unfold field
  cases fields.get? key <;> simp

theorem ofRecord_eq_ok_iff {fields : Fields} (h : fields.get? contractKey = some g.value) :
    (ofRecord limit fields).outcome = .ok token ↔
      ∃ v, fields.get? amountKey = some v ∧ ∃ n, (writtenAmount limit v).outcome = .ok n ∧
        ofParts (.int n) g.value = .ok token := by
  simp only [ofRecord, Attempt.outcome_bind_eq_ok_iff, field_eq_ok_iff, h, Option.some.injEq,
    exists_eq_left', display_value, Attempt.outcome_pure, Except.ok.injEq, ofAmount_written]

/-! ## Sums -/

/-- The failure of a sum out of range.  The sum is reported, unless it is too long. -/
def outOfRange (limit : DigitLimit) (total : Value) : Failure :=
  match total.reported limit with
  | .ok shown => .fault (.amountOverflow shown (Decimal.ofInt maxAmount))
  | .error failure => failure

/-- The sum of two amounts, which must lie in the range. -/
def addAmounts (limit : DigitLimit) (v w : Value) : Except Failure Value :=
  match v.sum w with
  | .ok total => if inRange total then .ok total else .error (outOfRange limit total)
  | .error failure => .error failure

/-- Amounts are never refused for what the contracts are. -/
theorem kind_of_addAmounts {v w : Value} {fault : Fault}
    (h : addAmounts limit v w = .error (.fault fault)) : fault.kind = .amountOverflow := by
  unfold addAmounts at h
  split at h
  next total _ =>
    split at h
    · cases h
    · have refused : outOfRange limit total = .fault fault := Except.error.inj h
      unfold outOfRange at refused
      split at refused
      · cases refused
        rfl
      next failed =>
        subst refused
        exact absurd failed Value.reported_ne_fault
  next failed =>
    cases h
    exact absurd failed Value.sum_ne_fault

theorem same_text (s t : Text) : (Value.text s).same (.text t) = (s == t) := by
  simp [Value.same]

/-- Different contracts are refused whatever the amounts are. -/
theorem add_of_contract_ne {left right : Token} (hs : left.contract = .text s)
    (ht : right.contract = .text t) (h : s ≠ t) : (left.add limit right).outcome
      = .error (.fault (.mismatchedContract left.contract right.contract)) := by
  simp [add, hs, ht, same_text, h]

/-- Of equal contracts only the amounts matter, and the sum has the contract of both. -/
theorem add_of_contract_eq {left right : Token} (kept : KeptAs (.text s) s)
    (hs : left.contract = .text s) (ht : right.contract = .text s) : (left.add limit right).outcome
      = (addAmounts limit left.amount right.amount).map fun total => ⟨total, .text s⟩ := by
  have same : ¬ (!left.contract.same right.contract) = true := by simp [hs, ht, same_text]
  rw [add, if_neg same]
  cases sum : left.amount.sum right.amount with
  | error failure =>
      rw [Attempt.outcome_bind_error (x := .ofExcept _) rfl]
      simp only [addAmounts, sum, Except.map]
  | ok total =>
      rw [Attempt.outcome_bind_ok (x := .ofExcept _) rfl]
      simp only [addAmounts, sum]
      by_cases range : inRange total = true
      · rw [if_pos range, if_pos range, hs]
        exact ofParts_of_keptAs total kept
      · rw [if_neg range, if_neg range]
        cases shown : total.reported limit with
        | error failure =>
            rw [Attempt.outcome_bind_error (x := .ofExcept _) rfl]
            simp only [outOfRange, shown, Except.map]
        | ok text =>
            rw [Attempt.outcome_bind_ok (x := .ofExcept _) rfl]
            simp only [outOfRange, shown, Except.map, Attempt.outcome_refuse]

/-- Of equal contracts, the only fault of a sum is that of its range. -/
theorem kind_of_add {left right : Token} {fault : Fault} (kept : KeptAs (.text s) s)
    (hs : left.contract = .text s) (ht : right.contract = .text s)
    (h : (left.add limit right).outcome = .error (.fault fault)) : fault.kind = .amountOverflow := by
  rw [add_of_contract_eq kept hs ht] at h
  cases sum : addAmounts limit left.amount right.amount with
  | ok total =>
      rw [sum] at h
      cases h
  | error failure =>
      rw [sum] at h
      cases h
      exact kind_of_addAmounts sum

/-- A sum that exists has the contract of both operands. -/
theorem contract_of_add {left right : Token} (hs : left.contract = .text s)
    (ht : right.contract = .text t) (kept : KeptAs (.text s) s)
    (h : (left.add limit right).outcome = .ok token) : s = t ∧ token.contract = .text s := by
  by_cases same : s = t
  · subst same
    rw [add_of_contract_eq kept hs ht] at h
    cases sum : addAmounts limit left.amount right.amount with
    | ok total =>
        rw [sum] at h
        cases h
        exact ⟨rfl, rfl⟩
    | error failure =>
        rw [sum] at h
        cases h
  · rw [add_of_contract_ne hs ht same] at h
    cases h

end

/-! ## Tokens -/

/-- The token came about by constructors and sums, and the contract was given to one of
the constructors. -/
inductive Made (limit : DigitLimit) : Token → Given → Prop where
  | ofParts {amount : Value} {g : Given} {t : Token} :
      Token.ofParts amount g.value = .ok t → Made limit t g
  | make {amount : Value} {g : Given} {t : Token} :
      (Token.make amount g.value).outcome = .ok t → Made limit t g
  | ofAmount {amount : Value} {g : Given} {t : Token} :
      (Token.ofAmount limit amount g.value).outcome = .ok t → Made limit t g
  | ofRecord {fields : Fields} {g : Given} {t : Token} :
      fields.get? contractKey = some g.value →
      (Token.ofRecord limit fields).outcome = .ok t → Made limit t g
  | addLeft {left right t : Token} {g g' : Given} : Made limit left g → Made limit right g' →
      (left.add limit right).outcome = .ok t → Made limit t g
  | addRight {left right t : Token} {g g' : Given} : Made limit left g → Made limit right g' →
      (left.add limit right).outcome = .ok t → Made limit t g'

section
variable {limit : DigitLimit} {g g' : Given} {t u : Token} {a b : Address}

theorem keptAs_of_ofParts {amount : Value} (h : ofParts amount g.value = .ok t) :
    ∃ s, t.contract = .text s ∧ KeptAs g s := by
  obtain ⟨s, kept, rfl⟩ := ofParts_eq_ok_iff.mp h
  exact ⟨s, rfl, kept⟩

/-- Every contract that was given on the way is the one that is kept.  The induction is
on the way; the two operands of a sum have kept the same text. -/
theorem Made.keptAs (h : Made limit t g) : ∃ s, t.contract = .text s ∧ KeptAs g s := by
  induction h with
  | ofParts made => exact keptAs_of_ofParts made
  | make made => exact keptAs_of_ofParts (make_eq_ok_iff.mp made).2
  | ofAmount made =>
      obtain ⟨n, -, made⟩ := ofAmount_eq_ok_iff.mp made
      exact keptAs_of_ofParts made
  | ofRecord named made =>
      obtain ⟨v, -, n, -, made⟩ := (ofRecord_eq_ok_iff named).mp made
      exact keptAs_of_ofParts made
  | addLeft _ _ sum ihLeft ihRight =>
      obtain ⟨s, left, kept⟩ := ihLeft
      obtain ⟨r, right, -⟩ := ihRight
      obtain ⟨-, contract⟩ := contract_of_add left right kept.again sum
      exact ⟨s, contract, kept⟩
  | addRight _ _ sum ihLeft ihRight =>
      obtain ⟨s, left, keptLeft⟩ := ihLeft
      obtain ⟨r, right, kept⟩ := ihRight
      obtain ⟨rfl, contract⟩ := contract_of_add left right keptLeft.again sum
      exact ⟨s, contract, kept⟩

theorem Made.contract_eq (h : Made limit t g) (names : g.Names a) :
    t.contract = .text a.checksum := by
  obtain ⟨s, contract, kept⟩ := h.keptAs
  rw [contract, kept.of_names names]

end

/-! ## Contracts are canonical -/

/-- Whichever way a token came about, what it keeps of a contract that it was given is
the checksum form of the address that is named, or the text that names none.  Checksum
forms do not change any more.  So two tokens made of addresses have equal contracts if
and only if the addresses have equal bytes, and these contracts are what decides whether
a sum is refused for them. -/
theorem contract_canonical (limit : DigitLimit) :
    (∀ (amount : Value) (g : Given), ∃ t, ofParts amount g.value = .ok t ∧ Made limit t g) ∧
    (∀ t g, Made limit t g → ∃ s, t.contract = .text s ∧ KeptAs g s) ∧
    (∀ a : Address, Address.checksumOfText a.checksum = .ok a.checksum) ∧
    (∀ t u g g' a b, Made limit t g → Made limit u g' → g.Names a → g'.Names b →
      (t.contract = u.contract ↔ a.raw = b.raw) ∧
      (a.raw = b.raw → ∀ fault, (t.add limit u).outcome = .error (.fault fault) →
        fault.kind ≠ .mismatchedContract) ∧
      (a.raw ≠ b.raw → (t.add limit u).outcome
        = .error (.fault (.mismatchedContract t.contract u.contract)))) := by
  refine ⟨fun amount g => ?_, fun _ _ made => made.keptAs,
    fun a => (Address.reads_checksumOfText _).accepts a (Address.spells_checksum a),
    fun t u g g' a b madeT madeU namesT namesU => ⟨?_, fun same fault refused => ?_, fun other => ?_⟩⟩
  · obtain ⟨s, kept⟩ := exists_keptAs g
    have made := ofParts_of_keptAs amount kept
    exact ⟨_, made, .ofParts made⟩
  · rw [madeT.contract_eq namesT, madeU.contract_eq namesU]
    constructor
    · intro h
      rw [Address.checksum_injective (Value.text.inj h)]
    · intro h
      rw [Address.eq_of_raw h]
  · cases Address.eq_of_raw same
    have kept : KeptAs (.text a.checksum) a.checksum := .checksum (Address.spells_checksum a)
    rw [kind_of_add kept (madeT.contract_eq namesT) (madeU.contract_eq namesU) refused]
    decide
  · refine add_of_contract_ne (madeT.contract_eq namesT) (madeU.contract_eq namesU) fun same => ?_
    exact other (congrArg Address.raw (Address.checksum_injective same))

end Token

end BridgedDenom
