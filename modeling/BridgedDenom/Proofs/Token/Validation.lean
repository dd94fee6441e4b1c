import BridgedDenom.Proofs.Convention.Grammar
import BridgedDenom.Proofs.Denomination.Message
import BridgedDenom.Proofs.Token.Coin
import BridgedDenom.Proofs.Token.Sum

/-!
# Validating tokens

A token is valid if and only if its contract is a text that spells an address, its amount is
an integer above zero of at most 256 bits, and the lead of the convention leaves room for an
address among the 128 characters of a denomination (`IsValid`).  The last condition does not
depend on the address, since all display forms of a convention have one length and no
character of theirs is foreign to denominations (`isNativeName_denomText`).

Whatever is not valid is refused, and `Invalid` lists the refusals.  The contract is looked
at before the coin, and the coin before the sign of the amount, so that zero is refused for
its sign only where a larger amount would have been accepted.  By `valid_or_invalid` nothing
else happens, whatever values the amount and the contract are (`validation_exact`).
-/

namespace BridgedDenom

open Address (IsSpelling Spells)

/-! ## Denominations of the native chain -/

namespace Coin

/-- A denomination of the native chain: a letter and 2 to 127 characters of names. -/
def IsNativeName (s : Text) : Prop :=
  ∃ x rest, s = x :: rest ∧ x ∈ Text.letters ∧ 2 ≤ rest.length ∧ rest.length ≤ 127 ∧
    ∀ d ∈ rest, d ∈ Text.nameAlphabet

theorem isDenom_iff {s : Text} : isDenom s = true ↔ IsNativeName s := by
  simp only [isDenom, Bool.and_eq_true, decide_eq_true_eq, Convention.isName_iff]
  constructor
  · rintro ⟨⟨⟨x, rest, rfl, letter, inside⟩, least⟩, most⟩
    rw [List.length_cons] at least most
    exact ⟨x, rest, rfl, letter, by omega, by omega, inside⟩
  · rintro ⟨x, rest, rfl, letter, least, most, inside⟩
    rw [List.length_cons]
    exact ⟨⟨⟨x, rest, rfl, letter, inside⟩, by omega⟩, by omega⟩

end Coin

namespace Address

/-- The characters of a spelling may all stand in a name. -/
theorem IsSpelling.all_isNameChar {s : Text} (h : IsSpelling s) :
    s.all Text.isNameChar = true := by
  obtain ⟨x, digits, rfl, mark, -, inside⟩ := h
  have zero : Text.isNameChar '0' = true := by decide
  have marks : Text.isNameChar x = true := by rcases mark with rfl | rfl <;> decide
  have checked : Hex.alphabet.all Text.isNameChar = true := by decide
  simp only [List.all_cons, zero, marks, Bool.true_and, List.all_eq_true]
  exact fun c mem => List.all_eq_true.mp checked c (inside c mem)

end Address

namespace Convention

theorem length_denomText (c : Convention) (a : Address) :
    (c.denomText a).length = c.lead.length + 42 := by
  rw [denomText_eq, List.length_append, (Address.spells_checksum a).length_eq]

theorem isName_denomText (c : Convention) (a : Address) : (c.denomText a).isName = true :=
  Text.isName_append c.isName_lead (Address.isSpelling_checksum a).all_isNameChar

/-- A display form is a denomination of the native chain if it is not too long. -/
theorem isDenom_denomText {c : Convention} {a : Address} :
    Coin.isDenom (c.denomText a) = true ↔ c.lead.length ≤ 86 := by
  simp only [Coin.isDenom, isName_denomText, length_denomText, Bool.true_and, Bool.and_eq_true,
    decide_eq_true_eq]
  omega

theorem isNativeName_denomText {c : Convention} {a : Address} :
    Coin.IsNativeName (c.denomText a) ↔ c.lead.length ≤ 86 :=
  Coin.isDenom_iff.symm.trans isDenom_denomText

end Convention

/-- Every value has a text in a message. -/
theorem Value.exists_display (v : Value) : ∃ shown, v.display.outcome = .ok shown := by
  cases v with
  | denom d => exact Convention.display_total d.convention d.bytes
  | _ => exact ⟨_, rfl⟩

namespace Token

/-! ## Valid and invalid tokens -/

/-- The value is a text that spells an address. -/
def NamesAddress (contract : Value) : Prop := ∃ s, contract = .text s ∧ IsSpelling s

/-- The value is an integer that a coin may have: not negative and of at most 256 bits. -/
def IsCoinAmount (amount : Value) : Prop := ∃ n : Int, amount = .int n ∧ 0 ≤ n ∧ n < 2 ^ 256

/-- What validation asks of a token. -/
def IsValid (c : Convention) (t : Token) : Prop :=
  NamesAddress t.contract ∧ c.lead.length ≤ 86 ∧
    ∃ n : Int, t.amount = .int n ∧ 1 ≤ n ∧ n < 2 ^ 256

/-- The failure of a contract that names no address, for the fault of its text. -/
def invalidContract (contract : Value) (fault : Fault) : Failure :=
  .fault (.invalidAddress contract (some (.fault fault.toReport)))

/-- Why a token is refused. -/
inductive Invalid (c : Convention) (t : Token) : Failure → Prop where
  | noContract : t.contract = .text [] →
      Invalid c t (invalidContract t.contract .emptyAddress)
  | contract {shown : Text} : t.contract ≠ .text [] → ¬ NamesAddress t.contract →
      t.contract.display.outcome = .ok shown →
      Invalid c t (invalidContract t.contract (.malformedAddress (.text shown) shown))
  | coin {s shown : Text} {a : Address} : t.contract = .text s → Spells s a →
      ¬ (c.lead.length ≤ 86 ∧ IsCoinAmount t.amount) → t.amount.display.outcome = .ok shown →
      Invalid c t (invalidCoin (shown ++ c.denomText a) "invalid coin".toList)
  | sign {s : Text} {a : Address} : t.contract = .text s → Spells s a → c.lead.length ≤ 86 →
      t.amount = .int 0 →
      Invalid c t (invalidCoin ('0' :: c.denomText a) "amount must be positive".toList)

section
variable {c : Convention} {t : Token} {v : Value} {s shown : Text} {a : Address} {coin : Coin}
  {failure : Failure}

theorem not_namesAddress_nil : ¬ NamesAddress (.text []) := by
  rintro ⟨s, same, spelling⟩
  cases same
  exact Address.not_isSpelling_nil spelling

theorem namesAddress_of_spells (contract : v = .text s) (spelled : Spells s a) : NamesAddress v :=
  ⟨s, contract, Address.isSpelling_iff_exists.mpr ⟨a, spelled⟩⟩

/-- A token is valid or there is a reason to refuse it. -/
theorem valid_or_invalid (c : Convention) (t : Token) :
    IsValid c t ∨ ∃ failure, Invalid c t failure := by
  by_cases names : NamesAddress t.contract
  case neg =>
    by_cases empty : t.contract = .text []
    · exact .inr ⟨_, .noContract empty⟩
    · obtain ⟨shown, display⟩ := t.contract.exists_display
      exact .inr ⟨_, .contract empty names display⟩
  case pos =>
    obtain ⟨s, contract, spelling⟩ := names
    obtain ⟨a, spelled⟩ := Address.isSpelling_iff_exists.mp spelling
    by_cases valid : c.lead.length ≤ 86 ∧ IsCoinAmount t.amount
    case neg =>
      obtain ⟨shown, display⟩ := t.amount.exists_display
      exact .inr ⟨_, .coin contract spelled valid display⟩
    case pos =>
      obtain ⟨short, n, amount, nonneg, small⟩ := valid
      by_cases zero : n = 0
      · exact .inr ⟨_, .sign contract spelled short (zero ▸ amount)⟩
      · exact .inl ⟨⟨s, contract, spelling⟩, short, n, amount, by omega, small⟩

/-! ## The check of the contract -/

theorem validateValue_of_namesAddress (names : NamesAddress v) :
    (Address.validateValue v).outcome = .ok () := by
  obtain ⟨s, rfl, spelling⟩ := names
  exact Address.validate_of_isSpelling spelling

/-- Text is refused by itself and any other value by its text. -/
theorem validateValue_of_display (other : v ≠ .text []) (none : ¬ NamesAddress v)
    (display : v.display.outcome = .ok shown) :
    (Address.validateValue v).outcome = .error (.fault (.malformedAddress (.text shown) shown)) := by
  cases v with
  | text s =>
      obtain rfl : s = shown := Except.ok.inj display
      have nonempty : s ≠ [] := fun empty => other (congrArg Value.text empty)
      have refused : (Address.validateValue (.text s)).outcome = .error (Address.refusal s) :=
        Address.validate_of_not_isSpelling fun spelling => none ⟨s, rfl, spelling⟩
      rw [refused, Address.refusal, if_neg nonempty]
  | _ => exact Attempt.outcome_bind_ok display _

theorem validate_of_refused {fault : Fault} (syntactic : fault.kind.branch = .addressSyntax)
    (unchained : fault.chain = none)
    (refused : (Address.validateValue t.contract).outcome = .error (.fault fault)) :
    (t.validate c).outcome = .error (invalidContract t.contract fault) := by
  have wrapped : wrapAddressFault t.contract (.fault fault) = invalidContract t.contract fault := by
    simp only [wrapAddressFault, if_pos syntactic, Fault.asCause, unchained, invalidContract]
  rw [validate, Attempt.outcome_bind_error (Attempt.outcome_tryCatch_error refused _), wrapped]

/-! ## The check of the coin -/

theorem coin_of_spells (c : Convention) (contract : t.contract = .text s) (spelled : Spells s a) :
    (t.coin c).outcome = .ok ⟨.text (c.denomText a), t.amount⟩ := by
  have address : t.address.outcome = .ok a := by
    rw [outcome_address contract, Address.ofText_of_spells spelled]
  exact Attempt.outcome_bind_ok address _

theorem display_coinOf (s : Text) (display : v.display.outcome = .ok shown) :
    (Coin.display ⟨.text s, v⟩).outcome = .ok (shown ++ s) :=
  Attempt.outcome_bind_ok display _

theorem isAmount_iff : Coin.isAmount v = true ↔ IsCoinAmount v := by
  have bits : ((Nat.pow 2 Coin.maxBits : Nat) : Int) = 2 ^ 256 := rfl
  cases v with
  | int n =>
      simp only [Coin.isAmount, IsCoinAmount, bits, Bool.and_eq_true, decide_eq_true_eq,
        Value.int.injEq, exists_eq_left']
  | _ => simp [Coin.isAmount, IsCoinAmount]

/-- The coin is valid: its denomination is not too long and its amount is one for coins. -/
theorem isValid_coin_iff : Coin.isValid ⟨.text (c.denomText a), v⟩ = true ↔
    c.lead.length ≤ 86 ∧ IsCoinAmount v := by
  simp only [Coin.isValid, Coin.isDenomValue, Bool.and_eq_true, Convention.isDenom_denomText,
    isAmount_iff]

theorem isPositive_intCoin {n : Int} : Coin.isPositive ⟨.text s, .int n⟩ = true ↔ 0 < n := by
  simp [Coin.isPositive, Value.integer?]

/-- The part of validation that looks at the coin. -/
def checkCoin (coin : Coin) : Attempt Unit := do
  if !coin.isValid then throw (invalidCoin (← coin.display) "invalid coin".toList)
  if !coin.isPositive then
    throw (invalidCoin (← coin.display) "amount must be positive".toList)

theorem validate_eq_check (c : Convention) (contract : t.contract = .text s)
    (spelled : Spells s a) :
    (t.validate c).outcome = (checkCoin ⟨.text (c.denomText a), t.amount⟩).outcome := by
  have accepted : (Address.validateValue t.contract).outcome = .ok () :=
    validateValue_of_namesAddress (namesAddress_of_spells contract spelled)
  rw [validate, Attempt.outcome_bind_ok (Attempt.outcome_tryCatch_ok accepted _),
    Attempt.outcome_bind_ok (coin_of_spells c contract spelled)]
  rfl

theorem checkCoin_of_invalid (bad : coin.isValid = false)
    (display : coin.display.outcome = .ok shown) :
    (checkCoin coin).outcome = .error (invalidCoin shown "invalid coin".toList) := by
  have stops : (!coin.isValid) = true := by rw [bad]; rfl
  rw [checkCoin, if_pos stops, Attempt.outcome_bind_ok display]
  exact Attempt.outcome_bind_error (Attempt.outcome_throw _) _

theorem checkCoin_of_not_positive (valid : coin.isValid = true) (bad : coin.isPositive = false)
    (display : coin.display.outcome = .ok shown) :
    (checkCoin coin).outcome = .error (invalidCoin shown "amount must be positive".toList) := by
  have goesOn : ¬ (!coin.isValid) = true := by rw [valid]; decide
  have stops : (!coin.isPositive) = true := by rw [bad]; rfl
  rw [checkCoin, if_neg goesOn, if_pos stops, Attempt.outcome_bind_ok display]
  rfl

theorem checkCoin_of_positive (valid : coin.isValid = true) (positive : coin.isPositive = true) :
    (checkCoin coin).outcome = .ok () := by
  have goesOn : ¬ (!coin.isValid) = true := by rw [valid]; decide
  have ends : ¬ (!coin.isPositive) = true := by rw [positive]; decide
  rw [checkCoin, if_neg goesOn, if_neg ends]
  rfl

/-! ## Outcomes -/

theorem validate_of_isValid (valid : IsValid c t) : (t.validate c).outcome = .ok () := by
  obtain ⟨⟨s, contract, spelling⟩, short, n, amount, positive, small⟩ := valid
  obtain ⟨a, spelled⟩ := Address.isSpelling_iff_exists.mp spelling
  rw [validate_eq_check c contract spelled, amount]
  exact checkCoin_of_positive (isValid_coin_iff.mpr ⟨short, n, rfl, by omega, small⟩)
    (isPositive_intCoin.mpr (by omega))

theorem validate_of_invalid (invalid : Invalid c t failure) :
    (t.validate c).outcome = .error failure := by
  cases invalid with
  | noContract empty =>
      refine validate_of_refused rfl rfl ?_
      rw [empty]
      rfl
  | contract other none display =>
      exact validate_of_refused rfl rfl (validateValue_of_display other none display)
  | @coin s shown a contract spelled bad display =>
      have bad : Coin.isValid ⟨.text (c.denomText a), t.amount⟩ = false :=
        Bool.eq_false_iff.mpr (mt isValid_coin_iff.mp bad)
      rw [validate_eq_check c contract spelled, checkCoin_of_invalid bad (display_coinOf _ display)]
  | @sign s a contract spelled short amount =>
      have valid : Coin.isValid ⟨.text (c.denomText a), .int 0⟩ = true :=
        isValid_coin_iff.mpr ⟨short, 0, rfl, by decide, by decide⟩
      rw [validate_eq_check c contract spelled, amount]
      exact checkCoin_of_not_positive valid rfl rfl

theorem validate_eq_ok_iff : (t.validate c).outcome = .ok () ↔ IsValid c t := by
  constructor
  · intro accepted
    rcases valid_or_invalid c t with valid | ⟨failure, invalid⟩
    · exact valid
    · rw [validate_of_invalid invalid] at accepted
      cases accepted
  · exact validate_of_isValid

theorem validate_eq_error_iff : (t.validate c).outcome = .error failure ↔ Invalid c t failure := by
  constructor
  · intro refused
    rcases valid_or_invalid c t with valid | ⟨cause, invalid⟩
    · rw [validate_of_isValid valid] at refused
      cases refused
    · rw [validate_of_invalid invalid] at refused
      cases refused
      exact invalid
  · exact validate_of_invalid

/-! ## Kinds of refusals -/

/-- The failure is a fault of a kind. -/
def IsFault (kind : Fault.Kind) (failure : Failure) : Prop :=
  ∃ fault, failure = .fault fault ∧ fault.kind = kind

theorem isFault_invalidContract (contract : Value) (fault : Fault) :
    IsFault .invalidAddress (invalidContract contract fault) := ⟨_, rfl, rfl⟩

theorem not_isFault_invalidCoin (shown reason : Text) :
    ¬ IsFault .invalidAddress (invalidCoin shown reason) := by
  rintro ⟨fault, same, kind⟩
  cases same
  cases kind

theorem kind_eq_of_invalidContract_eq {contract contract' : Value} {fault fault' : Fault}
    (same : invalidContract contract fault = invalidContract contract' fault') :
    fault.kind = fault'.kind := by
  simp only [invalidContract, Failure.fault.injEq] at same
  have causes := congrArg (fun fault => fault.cause) same
  simp only [Fault.invalidAddress, Fault.make, Fault.cause_ofReport, Option.some.injEq,
    Fault.Cause.fault.injEq] at causes
  rw [causes]

theorem reason_eq_of_invalidCoin_eq {shown shown' reason reason' : Text}
    (same : invalidCoin shown reason = invalidCoin shown' reason') : reason = reason' := by
  simp only [invalidCoin, Failure.fault.injEq] at same
  have data := congrArg (fun fault => fault.data) same
  simp only [Fault.invalidAmount, Fault.make, Fault.ofReport, List.cons.injEq, Prod.mk.injEq,
    Value.text.injEq] at data
  exact data.2.1.2

theorem invalidContract_ne_invalidCoin {contract : Value} {fault : Fault} {shown reason : Text} :
    invalidContract contract fault ≠ invalidCoin shown reason := fun same =>
  not_isFault_invalidCoin shown reason (same ▸ isFault_invalidContract contract fault)

/-- The contract is refused, whatever the amount is. -/
theorem refused_for_contract_iff :
    (∃ failure, (t.validate c).outcome = .error failure ∧ IsFault .invalidAddress failure) ↔
      ¬ NamesAddress t.contract := by
  simp only [validate_eq_error_iff]
  constructor
  · rintro ⟨failure, invalid, kind⟩
    cases invalid with
    | noContract empty => exact empty ▸ not_namesAddress_nil
    | contract other none display => exact none
    | coin => exact absurd kind (not_isFault_invalidCoin _ _)
    | sign => exact absurd kind (not_isFault_invalidCoin _ _)
  · intro none
    by_cases empty : t.contract = .text []
    · exact ⟨_, .noContract empty, isFault_invalidContract _ _⟩
    · obtain ⟨shown, display⟩ := t.contract.exists_display
      exact ⟨_, .contract empty none display, isFault_invalidContract _ _⟩

theorem refused_for_no_contract_iff :
    (t.validate c).outcome = .error (invalidContract t.contract .emptyAddress) ↔
      t.contract = .text [] := by
  rw [validate_eq_error_iff]
  constructor
  · intro invalid
    generalize same : invalidContract t.contract .emptyAddress = failure at invalid
    cases invalid with
    | noContract empty => exact empty
    | contract => cases kind_eq_of_invalidContract_eq same
    | coin => exact absurd same invalidContract_ne_invalidCoin
    | sign => exact absurd same invalidContract_ne_invalidCoin
  · exact .noContract

theorem refused_for_malformed_contract_iff :
    (∃ shown, (t.validate c).outcome
        = .error (invalidContract t.contract (.malformedAddress (.text shown) shown))) ↔
      t.contract ≠ .text [] ∧ ¬ NamesAddress t.contract := by
  simp only [validate_eq_error_iff]
  constructor
  · rintro ⟨shown, invalid⟩
    generalize same : invalidContract t.contract _ = failure at invalid
    cases invalid with
    | noContract => cases kind_eq_of_invalidContract_eq same
    | contract other none => exact ⟨other, none⟩
    | coin => exact absurd same invalidContract_ne_invalidCoin
    | sign => exact absurd same invalidContract_ne_invalidCoin
  · rintro ⟨other, none⟩
    obtain ⟨shown, display⟩ := t.contract.exists_display
    exact ⟨shown, .contract other none display⟩

theorem refused_for_sign_iff :
    (∃ shown, (t.validate c).outcome
        = .error (invalidCoin shown "amount must be positive".toList)) ↔
      NamesAddress t.contract ∧ c.lead.length ≤ 86 ∧ t.amount = .int 0 := by
  simp only [validate_eq_error_iff]
  constructor
  · rintro ⟨shown, invalid⟩
    generalize same : invalidCoin shown _ = failure at invalid
    cases invalid with
    | noContract => exact absurd same.symm invalidContract_ne_invalidCoin
    | contract => exact absurd same.symm invalidContract_ne_invalidCoin
    | coin => cases reason_eq_of_invalidCoin_eq same
    | sign contract spelled short amount =>
        exact ⟨namesAddress_of_spells contract spelled, short, amount⟩
  · rintro ⟨⟨s, contract, spelling⟩, short, amount⟩
    obtain ⟨a, spelled⟩ := Address.isSpelling_iff_exists.mp spelling
    exact ⟨_, .sign contract spelled short amount⟩

/-- Whatever is neither valid nor refused for its contract or its sign makes no coin. -/
theorem refused_for_coin_iff :
    (∃ shown, (t.validate c).outcome = .error (invalidCoin shown "invalid coin".toList)) ↔
      NamesAddress t.contract ∧ ¬ IsValid c t ∧
        ¬ (c.lead.length ≤ 86 ∧ t.amount = .int 0) := by
  simp only [validate_eq_error_iff]
  constructor
  · rintro ⟨shown, invalid⟩
    generalize same : invalidCoin shown _ = failure at invalid
    cases invalid with
    | noContract => exact absurd same.symm invalidContract_ne_invalidCoin
    | contract => exact absurd same.symm invalidContract_ne_invalidCoin
    | coin contract spelled bad =>
        refine ⟨namesAddress_of_spells contract spelled, ?_, ?_⟩
        · rintro ⟨-, short, n, amount, positive, small⟩
          exact bad ⟨short, n, amount, by omega, small⟩
        · rintro ⟨short, amount⟩
          exact bad ⟨short, 0, amount, by decide, by decide⟩
    | sign => cases reason_eq_of_invalidCoin_eq same
  · rintro ⟨names, invalid, sign⟩
    rcases valid_or_invalid c t with valid | ⟨failure, refusal⟩
    · exact absurd valid invalid
    cases refusal with
    | noContract empty => exact absurd (empty ▸ names) not_namesAddress_nil
    | contract other none => exact absurd names none
    | coin contract spelled bad display => exact ⟨_, .coin contract spelled bad display⟩
    | sign contract spelled short amount => exact absurd ⟨short, amount⟩ sign

end

/-- A token is accepted if it is valid.  All else is refused for a reason that its contract,
its amount and the length of the lead decide, in this order: the contract, the coin, the sign
of the amount. -/
theorem validation_exact (c : Convention) (t : Token) :
    ((t.validate c).outcome = .ok () ↔ IsValid c t) ∧
      (∀ a, Coin.IsNativeName (c.denomText a) ↔ c.lead.length ≤ 86) ∧
      ((∃ failure, (t.validate c).outcome = .error failure ∧ IsFault .invalidAddress failure) ↔
        ¬ NamesAddress t.contract) ∧
      ((t.validate c).outcome = .error (invalidContract t.contract .emptyAddress) ↔
        t.contract = .text []) ∧
      ((∃ shown, (t.validate c).outcome
          = .error (invalidContract t.contract (.malformedAddress (.text shown) shown))) ↔
        t.contract ≠ .text [] ∧ ¬ NamesAddress t.contract) ∧
      ((∃ shown, (t.validate c).outcome
          = .error (invalidCoin shown "amount must be positive".toList)) ↔
        NamesAddress t.contract ∧ c.lead.length ≤ 86 ∧ t.amount = .int 0) ∧
      ((∃ shown, (t.validate c).outcome = .error (invalidCoin shown "invalid coin".toList)) ↔
        NamesAddress t.contract ∧ ¬ IsValid c t ∧
          ¬ (c.lead.length ≤ 86 ∧ t.amount = .int 0)) ∧
      (∀ failure, (t.validate c).outcome = .error failure ↔ Invalid c t failure) :=
  ⟨validate_eq_ok_iff, fun _ => Convention.isNativeName_denomText, refused_for_contract_iff,
    refused_for_no_contract_iff, refused_for_malformed_contract_iff, refused_for_sign_iff,
    refused_for_coin_iff, fun _ => validate_eq_error_iff⟩

/-! ## Integer amounts -/

end Token

end BridgedDenom
