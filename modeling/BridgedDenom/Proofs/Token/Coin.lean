import BridgedDenom.Proofs.Decimal.Integer
import BridgedDenom.Proofs.Denomination.Conventions
import BridgedDenom.Proofs.Token.Address

/-!
# The coin of a token

The coin of a token names the contract by the display form of its address and keeps the
amount as it is.  Reading the denomination gives the address back, and a token of this
address and the amount of the coin is the token that the coin was made of
(`ofCoin_coin`).

The text of a coin is the amount followed by the denomination, with nothing between
them.  A written amount has no letters, not even where it is negative, and a lead starts
with one.  So the amount ends where the first letter stands, whatever the convention is,
and the text of a coin determines the coin (`ofInt_append_denomText_inj`).
-/

namespace BridgedDenom

namespace Convention

/-- A display form starts with a letter. -/
theorem exists_letter_denomText (c : Convention) (a : Address) :
    ∃ x rest, c.denomText a = x :: rest ∧ x.isAlpha = true := by
  have name := c.isName_lead
  cases lead : c.lead with
  | nil =>
      rw [lead] at name
      cases name
  | cons x rest =>
      rw [lead, Text.isName, Bool.and_eq_true] at name
      exact ⟨x, rest ++ a.checksum, by rw [denomText_eq, lead, List.cons_append], name.1⟩

theorem denomText_inj {c₁ c₂ : Convention} {a b : Address} :
    c₁.denomText a = c₂.denomText b ↔ c₁.lead = c₂.lead ∧ a = b := by
  constructor
  · exact lead_append_inj (Address.spells_checksum a) (Address.spells_checksum b)
  · rintro ⟨leads, rfl⟩
    exact denomText_congr leads

/-- An amount in front of a display form can be told apart from it. -/
theorem ofInt_append_denomText_inj {c₁ c₂ : Convention} {a b : Address} {m n : Int} :
    Decimal.ofInt m ++ c₁.denomText a = Decimal.ofInt n ++ c₂.denomText b ↔
      m = n ∧ c₁.lead = c₂.lead ∧ a = b := by
  constructor
  · intro h
    obtain ⟨x, s, first, letter⟩ := c₁.exists_letter_denomText a
    obtain ⟨y, t, second, letter'⟩ := c₂.exists_letter_denomText b
    rw [first, second] at h
    obtain ⟨amounts, denoms⟩ := Decimal.ofInt_append_inj letter letter' h
    rw [← first, ← second] at denoms
    exact ⟨amounts, denomText_inj.mp denoms⟩
  · rintro ⟨rfl, same⟩
    rw [denomText_inj.mpr same]

end Convention

namespace Token

/-- The token that a coin of a convention was made of. -/
def ofCoin (limit : DigitLimit) (c : Convention) (coin : Coin) : Attempt Token := do
  let d ← c.decodeValue coin.denom
  let a ← d.contract
  ofAmount limit coin.amount (.address a)

section
variable {limit : DigitLimit} {t u : Token} {g g' : Given} {a b : Address} {m n : Int}

/-- A token of an integer amount that was made of an address. -/
theorem Made.eq_mk (made : Made limit t g) (names : g.Names a) (amount : t.amount = .int n) :
    t = ⟨.int n, .text a.checksum⟩ := by
  rw [← amount, ← made.contract_eq names]

theorem outcome_coin (c : Convention) (made : Made limit t g) (names : g.Names a) :
    (t.coin c).outcome = .ok ⟨.text (c.denomText a), t.amount⟩ :=
  Attempt.outcome_bind_ok (made.address_eq names) _

theorem outcome_ofCoin (c : Convention) (a : Address) (n : Int) :
    (ofCoin limit c ⟨.text (c.denomText a), .int n⟩).outcome
      = .ok ⟨.int n, .text a.checksum⟩ := by
  have denom : (c.decodeValue (.text (c.denomText a))).outcome = .ok (c.encode a) :=
    Convention.decodeText_denomText c a
  have made : ofParts (.int n) (.address a) = .ok ⟨.int n, .text a.checksum⟩ := rfl
  refine (Attempt.outcome_bind_ok denom _).trans ?_
  refine (Attempt.outcome_bind_ok (Convention.contract_encode c a) _).trans ?_
  exact (ofAmount_eq_ok_iff (g := .address a)).mpr ⟨n, rfl, made⟩

theorem ofCoin_coin (c : Convention) (made : Made limit t g) (names : g.Names a)
    (amount : t.amount = .int n) : (t.coin c >>= ofCoin limit c).outcome = .ok t := by
  rw [Attempt.outcome_bind_ok (outcome_coin c made names), amount, outcome_ofCoin,
    ← made.eq_mk names amount]

theorem display_coin (c : Convention) (made : Made limit t g) (names : g.Names a)
    (amount : t.amount = .int n) : (t.coin c >>= Coin.display).outcome
      = .ok (Decimal.ofInt n ++ c.denomText a) := by
  rw [Attempt.outcome_bind_ok (outcome_coin c made names), amount]
  rfl

end

/-! ## Coins can be traced back -/

/-- A token with an integer amount that was made of an address is found again from its
coin.  The text of its coin is the amount followed by the display form of the address,
and tokens whose coins have one text are equal, even under different conventions, whose
leads are then equal too. -/
theorem coin_traceable (limit : DigitLimit) :
    (∀ c t g a n, Made limit t g → g.Names a → t.amount = .int n →
      (t.coin c >>= ofCoin limit c).outcome = .ok t ∧
      (t.coin c >>= Coin.display).outcome = .ok (Decimal.ofInt n ++ c.denomText a)) ∧
    (∀ c₁ c₂ t u g g' a b m n, Made limit t g → Made limit u g' → g.Names a → g'.Names b →
      t.amount = .int m → u.amount = .int n →
      (t.coin c₁ >>= Coin.display).outcome = (u.coin c₂ >>= Coin.display).outcome →
      t = u ∧ c₁.lead = c₂.lead) := by
  refine ⟨fun c t g a n made names amount =>
    ⟨ofCoin_coin c made names amount, display_coin c made names amount⟩, ?_⟩
  intro c₁ c₂ t u g g' a b m n madeT madeU namesT namesU amountT amountU same
  rw [display_coin c₁ madeT namesT amountT, display_coin c₂ madeU namesU amountU] at same
  obtain ⟨rfl, leads, rfl⟩ := Convention.ofInt_append_denomText_inj.mp (Except.ok.inj same)
  exact ⟨(madeT.eq_mk namesT amountT).trans (madeU.eq_mk namesU amountU).symm, leads⟩

end Token

end BridgedDenom
