import BridgedDenom.Proofs.Decimal.Integer
import BridgedDenom.Proofs.Token.Contract
import Mathlib.Algebra.BigOperators.Group.List.Basic
import Mathlib.Algebra.Ring.Int.Defs

/-!
# Sums of many tokens

Tokens are added up two at a time, in any order and grouping.  A `Tally` is such a
grouping: a tree with tokens at its leaves and an addition at each inner node.

*One addition.*  Two tokens of one contract are added exactly, or refused if the sum does
not fit.  `Refuses` lists the refusals, and by `fits_or_refuses` nothing else happens.

*Trees.*  The sum of a tree is again a token of the sort that stands at its leaves
(`Tally.holding`), so what is known of one addition is known of every inner node.  By
induction a tree has a sum if and only if its leaves have one contract and every addition
in it fits (`Tally.eval_eq_ok_iff`).

*Orders.*  An addition of the tree may fail although the whole sum fits, if some amounts
are negative.  Without these no part of a tree exceeds the whole
(`Tally.total_of_mem_nodes`), and the order does not matter (`Tally.eval_of_perm`).

*Long sums.*  A sum that does not fit is written down before it is refused, and a number
with too many digits cannot be written.  Where there is a limit on digits, some sums are
therefore refused without the fault of the range (`refuses_half`).
-/

namespace BridgedDenom

namespace Token

/-! ## Holdings -/

/-- The number is an amount that a sum may have. -/
def Fits (n : Int) : Prop := 0 ≤ n ∧ n ≤ maxAmount

/-- A token with an integer amount, as the constructors leave it: its contract is kept
unchanged when it is given again. -/
structure Holding where
  amount : Int
  contract : Text
  kept : KeptAs (.text contract) contract

def Holding.token (h : Holding) : Token := ⟨.int h.amount, .text h.contract⟩

/-- The holdings are the tokens with integer amounts, however these were made. -/
theorem made_iff_holding {limit : DigitLimit} {t : Token} {n : Int} :
    (∃ g, Made limit t g) ∧ t.amount = .int n ↔ ∃ h : Holding, h.amount = n ∧ h.token = t := by
  constructor
  · rintro ⟨⟨g, made⟩, amount⟩
    obtain ⟨s, contract, kept⟩ := made.keptAs
    refine ⟨⟨n, s, kept.again⟩, rfl, ?_⟩
    rw [Holding.token, ← amount, ← contract]
  · rintro ⟨h, rfl, rfl⟩
    exact ⟨⟨.text h.contract, .ofParts (ofParts_of_keptAs (.int h.amount) h.kept)⟩, rfl⟩

/-! ## One addition -/

/-- Why two holdings cannot be added.  The contracts are looked at first, and a sum out
of range is reported unless it has too many digits. -/
inductive Refuses (limit : DigitLimit) (h k : Holding) : Failure → Prop where
  | contracts : h.contract ≠ k.contract →
      Refuses limit h k (.fault (.mismatchedContract (.text h.contract) (.text k.contract)))
  | range : h.contract = k.contract → ¬ Fits (h.amount + k.amount) →
      limit.admits (Decimal.ofNat (h.amount + k.amount).natAbs).length = true →
      Refuses limit h k
        (.fault (.amountOverflow (Decimal.ofInt (h.amount + k.amount)) (Decimal.ofInt maxAmount)))
  | digits : h.contract = k.contract → ¬ Fits (h.amount + k.amount) →
      limit.admits (Decimal.ofNat (h.amount + k.amount).natAbs).length = false →
      Refuses limit h k .badValue

section
variable {limit : DigitLimit} {h k : Holding} {t : Token} {failure : Failure}

theorem inRange_int {n : Int} : inRange (.int n) = true ↔ Fits n := by
  simp [inRange, Value.integer?, Fits]

theorem addAmounts_int_of_fits {m n : Int} (fits : Fits (m + n)) :
    addAmounts limit (.int m) (.int n) = .ok (.int (m + n)) := by
  rw [addAmounts, Value.sum_int]
  exact if_pos (inRange_int.mpr fits)

theorem addAmounts_int_of_not_fits {m n : Int} (other : ¬ Fits (m + n)) :
    addAmounts limit (.int m) (.int n) = .error (outOfRange limit (.int (m + n))) := by
  rw [addAmounts, Value.sum_int]
  exact if_neg (mt inRange_int.mp other)

theorem add_of_fits (same : h.contract = k.contract) (fits : Fits (h.amount + k.amount)) :
    (h.token.add limit k.token).outcome
      = .ok ⟨.int (h.amount + k.amount), .text h.contract⟩ := by
  rw [add_of_contract_eq h.kept rfl (congrArg Value.text same.symm)]
  simp only [Holding.token, addAmounts_int_of_fits fits, Except.map]

theorem add_of_not_fits (same : h.contract = k.contract) (other : ¬ Fits (h.amount + k.amount)) :
    (h.token.add limit k.token).outcome
      = .error (outOfRange limit (.int (h.amount + k.amount))) := by
  rw [add_of_contract_eq h.kept rfl (congrArg Value.text same.symm)]
  simp only [Holding.token, addAmounts_int_of_not_fits other, Except.map]

theorem add_of_refuses (refused : Refuses limit h k failure) :
    (h.token.add limit k.token).outcome = .error failure := by
  cases refused with
  | contracts other => exact add_of_contract_ne rfl rfl other
  | range same other admitted =>
      rw [add_of_not_fits same other]
      simp only [outOfRange, Value.reported, Decimal.written?, if_pos admitted, Option.elim_some]
  | digits same other excluded =>
      rw [add_of_not_fits same other]
      have tooLong : ¬ limit.admits (Decimal.ofNat (h.amount + k.amount).natAbs).length = true := by
        simp [excluded]
      simp only [outOfRange, Value.reported, Decimal.written?, if_neg tooLong, Option.elim_none]

/-- Two holdings are added or refused, for one of three reasons. -/
theorem fits_or_refuses (limit : DigitLimit) (h k : Holding) :
    (h.contract = k.contract ∧ Fits (h.amount + k.amount)) ∨ ∃ failure, Refuses limit h k failure := by
  by_cases same : h.contract = k.contract
  · by_cases fits : Fits (h.amount + k.amount)
    · exact Or.inl ⟨same, fits⟩
    · refine Or.inr ?_
      cases admitted : limit.admits (Decimal.ofNat (h.amount + k.amount).natAbs).length with
      | true => exact ⟨_, .range same fits admitted⟩
      | false => exact ⟨_, .digits same fits admitted⟩
  · exact Or.inr ⟨_, .contracts same⟩

theorem add_eq_ok_iff : (h.token.add limit k.token).outcome = .ok t ↔
    h.contract = k.contract ∧ Fits (h.amount + k.amount) ∧
      t = ⟨.int (h.amount + k.amount), .text h.contract⟩ := by
  constructor
  · intro added
    rcases fits_or_refuses limit h k with ⟨same, fits⟩ | ⟨failure, refused⟩
    · rw [add_of_fits same fits] at added
      exact ⟨same, fits, (Except.ok.inj added).symm⟩
    · rw [add_of_refuses refused] at added
      cases added
  · rintro ⟨same, fits, rfl⟩
    exact add_of_fits same fits

theorem add_eq_error_iff :
    (h.token.add limit k.token).outcome = .error failure ↔ Refuses limit h k failure := by
  constructor
  · intro failed
    rcases fits_or_refuses limit h k with ⟨same, fits⟩ | ⟨cause, refused⟩
    · rw [add_of_fits same fits] at failed
      cases failed
    · rw [add_of_refuses refused] at failed
      cases failed
      exact refused
  · exact add_of_refuses

end

/-! ## Trees of additions -/

/-- A tree with tokens at its leaves and an addition at each inner node. -/
inductive Tally where
  | leaf (h : Holding)
  | add (left right : Tally)

namespace Tally

def leaves : Tally → List Holding
  | leaf h => [h]
  | add l r => l.leaves ++ r.leaves

/-- The trees at the inner nodes, in the order of the additions. -/
def nodes : Tally → List Tally
  | leaf _ => []
  | add l r => l.nodes ++ r.nodes ++ [add l r]

/-- The exact sum of the leaves. -/
def total (s : Tally) : Int := (s.leaves.map Holding.amount).sum

/-- The contract of the first leaf. -/
def contract : Tally → Text
  | leaf h => h.contract
  | add l _ => l.contract

/-- Add up a tree, the left operand of each addition before the right one. -/
def eval (limit : DigitLimit) : Tally → Attempt Token
  | leaf h => pure h.token
  | add l r => do
      let left ← l.eval limit
      let right ← r.eval limit
      left.add limit right

section
variable {limit : DigitLimit} {s l r n : Tally} {t : Token} {failure : Failure}

@[simp] theorem total_leaf (h : Holding) : (leaf h).total = h.amount := by
  simp [total, leaves]

@[simp] theorem total_add (l r : Tally) : (add l r).total = l.total + r.total := by
  simp [total, leaves]

theorem exists_leaf_contract (s : Tally) : ∃ h ∈ s.leaves, h.contract = s.contract := by
  induction s with
  | leaf h => exact ⟨h, List.mem_singleton_self h, rfl⟩
  | add l r ihl _ =>
      obtain ⟨h, mem, same⟩ := ihl
      exact ⟨h, List.mem_append_left _ mem, same⟩

theorem kept_contract (s : Tally) : KeptAs (.text s.contract) s.contract := by
  obtain ⟨h, -, same⟩ := s.exists_leaf_contract
  rw [← same]
  exact h.kept

/-- The exact sum of a tree, as a token of the contract of the first leaf. -/
def holding (s : Tally) : Holding := ⟨s.total, s.contract, s.kept_contract⟩

/-- All leaves have one contract. -/
def Agrees (s : Tally) : Prop := ∀ h ∈ s.leaves, h.contract = s.contract

theorem agrees_add : (add l r).Agrees ↔ l.Agrees ∧ r.Agrees ∧ l.contract = r.contract := by
  constructor
  · intro all
    obtain ⟨h, mem, same⟩ := r.exists_leaf_contract
    have contracts : r.contract = l.contract := same.symm.trans (all h (List.mem_append_right _ mem))
    exact ⟨fun k memK => all k (List.mem_append_left _ memK),
      fun k memK => (all k (List.mem_append_right _ memK)).trans contracts.symm, contracts.symm⟩
  · rintro ⟨left, right, contracts⟩ h mem
    rcases List.mem_append.mp mem with mem | mem
    · exact left h mem
    · exact (right h mem).trans contracts.symm

theorem contract_eq_of_leaves {contract : Text} (all : ∀ h ∈ s.leaves, h.contract = contract) :
    s.contract = contract := by
  obtain ⟨h, mem, same⟩ := s.exists_leaf_contract
  rw [← same, all h mem]

theorem fits_nodes_add : (∀ n ∈ (add l r).nodes, Fits n.total) ↔
    (∀ n ∈ l.nodes, Fits n.total) ∧ (∀ n ∈ r.nodes, Fits n.total) ∧ Fits (l.total + r.total) := by
  simp [nodes, or_imp, forall_and]

theorem holding_add (l r : Tally) :
    (add l r).holding.token = ⟨.int (l.total + r.total), .text l.contract⟩ := by
  simp only [Holding.token, holding, total_add]
  rfl

/-- A tree has a sum if and only if its leaves have one contract and every addition
fits; the sum is then exact.  The induction is on the tree. -/
theorem eval_eq_ok_iff : (s.eval limit).outcome = .ok t ↔
    s.Agrees ∧ (∀ n ∈ s.nodes, Fits n.total) ∧ t = s.holding.token := by
  induction s generalizing t with
  | leaf h =>
      have agrees : (leaf h).Agrees := fun k mem => by rw [List.mem_singleton.mp mem, contract]
      have token : (leaf h).holding.token = h.token := by
        simp only [Holding.token, holding, total_leaf]
        rfl
      simp [eval, agrees, nodes, token, eq_comm]
  | add l r ihl ihr =>
      rw [agrees_add, fits_nodes_add, holding_add]
      simp only [eval, Attempt.outcome_bind_eq_ok_iff]
      constructor
      · rintro ⟨left, evalLeft, right, evalRight, sum⟩
        obtain ⟨agreesLeft, fitsLeft, rfl⟩ := ihl.mp evalLeft
        obtain ⟨agreesRight, fitsRight, rfl⟩ := ihr.mp evalRight
        obtain ⟨same, fits, rfl⟩ := add_eq_ok_iff.mp sum
        exact ⟨⟨agreesLeft, agreesRight, same⟩, ⟨fitsLeft, fitsRight, fits⟩, rfl⟩
      · rintro ⟨⟨agreesLeft, agreesRight, same⟩, ⟨fitsLeft, fitsRight, fits⟩, rfl⟩
        exact ⟨_, ihl.mpr ⟨agreesLeft, fitsLeft, rfl⟩, _, ihr.mpr ⟨agreesRight, fitsRight, rfl⟩,
          add_of_fits (h := l.holding) (k := r.holding) same fits⟩

/-- The failure of a tree is that of an addition both operands of which have sums. -/
theorem exists_refuses_of_eval (h : (s.eval limit).outcome = .error failure) :
    ∃ l r, add l r ∈ s.nodes ∧ (l.eval limit).outcome = .ok l.holding.token ∧
      (r.eval limit).outcome = .ok r.holding.token ∧
      Refuses limit l.holding r.holding failure := by
  induction s with
  | leaf k => cases h
  | add l r ihl ihr =>
      simp only [eval, Attempt.outcome_bind_eq_error_iff] at h
      rcases h with failed | ⟨left, evalLeft, failed | ⟨right, evalRight, failed⟩⟩
      · obtain ⟨l', r', mem, found⟩ := ihl failed
        exact ⟨l', r', by simp [nodes, mem], found⟩
      · obtain ⟨l', r', mem, found⟩ := ihr failed
        exact ⟨l', r', by simp [nodes, mem], found⟩
      · obtain ⟨-, -, rfl⟩ := eval_eq_ok_iff.mp evalLeft
        obtain ⟨-, -, rfl⟩ := eval_eq_ok_iff.mp evalRight
        exact ⟨l, r, by simp [nodes], evalLeft, evalRight, add_eq_error_iff.mp failed⟩

/-! ## Orders of addition -/

theorem mem_nodes_self (h : s.nodes ≠ []) : s ∈ s.nodes := by
  cases s with
  | leaf k => exact absurd rfl h
  | add l r => simp [nodes]

theorem leaves_ne_nil (s : Tally) : s.leaves ≠ [] := by
  obtain ⟨h, mem, -⟩ := s.exists_leaf_contract
  exact List.ne_nil_of_mem mem

theorem nodes_ne_nil_iff : s.nodes ≠ [] ↔ 1 < s.leaves.length := by
  cases s with
  | leaf h => simp [nodes, leaves]
  | add l r =>
      have left := List.length_pos_of_ne_nil l.leaves_ne_nil
      have right := List.length_pos_of_ne_nil r.leaves_ne_nil
      simp only [nodes, leaves, List.length_append, ne_eq, List.append_eq_nil_iff, List.cons_ne_nil,
        and_false, not_false_eq_true, true_iff]
      omega

theorem total_nonneg (nonneg : ∀ h ∈ s.leaves, 0 ≤ h.amount) : 0 ≤ s.total := by
  induction s with
  | leaf h => simpa using nonneg h (List.mem_singleton_self h)
  | add l r ihl ihr =>
      have left := ihl fun h mem => nonneg h (List.mem_append_left _ mem)
      have right := ihr fun h mem => nonneg h (List.mem_append_right _ mem)
      rw [total_add]
      omega

/-- Without negative leaves no part of a tree exceeds the whole. -/
theorem total_of_mem_nodes (nonneg : ∀ h ∈ s.leaves, 0 ≤ h.amount) (mem : n ∈ s.nodes) :
    0 ≤ n.total ∧ n.total ≤ s.total := by
  induction s with
  | leaf h => cases mem
  | add l r ihl ihr =>
      have nonnegLeft := fun h mem => nonneg h (List.mem_append_left r.leaves mem)
      have nonnegRight := fun h mem => nonneg h (List.mem_append_right l.leaves mem)
      have left := total_nonneg nonnegLeft
      have right := total_nonneg nonnegRight
      rw [total_add]
      simp only [nodes, List.mem_append, List.mem_singleton] at mem
      rcases mem with (mem | mem) | rfl
      · have part := ihl nonnegLeft mem
        omega
      · have part := ihr nonnegRight mem
        omega
      · rw [total_add]
        omega

/-- Without negative leaves it is enough that the whole sum fits. -/
theorem fits_nodes_of_le (nonneg : ∀ h ∈ s.leaves, 0 ≤ h.amount) (whole : s.total ≤ maxAmount) :
    ∀ n ∈ s.nodes, Fits n.total := by
  intro n mem
  obtain ⟨lower, upper⟩ := total_of_mem_nodes nonneg mem
  exact ⟨lower, Int.le_trans upper whole⟩

/-- What can be added up in one way can be added up in every other, with one result. -/
theorem eval_of_perm {s' : Tally} (perm : s.leaves.Perm s'.leaves)
    (nonneg : ∀ h ∈ s.leaves, 0 ≤ h.amount) (inner : s.nodes ≠ [])
    (h : (s.eval limit).outcome = .ok t) : (s'.eval limit).outcome = .ok t := by
  obtain ⟨agrees, fits, rfl⟩ := eval_eq_ok_iff.mp h
  have total : s.total = s'.total := (perm.map Holding.amount).sum_eq
  have contract : s.contract = s'.contract := by
    obtain ⟨k, mem, same⟩ := s'.exists_leaf_contract
    rw [← same, agrees k (perm.mem_iff.mpr mem)]
  have whole : s'.total ≤ maxAmount := total ▸ (fits s (mem_nodes_self inner)).2
  refine eval_eq_ok_iff.mpr ⟨fun k mem => ?_, fits_nodes_of_le ?_ whole, ?_⟩
  · rw [← contract, agrees k (perm.mem_iff.mpr mem)]
  · exact fun k mem => nonneg k (perm.mem_iff.mpr mem)
  · simp only [Holding.token, holding, total, contract]

end

end Tally

/-! ## Long sums -/

/-- Half of the least number with `k + 2` digits, of the contract without any bits set. -/
def half (k : Nat) : Holding where
  amount := (5 * Nat.pow 10 k : Nat)
  contract := Address.checksum ⟨List.replicate 20 0, rfl⟩
  kept := .checksum (Address.spells_checksum _)

theorem half_add_half (k : Nat) : (half k).amount + (half k).amount = (Nat.pow 10 (k + 1) : Nat) := by
  have power : Nat.pow 10 (k + 1) = Nat.pow 10 k * 10 := rfl
  simp only [half]
  omega

/-- A sum with one digit more than the limit allows is too long to be reported. -/
theorem refuses_half {k : Nat} (h : 19 ≤ k) :
    Refuses ⟨some (k + 1)⟩ (half k) (half k) .badValue := by
  have least : Nat.pow 10 20 ≤ Nat.pow 10 (k + 1) := Nat.pow_le_pow_right (by decide) (by omega)
  have small : maxAmount < Nat.pow 10 20 := by decide
  refine .digits rfl ?_ ?_
  · rw [half_add_half]
    rintro ⟨-, upper⟩
    omega
  · rw [half_add_half]
    exact Decimal.admits_eq_false (Nat.le_refl _)

/-! ## Sums are exact -/

/-- A tree of tokens with integer amounts has a sum if and only if its leaves have one
contract and the exact sum below each inner node fits.  Otherwise it fails as one of its
additions does: for the contracts, or else for the range, which is reported with the
exact sum unless the sum has too many digits.  Without negative amounts neither the
order nor the grouping of the additions matters. -/
theorem sum_exact (limit : DigitLimit) :
    (∀ t n, (∃ g, Made limit t g) ∧ t.amount = .int n ↔ ∃ h : Holding, h.amount = n ∧ h.token = t) ∧
    (∀ (s : Tally) t, (s.eval limit).outcome = .ok t ↔ ∃ contract,
      (∀ h ∈ s.leaves, h.contract = contract) ∧ (∀ n ∈ s.nodes, Fits n.total) ∧
      t = ⟨.int s.total, .text contract⟩) ∧
    (∀ (s : Tally) failure, (s.eval limit).outcome = .error failure → ∃ l r,
      .add l r ∈ s.nodes ∧ (l.eval limit).outcome = .ok l.holding.token ∧
      (r.eval limit).outcome = .ok r.holding.token ∧ Refuses limit l.holding r.holding failure) ∧
    (∀ n, (Fault.amountOverflow (Decimal.ofInt n) (Decimal.ofInt maxAmount)).data
      = [("sum".toList, .text (Decimal.ofInt n)), ("limit".toList, .text (Decimal.ofInt maxAmount))]) ∧
    (∀ s s' : Tally, s.leaves.Perm s'.leaves → (∀ h ∈ s.leaves, 0 ≤ h.amount) → s.nodes ≠ [] →
      ∀ t, (s.eval limit).outcome = .ok t ↔ (s'.eval limit).outcome = .ok t) := by
  refine ⟨fun _ _ => made_iff_holding, fun s t => ?_, fun _ _ => Tally.exists_refuses_of_eval,
    fun _ => rfl, fun s s' perm nonneg inner t => ⟨Tally.eval_of_perm perm nonneg inner, ?_⟩⟩
  · rw [Tally.eval_eq_ok_iff]
    constructor
    · rintro ⟨agrees, fits, rfl⟩
      exact ⟨s.contract, agrees, fits, rfl⟩
    · rintro ⟨contract, all, fits, rfl⟩
      obtain rfl := Tally.contract_eq_of_leaves all
      exact ⟨all, fits, rfl⟩
  · have nonneg' : ∀ h ∈ s'.leaves, 0 ≤ h.amount := fun h mem => nonneg h (perm.mem_iff.mpr mem)
    have inner' : s'.nodes ≠ [] := by
      rw [Tally.nodes_ne_nil_iff, ← perm.length_eq]
      exact Tally.nodes_ne_nil_iff.mp inner
    exact Tally.eval_of_perm perm.symm nonneg' inner'

/-- A sum that is too long to be reported is refused without the fault of its range. -/
theorem eval_half_twice :
    ((Tally.add (.leaf (half 4299)) (.leaf (half 4299))).eval .usual).outcome
      = .error .badValue := by
  have refused : Refuses .usual (half 4299) (half 4299) .badValue := refuses_half (by decide)
  rw [Tally.eval, Tally.eval, Attempt.outcome_bind_ok rfl, Attempt.outcome_bind_ok rfl]
  exact add_of_refuses refused

end Token

end BridgedDenom
