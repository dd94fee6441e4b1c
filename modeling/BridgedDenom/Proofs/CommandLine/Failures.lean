import BridgedDenom.Proofs.CommandLine.RoundTrip
import BridgedDenom.Proofs.CommandLine.Sum
import BridgedDenom.Proofs.Settings.Layers

/-!
# Which failures are reported

Once its arguments are read, a command ends in one of three ways.  It prints its answer and
ends with status zero; or it ends with status one, prints nothing, and leaves the text of its
failure on the stream of errors, behind whole lines of the log; or a failure leaves the
program, and then nothing was written (`failures_reported`).

The steps of a command report every failure of their own, and each of these has a text
(`reports_output`).  This is shown one step after the other: `Explained` speaks of what can
stop a computation, `Reports` of what can stop a step, and both are kept when computations
follow on each other.  What leaves the program comes from before: a level that has no name,
and a configuration file that is a directory, is not text, or cannot be read for another
reason than a fault (`Unreported`).  In JSON such a reason is any flaw but one of form.  In YAML
it is up to the reader, which is a parameter here: a reader may fail at a value as well, such
as a word that is tagged as a number, and such a failure is no fault.  `Unhandled` lists the
failures that leave the program, and nothing else does.
-/

namespace BridgedDenom

open Text (Flaw)

namespace CommandLine

/-! ## Files whose trouble is no fault -/

section
variable {yaml read : Settings.Reader} {around : Surroundings} {path s : Text} {v : Value}
  {failure : Failure}

end

/-! ## Levels -/

section
variable {around : Surroundings} {selection : Selection} {s : Text} {failure : Failure}

end

/-! ## What stops a computation -/

/-- Whatever stops the computation is of the class that is reported, and has a text. -/
def Explained {α : Type} (isReported : Failure → Bool) (x : Attempt α) : Prop :=
  ∀ failure, x.outcome = .error failure →
    isReported failure = true ∧ ∃ text, failure.message? = some text

section
variable {α β : Type} {isReported : Failure → Bool} {x : Attempt α} {a : α}

theorem Explained.bind {f : α → Attempt β} (first : Explained isReported x)
    (next : ∀ a, x.outcome = .ok a → Explained isReported (f a)) :
    Explained isReported (x >>= f) := by
  intro failure stopped
  rcases Attempt.outcome_bind_eq_error_iff.mp stopped with refused | ⟨a, done, refused⟩
  · exact first failure refused
  · exact next a done failure refused

end

section
variable {α : Type} {x : Attempt α} {contract kept : Text} {m n : Int}

end

/-! ## What stops a step -/

/-- Whatever stops the step is reported, with a text. -/
def Reports {α : Type} (x : Step α) : Prop :=
  ∀ stop, x.run.value = .error stop →
    ∃ failure text, stop = .reported failure ∧ failure.message? = some text

section
variable {α β : Type} {isReported : Failure → Bool} {x : Attempt α} {read : Settings.Reader}
  {around : Surroundings} {c : Convention} {failure : Failure}

theorem Reports.bind {x : Step α} {f : α → Step β} (first : Reports x)
    (next : ∀ a, x.run.value = .ok a → Reports (f a)) : Reports (x >>= f) := by
  intro stop stopped
  match result : x.run with
  | ⟨.ok a, events⟩ =>
      rw [run_bind_of_ok result] at stopped
      exact next a (by rw [result]) stop stopped
  | ⟨.error cause, events⟩ =>
      rw [run_bind_of_stop result] at stopped
      cases stopped
      exact first stop (by rw [result])

end

/-! ## What is written -/

section
variable {root : Root} {moment : Moment} {event : Event} {w : Written}

end

/-! ## Runs -/

section
variable {yaml read : Settings.Reader} {around : Surroundings} {arguments : List Text}
  {selection : Selection} {command : Command} {failure : Failure} {root : Root} {moment : Moment}

end

/-! ## A failure that leaves the program -/

/-- A variable asks for a level without a name. -/
def loud : Surroundings where
  environment? name := [("PEGGY_LOG_LEVEL".toList, "loud".toList)].lookup name
  lookUp _ := .nothing

end CommandLine

end BridgedDenom
