import BridgedDenom.Fault.OfValues
import BridgedDenom.Log.Record
import BridgedDenom.Proofs.Fault.Context

/-!
# The chain of failures

A fault holds its cause twice, as what it names and as what stands before it in the chain of
failures.  A fault that is made holds the same in both places, whatever its kind and whoever
makes it (`isLinked_ofReport`, `isLinked_of_ofParts`).

Adding context keeps the cause and drops the chain.  So a copy of a fault that has a cause is not
linked to it, and neither is any copy of a copy (`isLinked_withContext_iff`,
`isLinked_enrich_iff`).  The record of a copy names the cause still.  Its trace tells nothing of
the cause: it is that of a fault which nothing led to (`trace_enrich`).
-/

namespace BridgedDenom

namespace Fault

/-- The fault stands in the chain behind the cause that it names. -/
def IsLinked (f : Fault) : Prop := f.chain = f.cause

section
variable {f : Fault} {cause : Cause}

/-! ## New faults -/

theorem isLinked_ofReport (report : Report) (cause : Option Cause) :
    (ofReport report cause).IsLinked :=
  rfl

/-- A fault that a caller makes of its parts is a new one. -/
theorem isLinked_of_ofParts {kind : Kind} {code message : Value} {data : Fields}
    {retryable : Bool} {cause : Option Cause}
    (made : (ofParts kind code message data retryable cause).outcome = .ok f) : f.IsLinked := by
  obtain ⟨code, -, made⟩ := Attempt.outcome_bind_eq_ok_iff.mp made
  obtain ⟨message, -, made⟩ := Attempt.outcome_bind_eq_ok_iff.mp made
  cases made
  exact isLinked_ofReport _ cause

/-! ## Copies -/

/-- One step: a copy is linked if there is nothing to link it to. -/
theorem isLinked_withContext_iff {context : Fields} :
    (f.withContext context).IsLinked ↔ f.cause = none := by
  rw [IsLinked, chain_withContext, cause_withContext]
  exact eq_comm

/-- The first copy is not linked, and no later one makes up for it. -/
theorem isLinked_enrich_iff (caused : f.cause = some cause) (contexts : List Fields) :
    (f.enrich contexts).IsLinked ↔ f.IsLinked ∧ contexts = [] := by
  induction contexts generalizing f with
  | nil => exact (and_iff_left rfl).symm
  | cons context rest ih =>
      have unlinked : ¬ (f.withContext context).IsLinked := by
        rw [isLinked_withContext_iff, caused]
        nofun
      have later : ¬ (f.enrich (context :: rest)).IsLinked := by
        intro linked
        exact unlinked ((ih (f := f.withContext context) caused).mp linked).1
      exact iff_of_false later nofun

theorem cause_enrich (f : Fault) (contexts : List Fields) :
    (f.enrich contexts).cause = f.cause := by
  rw [enrich_eq]

theorem chain_enrich (f : Fault) {contexts : List Fields} (some : contexts ≠ []) :
    (f.enrich contexts).chain = none := by
  rw [enrich_eq]
  exact if_neg (List.isEmpty_iff.not.mpr some)

/-! ## Traces -/

/-- The line of a fault by itself in a trace. -/
def ownTrace (f : Fault) : Text := (Cause.fault f.toReport).trace

theorem trace_of_chain_none (ended : f.chain = none) : f.asCause.trace = f.ownTrace := by
  simp only [asCause, ended]
  rfl

theorem trace_of_isLinked (caused : f.cause = some cause) (linked : f.IsLinked) :
    f.asCause.trace = cause.trace
      ++ "\n\nThe above exception was the direct cause of the following exception:\n\n".toList
      ++ f.ownTrace := by
  have chained : f.chain = some cause := linked.trans caused
  simp only [asCause, chained]
  rfl

/-- The data of a fault is no part of its trace, so context does not show there. -/
theorem ownTrace_enrich (f : Fault) (contexts : List Fields) :
    (f.enrich contexts).ownTrace = f.ownTrace := by
  rw [enrich_eq]
  rfl

/-- **The chain behind copies.**  A fault is linked to its cause when it is made.  However often
context is added to it, the copy names the cause, and so does its record.  But it is linked to the
cause only if no context was added at all: the chain of every copy is empty.  So the trace of the
fault starts with that of its cause, and the trace of a copy is the line of the fault alone. -/
theorem chain_exact (caused : f.cause = some cause) (contexts : List Fields) :
    let last := f.enrich contexts
    ((∀ report given, f = ofReport report given → f.IsLinked) ∧
      ∀ kind code message data retryable given,
        (ofParts kind code message data retryable given).outcome = .ok f → f.IsLinked) ∧
    (last.cause = some cause ∧
      (last.record true).get? "cause".toList = some (.mapping cause.record)) ∧
    (last.IsLinked ↔ f.IsLinked ∧ contexts = []) ∧
    (contexts ≠ [] → last.chain = none ∧ last.asCause.trace = f.ownTrace) ∧
    (f.IsLinked → f.asCause.trace = cause.trace
      ++ "\n\nThe above exception was the direct cause of the following exception:\n\n".toList
      ++ f.ownTrace) ∧
    (∀ k, k ≤ contexts.length → ∃ copy, (f.copies contexts)[k]? = some copy ∧
      (copy.IsLinked ↔ f.IsLinked ∧ k = 0)) := by
  intro last
  have named : last.cause = some cause := (cause_enrich f contexts).trans caused
  refine ⟨⟨fun report given made => ?new, fun _ _ _ _ _ _ => isLinked_of_ofParts⟩,
    ⟨named, ?record⟩, isLinked_enrich_iff caused contexts, fun some => ?copy,
    trace_of_isLinked caused, fun k before => ?step⟩
  case new => rw [made]; exact isLinked_ofReport report given
  case record =>
    simp only [record, named]
    rfl
  case copy =>
    have ended : last.chain = none := chain_enrich f some
    exact ⟨ended, (trace_of_chain_none ended).trans (ownTrace_enrich f contexts)⟩
  case step =>
    refine ⟨_, getElem?_copies f contexts before, ?_⟩
    rw [isLinked_enrich_iff caused, List.take_eq_nil_iff]
    refine and_congr_right fun _ => ⟨fun none => ?_, .inl⟩
    rcases none with zero | rfl
    · exact zero
    · exact Nat.le_zero.mp before

end

/-- The fault of a token with an empty contract. -/
def unnamed : Fault := invalidAddress (.text []) (some emptyAddress.asCause)

def decoding : Fields := [("step".toList, .text "decode".toList)]

theorem chain_exact_unnamed :
    unnamed.cause = some emptyAddress.asCause ∧ unnamed.IsLinked ∧
    (unnamed.enrich [decoding, []]).cause = some emptyAddress.asCause ∧
    ¬ (unnamed.enrich [decoding, []]).IsLinked ∧
    (unnamed.enrich [decoding, []]).asCause.trace
      = "peggy.errors.InvalidAddress: ethereum address: empty Ethereum address".toList := by
  have caused : unnamed.cause = some emptyAddress.asCause := rfl
  obtain ⟨⟨new, -⟩, ⟨named, -⟩, linked, copied, -⟩ := chain_exact caused [decoding, []]
  have line : unnamed.ownTrace
      = "peggy.errors.InvalidAddress: ethereum address: empty Ethereum address".toList := by
    decide +kernel
  refine ⟨caused, new _ _ rfl, named, fun kept => ?_, (copied (List.cons_ne_nil _ _)).2.trans line⟩
  exact List.cons_ne_nil _ _ (linked.mp kept).2

/-- One copy is enough to lose the link. -/
theorem copy_not_linked :
    unnamed.cause ≠ none ∧ unnamed.chain = unnamed.cause ∧
    (unnamed.enrich [decoding]).cause = unnamed.cause ∧
    (unnamed.enrich [decoding]).chain ≠ (unnamed.enrich [decoding]).cause :=
  ⟨nofun, rfl, rfl, nofun⟩

end Fault

end BridgedDenom
