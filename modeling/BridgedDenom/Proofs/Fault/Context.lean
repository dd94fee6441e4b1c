import BridgedDenom.Fault.Basic
import BridgedDenom.Proofs.Value.Fields

/-!
# Faults in context

Context is added to copies of a fault, one after the other.  The last copy is the fault itself
with all the context in its data (`enrich_eq`).  Nothing else is changed but the link to the
chain of failures, which no copy has.

A value is recorded when it is added and again when the record is made.  Both times the same
comes out (`Value.recorded_recorded`), and recording does not mind the order in which fields are
merged (`Fields.recorded_merge`).  So it makes no difference for the record whether the context
is added step by step or merged first and added at once (`context_merged`).

The copies stand beside the fault in the order in which they are made (`copies`).  Making one
more leaves them as they are (`copies_concat`).
-/

namespace BridgedDenom

/-! ## Recorded values -/

/-- What is recorded is in the form of a record already. -/
@[simp] theorem Value.recorded_recorded (v : Value) : v.recorded.recorded = v.recorded := by
  cases v with
  | bytes form => cases form <;> rfl
  | _ => rfl

namespace Fields

@[simp] theorem recorded_recorded (fields : Fields) :
    fields.recorded.recorded = fields.recorded := by
  simp [recorded]

theorem recorded_append (first second : Fields) :
    recorded (first ++ second) = first.recorded ++ second.recorded :=
  List.map_append

theorem recorded_merge (earlier later : Fields) :
    (merge earlier later).recorded = merge earlier.recorded later.recorded :=
  map_merge Value.recorded earlier later

theorem lookup_recorded (fields : Fields) (name : Text) :
    fields.recorded.lookup name = (fields.lookup name).map Value.recorded :=
  lookup_map Value.recorded fields name

end Fields

namespace Fault

/-! ## Copies -/

/-- The copy of a fault after context was added step by step. -/
def enrich (f : Fault) (contexts : List Fields) : Fault := contexts.foldl withContext f

/-- A fault and the copies made on the way, the earliest first. -/
def copies (f : Fault) : List Fields → List Fault
  | [] => [f]
  | context :: rest => f :: copies (f.withContext context) rest

section
variable (f : Fault) (contexts : List Fields)

/-- A copy differs from the fault in its data and in its link to the chain of failures. -/
theorem enrich_eq :
    f.enrich contexts = { f with
      data := f.data.merge (Fields.recorded contexts.flatten)
      chain := if contexts.isEmpty then f.chain else none } := by
  induction contexts generalizing f with
  | nil => rfl
  | cons context rest ih =>
      have data : f.data.merge (Fields.recorded (context :: rest).flatten)
          = (f.withContext context).data.merge (Fields.recorded rest.flatten) := by
        rw [List.flatten_cons, Fields.recorded_append, Fields.merge_append]
        rfl
      have chain : (if rest.isEmpty then (f.withContext context).chain else none) = none := by
        rw [chain_withContext, ite_self]
      rw [data]
      exact (ih (f.withContext context)).trans (by rw [chain]; rfl)

theorem data_enrich :
    (f.enrich contexts).data = f.data.merge (Fields.recorded contexts.flatten) := by
  rw [enrich_eq]

theorem recorded_data_enrich :
    (f.enrich contexts).data.recorded = (f.data.merge contexts.flatten).recorded := by
  rw [data_enrich, Fields.recorded_merge, Fields.recorded_merge, Fields.recorded_recorded]

/-- Merged context adds the same data. -/
theorem data_withContext_merged :
    (f.withContext (contexts.foldl Fields.merge [])).data = (f.enrich contexts).data := by
  have merged : (contexts.foldl Fields.merge []).recorded
      = Fields.merge [] (Fields.recorded contexts.flatten) := by
    rw [Fields.foldl_merge, Fields.recorded_merge]
    rfl
  rw [data_enrich, withContext, merged, Fields.merge_merge]

/-- The link to the chain of failures is no part of a record. -/
theorem record_enrich (includeCause : Bool) :
    (f.enrich contexts).record includeCause
      = (f.withContext (contexts.foldl Fields.merge [])).record includeCause := by
  have unlinked : f.enrich contexts = { f.withContext (contexts.foldl Fields.merge []) with
      chain := if contexts.isEmpty then f.chain else none } := by
    rw [enrich_eq, ← data_enrich, ← data_withContext_merged]
    rfl
  rw [unlinked]
  rfl

/-! ## What a copy leaves alone -/

theorem getElem?_copies {k : Nat} (before : k ≤ contexts.length) :
    (f.copies contexts)[k]? = some (f.enrich (contexts.take k)) := by
  induction contexts generalizing f k with
  | nil =>
      obtain rfl : k = 0 := Nat.le_zero.mp before
      rfl
  | cons context rest ih =>
      cases k with
      | zero => rfl
      | succ k => exact ih (f.withContext context) (Nat.le_of_succ_le_succ before)

theorem copies_concat (context : Fields) :
    f.copies (contexts ++ [context])
      = f.copies contexts ++ [(f.enrich contexts).withContext context] := by
  induction contexts generalizing f with
  | nil => rfl
  | cons first rest ih => exact congrArg (f :: ·) (ih (f.withContext first))

end

/-- **Context is merged and touches nothing else.**  A fault to which context was added step by
step has the kind, the code, the message, the headline, the answer to whether another attempt may
succeed, and the cause that it had.  Its record is that of the fault with all the context merged
and added at once: the recorded data, and over it the recorded context, of each name the last.

The fault and every copy on the way stay as they were made, whatever is added later. -/
theorem context_merged (f : Fault) (contexts : List Fields) :
    let merged := contexts.foldl Fields.merge []
    let last := f.enrich contexts
    (last.kind = f.kind ∧ last.code = f.code ∧ last.message = f.message ∧
      last.headline = f.headline ∧ last.retryable = f.retryable ∧ last.cause = f.cause) ∧
    (∀ includeCause, last.record includeCause = (f.withContext merged).record includeCause ∧
      (last.record includeCause).get? "data".toList
        = some (.mapping (f.data.recorded.merge merged.recorded))) ∧
    (∀ name, (f.data.recorded.merge merged.recorded).lookup name
        = ((merged.lookup name).or (f.data.lookup name)).map Value.recorded ∧
      merged.lookup name = contexts.flatten.reverse.lookup name) ∧
    ((f.copies contexts)[0]? = some f ∧
      ∀ k, k ≤ contexts.length → (f.copies contexts)[k]? = some (f.enrich (contexts.take k)) ∧
        (f.enrich (contexts.take k)).data
          = f.data.merge (Fields.recorded (contexts.take k).flatten)) ∧
    (∀ context, f.copies (contexts ++ [context])
      = f.copies contexts ++ [last.withContext context]) := by
  intro merged last
  have gathered : merged = Fields.merge [] contexts.flatten := Fields.foldl_merge [] contexts
  have recorded : last.data.recorded = f.data.recorded.merge merged.recorded := by
    rw [recorded_data_enrich, ← Fields.merge_merge, ← gathered, Fields.recorded_merge]
  refine ⟨?same, fun includeCause => ⟨record_enrich f contexts includeCause, ?data⟩,
    fun name => ⟨?named, ?latest⟩, ⟨?first, fun k before => ?copy⟩, copies_concat f contexts⟩
  case same =>
    simp only [last, enrich_eq, and_self, Report.headline]
  case data =>
    rw [← recorded]
    rfl
  case named =>
    rw [← Fields.recorded_merge, Fields.lookup_recorded, gathered, Fields.merge_merge,
      Fields.lookup_merge_onto, Fields.lookup_merge]
  case latest => rw [gathered, Fields.lookup_merge]
  case first => exact getElem?_copies f contexts (Nat.zero_le _)
  case copy => exact ⟨getElem?_copies f contexts before, data_enrich f (contexts.take k)⟩

end Fault

end BridgedDenom
