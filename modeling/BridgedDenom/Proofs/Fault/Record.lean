import BridgedDenom.Proofs.Fault.Context
import BridgedDenom.Proofs.Value.Parts

/-!
# Recorded data and JSON

A recorded value is of a kind that JSON has (`Value.isJsonKind_recorded`): byte strings are
recorded as hex, and times, addresses, coins and views as text.  What is inside a list or a
mapping is not looked at (`Value.inner_recorded`).  So the parts of recorded data are the
recorded values and, as they came, the values inside lists and mappings (`parts_recorded`).

The data of a record can be written as JSON if and only if no list or mapping in it holds a value
of another kind (`data_json_iff`).  The shortest exception is a byte string in a mapping, which
stays a byte string (`bytes_in_mapping`).
-/

namespace BridgedDenom

namespace Value

/-! ## Recorded values -/

theorem isJsonKind_recorded (v : Value) : v.recorded.isJsonKind = true := by
  cases v with
  | bytes form => cases form <;> rfl
  | _ => rfl

theorem inner_recorded (v : Value) : v.recorded.inner = v.inner := by
  cases v with
  | bytes form => cases form <;> rfl
  | _ => rfl

theorem namesDiffer_recorded {v : Value} (differ : v.NamesDiffer) : v.recorded.NamesDiffer := by
  cases v with
  | bytes form => cases form <;> nofun
  | mapping => exact differ
  | _ => nofun

/-- The bytes of a byte string that is no view of another. -/
def ownBytes? : Value → Option Bytes
  | .bytes .view _ => none
  | v => v.byteString?

theorem recorded_of_ownBytes {v : Value} {octets : Bytes} (own : v.ownBytes? = some octets) :
    v.recorded = .text (Hex.encode octets) := by
  cases v with
  | bytes form data =>
      cases form with
      | view => cases own
      | _ => cases own; rfl
  | denom d => cases own; rfl
  | _ => cases own

end Value

namespace Fields

section
variable {fields : Fields}

theorem mem_recorded {field : Text × Value} :
    field ∈ fields.recorded ↔ ∃ v, (field.1, v) ∈ fields ∧ field.2 = v.recorded := by
  obtain ⟨name, w⟩ := field
  constructor
  · intro mem
    obtain ⟨⟨_, v⟩, given, same⟩ := List.mem_map.mp mem
    cases same
    exact ⟨v, given, rfl⟩
  · rintro ⟨v, given, rfl⟩
    exact List.mem_map_of_mem given

theorem names_recorded (fields : Fields) : fields.recorded.map Prod.fst = fields.map Prod.fst := by
  rw [recorded, List.map_map]
  rfl

theorem entryParts_recorded (fields : Fields) :
    Value.entryParts fields.recorded
      = fields.flatMap fun field => field.2.recorded :: field.2.inner := by
  induction fields with
  | nil => rfl
  | cons field rest ih =>
      calc Value.entryParts (recorded (field :: rest))
          = field.2.recorded.parts ++ Value.entryParts (recorded rest) := rfl
        _ = (field.2.recorded :: field.2.inner)
              ++ rest.flatMap fun field => field.2.recorded :: field.2.inner := by
            rw [Value.parts_eq, Value.inner_recorded, ih]

/-- The parts of recorded data. -/
theorem parts_recorded (fields : Fields) :
    (Value.mapping fields.recorded).parts = .mapping fields.recorded ::
      fields.flatMap fun field => field.2.recorded :: field.2.inner :=
  congrArg (_ :: ·) (entryParts_recorded fields)

/-- A property of all parts is one of the recorded values and of what is inside the values. -/
theorem forall_parts_recorded {P : Value → Prop} :
    (∀ part ∈ (Value.mapping fields.recorded).parts, P part) ↔
      P (.mapping fields.recorded) ∧
        ∀ field ∈ fields, P field.2.recorded ∧ ∀ part ∈ field.2.inner, P part := by
  rw [parts_recorded, List.forall_mem_cons]
  refine and_congr_right fun _ => ⟨fun all field mem => ?_, fun all part mem => ?_⟩
  · exact List.forall_mem_cons.mp fun part inside =>
      all part (List.mem_flatMap.mpr ⟨field, mem, inside⟩)
  · obtain ⟨field, given, inside⟩ := List.mem_flatMap.mp mem
    exact List.forall_mem_cons.mpr (all field given) part inside

/-- Only what is inside a value can be of a kind that JSON lacks. -/
theorem isJsonKind_parts_recorded_iff :
    (∀ part ∈ (Value.mapping fields.recorded).parts, part.isJsonKind = true) ↔
      ∀ field ∈ fields, ∀ part ∈ field.2.inner, part.isJsonKind = true := by
  rw [forall_parts_recorded]
  constructor
  · rintro ⟨-, all⟩ field mem
    exact (all field mem).2
  · intro all
    exact ⟨rfl, fun field mem => ⟨Value.isJsonKind_recorded field.2, all field mem⟩⟩

theorem namesDiffer_parts_recorded
    (differ : ∀ part ∈ (Value.mapping fields).parts, part.NamesDiffer) :
    ∀ part ∈ (Value.mapping fields.recorded).parts, part.NamesDiffer := by
  obtain ⟨self, others⟩ := List.forall_mem_cons.mp differ
  have inside : ∀ field ∈ fields, ∀ part ∈ field.2.parts, part.NamesDiffer :=
    fun field mem part inner => others part (Value.mem_entryParts.mpr ⟨field, mem, inner⟩)
  refine forall_parts_recorded.mpr ⟨?_, fun field mem => ⟨?_, fun part inner => ?_⟩⟩
  · intro entries same
    cases same
    rw [names_recorded]
    exact self fields rfl
  · exact Value.namesDiffer_recorded (inside field mem _ (Value.mem_parts_self _))
  · refine inside field mem part ?_
    rw [Value.parts_eq]
    exact List.mem_cons_of_mem _ inner

/-- Recorded data without a name twice can be written as JSON if and only if all its parts are of
kinds that JSON has. -/
theorem exists_ofJson_recorded_iff
    (differ : ∀ part ∈ (Value.mapping fields).parts, part.NamesDiffer) :
    (∃ document, Value.ofJson document = .mapping fields.recorded) ↔
      ∀ field ∈ fields, ∀ part ∈ field.2.inner, part.isJsonKind = true := by
  rw [Value.exists_ofJson_iff, ← isJsonKind_parts_recorded_iff]
  constructor
  · intro all part mem
    exact (all part mem).1
  · intro all part mem
    exact ⟨all part mem, namesDiffer_parts_recorded differ part mem⟩

end

end Fields

namespace Fault

/-- **Data in records.**  Of each name the record of a fault with context has the last value that
was given, in its recorded form.  A fault of the configuration records its data when it is made,
and this makes no difference.  Byte strings are there in hex, and at the top of the data every
value is of a kind that JSON has.  What is inside the lists and mappings that were given is there
unchanged.  So all values are of such kinds, at any depth, and the data can be written as JSON, if
and only if no list or mapping holds a value of another kind. -/
theorem data_json_iff (f : Fault) (contexts : List Fields) (includeCause : Bool) :
    let given := f.data.merge contexts.flatten
    let data := given.recorded
    ((f.enrich contexts).record includeCause).get? "data".toList = some (.mapping data) ∧
    (∀ name, data.lookup name = (given.lookup name).map Value.recorded) ∧
    (∀ message fields, f = configuration message fields →
      data = (fields.merge contexts.flatten).recorded) ∧
    (∀ name v octets, given.lookup name = some v → v.ownBytes? = some octets →
      data.lookup name = some (.text (Hex.encode octets))) ∧
    (∀ field ∈ data, field.2.isJsonKind = true) ∧
    (∀ field ∈ given, ∀ part ∈ field.2.inner, part ∈ (Value.mapping data).parts) ∧
    ((∀ part ∈ (Value.mapping data).parts, part.isJsonKind = true) ↔
      ∀ field ∈ given, ∀ part ∈ field.2.inner, part.isJsonKind = true) ∧
    ((∀ part ∈ (Value.mapping given).parts, part.NamesDiffer) →
      ((∃ document, Value.ofJson document = .mapping data) ↔
        ∀ field ∈ given, ∀ part ∈ field.2.inner, part.isJsonKind = true)) := by
  intro given data
  refine ⟨?record, Fields.lookup_recorded given, fun message fields made => ?made,
    fun name v octets named own => ?hex, ?top, fun field mem part inner => ?inside,
    Fields.isJsonKind_parts_recorded_iff, Fields.exists_ofJson_recorded_iff⟩
  case record =>
    rw [show data = (f.enrich contexts).data.recorded from (recorded_data_enrich f contexts).symm]
    rfl
  case made =>
    have kept : f.data = fields.recorded := made ▸ rfl
    rw [Fields.recorded_merge, ← Fields.recorded_recorded fields, ← kept, ← Fields.recorded_merge]
  case hex =>
    rw [Fields.lookup_recorded, named, ← Value.recorded_of_ownBytes own]
    rfl
  case top =>
    intro field mem
    obtain ⟨v, -, recorded⟩ := Fields.mem_recorded.mp mem
    rw [recorded]
    exact Value.isJsonKind_recorded v
  case inside =>
    rw [Fields.parts_recorded]
    exact List.mem_cons_of_mem _
      (List.mem_flatMap.mpr ⟨field, mem, List.mem_cons_of_mem _ inner⟩)

/-- A fault of the configuration with a byte string in a mapping. -/
def packed : Fault :=
  .configuration "m".toList [("data".toList, .mapping [("a".toList, .bytes .fixed [0x00, 0xFF])])]

/-- The byte string stays what it is, and the record has no place in JSON. -/
theorem bytes_in_mapping :
    (packed.record false).get? "data".toList = some (.mapping packed.data.recorded) ∧
    .bytes .fixed [0x00, 0xFF] ∈ (Value.mapping packed.data.recorded).parts ∧
    ¬ ∃ document, Value.ofJson document = .mapping packed.data.recorded := by
  have mem : Value.bytes .fixed [0x00, 0xFF] ∈ (Value.mapping packed.data.recorded).parts :=
    .tail _ (.tail _ (.head _))
  refine ⟨rfl, mem, fun written => ?_⟩
  have kind := (Value.exists_ofJson_iff.mp written _ mem).1
  cases kind

end Fault

end BridgedDenom
