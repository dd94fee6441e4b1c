import BridgedDenom.Value.Basic
import Mathlib.Data.List.Induction

/-!
# Merged fields

Merging sets one field after the other.  A field takes the place of the one that has its name
already, or else comes last.

*Names.*  If no name stands twice at first, none does later (`nodup_merge`), and no field is
made up (`mem_merge`).

*Values.*  Of the fields of a name the last one counts, and what was there before counts if none
was set (`lookup_merge_onto`).  Changing every value on its own does not disturb this
(`lookup_map`).

*Several merges.*  Fields may be merged among themselves before they are merged into others
(`merge_merge`).  This is an equation of lists, so it keeps the order too.  Both sides put a name
where it first appears, which is what `set_merge` says of the last field to be merged.
-/

namespace BridgedDenom

namespace Fields

section
variable {fields earlier later : Fields} {field : Text × Value} {key name : Text} {v : Value}

/-! ## Names -/

theorem mem_set (mem : field ∈ fields.set key v) : field = (key, v) ∨ field ∈ fields := by
  induction fields with
  | nil => exact .inl (List.mem_singleton.mp mem)
  | cons first rest ih =>
      rw [set] at mem
      split at mem
      · exact (List.mem_cons.mp mem).imp_right (List.mem_cons_of_mem first)
      · rcases List.mem_cons.mp mem with same | mem
        · exact .inr (same ▸ List.mem_cons_self)
        · exact (ih mem).imp_right (List.mem_cons_of_mem first)

theorem mem_names_set (mem : name ∈ (fields.set key v).map Prod.fst) :
    name = key ∨ name ∈ fields.map Prod.fst := by
  obtain ⟨field, set, rfl⟩ := List.mem_map.mp mem
  rcases mem_set set with same | old
  · exact .inl (congrArg Prod.fst same)
  · exact .inr (List.mem_map_of_mem old)

theorem nodup_set (key : Text) (v : Value) (distinct : (fields.map Prod.fst).Nodup) :
    ((fields.set key v).map Prod.fst).Nodup := by
  induction fields with
  | nil => exact List.pairwise_singleton _ key
  | cons first rest ih =>
      obtain ⟨fresh, others⟩ := List.nodup_cons.mp distinct
      rw [set]
      split
      case isTrue here => exact here ▸ distinct
      case isFalse elsewhere =>
        refine List.nodup_cons.mpr ⟨fun mem => ?_, ih others⟩
        rcases mem_names_set mem with same | mem
        · exact elsewhere same
        · exact fresh mem

theorem mem_merge (mem : field ∈ merge earlier later) : field ∈ earlier ∨ field ∈ later := by
  induction later generalizing earlier with
  | nil => exact .inl mem
  | cons first rest ih =>
      rcases ih mem with mem | mem
      · rcases mem_set mem with same | mem
        · exact .inr (same ▸ List.mem_cons_self)
        · exact .inl mem
      · exact .inr (List.mem_cons_of_mem first mem)

theorem nodup_merge (later : Fields) (distinct : (earlier.map Prod.fst).Nodup) :
    ((merge earlier later).map Prod.fst).Nodup := by
  induction later generalizing earlier with
  | nil => exact distinct
  | cons first rest ih => exact ih (nodup_set first.1 first.2 distinct)

/-! ## Values -/

theorem lookup_field (key : Text) (v : Value) (fields : Fields) (name : Text) :
    List.lookup name ((key, v) :: fields) = if name = key then some v else fields.lookup name := by
  by_cases same : name = key
  · rw [if_pos same, same, List.lookup_cons_self]
  · rw [if_neg same, List.lookup_cons, beq_false_of_ne same]

theorem lookup_set (fields : Fields) (key : Text) (v : Value) (name : Text) :
    (fields.set key v).lookup name = if name = key then some v else fields.lookup name := by
  induction fields with
  | nil => rw [set, lookup_field]
  | cons field rest ih =>
      obtain ⟨first, old⟩ := field
      rw [set, lookup_field]
      by_cases here : first = key
      · rw [if_pos here, lookup_field, here]
        split <;> rfl
      · rw [if_neg here, lookup_field, ih]
        by_cases same : name = first
        · rw [if_pos same, if_pos same, if_neg (same ▸ here)]
        · rw [if_neg same, if_neg same]

theorem merge_concat (earlier later : Fields) (key : Text) (v : Value) :
    merge earlier (later ++ [(key, v)]) = (merge earlier later).set key v :=
  merge_append earlier later [(key, v)]

/-- Of the fields of a name the last one counts, or else the one that was there. -/
theorem lookup_merge_onto (earlier later : Fields) (name : Text) :
    (merge earlier later).lookup name
      = (later.reverse.lookup name).or (earlier.lookup name) := by
  induction later using List.reverseRecOn with
  | nil => rfl
  | append_singleton later field ih =>
      obtain ⟨key, v⟩ := field
      rw [merge_concat, lookup_set, ih, List.reverse_append, List.reverse_singleton,
        List.singleton_append, lookup_field]
      split <;> rfl

theorem lookup_merge (later : Fields) (name : Text) :
    (merge [] later).lookup name = later.reverse.lookup name := by
  rw [lookup_merge_onto, List.lookup_nil, Option.or_none]

theorem lookup_map {α : Type} (f : Value → α) (fields : Fields) (name : Text) :
    (fields.map fun (name, v) => (name, f v)).lookup name = (fields.lookup name).map f := by
  induction fields with
  | nil => rfl
  | cons field rest ih =>
      rw [List.map_cons, List.lookup_cons, List.lookup_cons, ih]
      split <;> rfl

theorem map_set (f : Value → Value) (fields : Fields) (key : Text) (v : Value) :
    (fields.set key v).map (fun (name, v) => (name, f v))
      = Fields.set (fields.map fun (name, v) => (name, f v)) key (f v) := by
  induction fields with
  | nil => rfl
  | cons field rest ih =>
      rw [set, List.map_cons, set]
      split
      · rfl
      · rw [List.map_cons, ih]

theorem map_merge (f : Value → Value) (earlier later : Fields) :
    (merge earlier later).map (fun (name, v) => (name, f v))
      = Fields.merge (earlier.map fun (name, v) => (name, f v))
          (later.map fun (name, v) => (name, f v)) := by
  induction later generalizing earlier with
  | nil => rfl
  | cons field rest ih => exact (ih _).trans (congrArg (merge · _) (map_set f earlier _ _))

/-! ## Several merges -/

theorem set_set (fields : Fields) (key : Text) (old v : Value) :
    (fields.set key old).set key v = fields.set key v := by
  induction fields with
  | nil => simp [set]
  | cons field rest ih =>
      obtain ⟨first, w⟩ := field
      rw [set, set]
      by_cases here : first = key
      · rw [if_pos here, if_pos here, set, if_pos rfl]
      · rw [if_neg here, if_neg here, set, if_neg here, ih]

theorem mem_set_self (fields : Fields) (key : Text) (v : Value) :
    (key, v) ∈ fields.set key v := by
  induction fields with
  | nil => exact List.mem_singleton_self (key, v)
  | cons field rest ih =>
      rw [set]
      split
      · exact List.mem_cons_self
      · exact List.mem_cons_of_mem _ ih

theorem mem_names_set_self (fields : Fields) (key : Text) (v : Value) :
    key ∈ (fields.set key v).map Prod.fst := by
  induction fields with
  | nil => exact List.mem_singleton_self key
  | cons field rest ih =>
      rw [set]
      split
      · exact List.mem_cons_self
      · exact List.mem_cons_of_mem _ ih

theorem mem_names_set_of_mem (key : Text) (v : Value) (mem : name ∈ fields.map Prod.fst) :
    name ∈ (fields.set key v).map Prod.fst := by
  induction fields with
  | nil => cases mem
  | cons field rest ih =>
      rw [set]
      split
      case isTrue here => exact here ▸ mem
      case isFalse =>
        rcases List.mem_cons.mp mem with same | mem
        · exact same ▸ List.mem_cons_self
        · exact List.mem_cons_of_mem _ (ih mem)

/-- A field that has its place is set there, before or after another one. -/
theorem set_comm_of_mem (v w : Value) (mem : key ∈ fields.map Prod.fst) (other : name ≠ key) :
    (fields.set name w).set key v = (fields.set key v).set name w := by
  induction fields with
  | nil => cases mem
  | cons field rest ih =>
      obtain ⟨first, old⟩ := field
      by_cases here : first = key
      · subst here
        rw [set, if_neg other.symm, set, if_pos rfl, set, if_pos rfl, set, if_neg other.symm]
      · have later : key ∈ rest.map Prod.fst := by
          rcases List.mem_cons.mp mem with same | later
          · exact absurd same.symm here
          · exact later
        by_cases there : first = name
        · rw [set, if_pos there, set, if_neg other, set, if_neg here, set, if_pos there]
        · rw [set, if_neg there, set, if_neg here, set, if_neg here, set, if_neg there, ih later]

theorem set_merge_of_mem (v : Value) (mem : key ∈ earlier.map Prod.fst)
    (fresh : key ∉ later.map Prod.fst) :
    (merge earlier later).set key v = merge (earlier.set key v) later := by
  induction later generalizing earlier with
  | nil => rfl
  | cons field rest ih =>
      obtain ⟨first, w⟩ := field
      have other : key ≠ first := List.ne_of_not_mem_cons fresh
      have fresh : key ∉ rest.map Prod.fst := List.not_mem_of_not_mem_cons fresh
      calc (merge (earlier.set first w) rest).set key v
          = merge ((earlier.set first w).set key v) rest :=
            ih (mem_names_set_of_mem first w mem) fresh
        _ = merge ((earlier.set key v).set first w) rest := by
            rw [set_comm_of_mem v w mem other.symm]

/-- The last field to be merged may be set among the later fields first. -/
theorem set_merge (earlier : Fields) (key : Text) (v : Value)
    (distinct : (later.map Prod.fst).Nodup) :
    merge earlier (later.set key v) = (merge earlier later).set key v := by
  induction later generalizing earlier with
  | nil => rfl
  | cons field rest ih =>
      obtain ⟨first, old⟩ := field
      obtain ⟨fresh, others⟩ := List.nodup_cons.mp distinct
      rw [set]
      split
      case isTrue here =>
        subst here
        calc merge (earlier.set first v) rest
            = merge ((earlier.set first old).set first v) rest := by rw [set_set]
          _ = (merge (earlier.set first old) rest).set first v :=
              (set_merge_of_mem v (mem_names_set_self earlier first old) fresh).symm
      case isFalse => exact ih (earlier.set first old) others

/-- Fields may be merged among themselves first. -/
theorem merge_merge (earlier later : Fields) :
    merge earlier (merge [] later) = merge earlier later := by
  induction later using List.reverseRecOn with
  | nil => rfl
  | append_singleton later field ih =>
      obtain ⟨key, v⟩ := field
      have distinct : ((merge [] later).map Prod.fst).Nodup := nodup_merge later List.nodup_nil
      rw [merge_concat, set_merge earlier key v distinct, ih, merge_concat]

/-- One list of fields after the other is merged, or all of them in one go. -/
theorem foldl_merge (earlier : Fields) (lists : List Fields) :
    lists.foldl merge earlier = merge earlier lists.flatten := by
  induction lists generalizing earlier with
  | nil => rfl
  | cons first rest ih => rw [List.foldl_cons, ih, List.flatten_cons, merge_append]

end

end Fields

end BridgedDenom
