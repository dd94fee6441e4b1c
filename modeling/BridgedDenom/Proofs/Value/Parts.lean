import BridgedDenom.Proofs.Value.Fields
import BridgedDenom.Settings.Document
import BridgedDenom.Value.Parts

/-!
# Values of JSON documents

A value is what some JSON document is read as if and only if every part of it is of a kind that
JSON has and no mapping among them has a name twice (`exists_ofJson_iff`).  Both directions
follow the document or the value through its lists and mappings; behind an object that is read
stands a merge, which leaves fields with different names as they are (`Fields.merge_of_nodup`).
-/

namespace BridgedDenom

namespace Fields

theorem set_of_fresh {fields : Fields} {key : Text} (v : Value)
    (fresh : key ∉ fields.map Prod.fst) : fields.set key v = fields ++ [(key, v)] := by
  induction fields with
  | nil => rfl
  | cons field rest ih =>
      have other : key ≠ field.1 := List.ne_of_not_mem_cons fresh
      rw [set, if_neg other.symm, ih (List.not_mem_of_not_mem_cons fresh), List.cons_append]

/-- Fields with different names are merged as they stand. -/
theorem merge_of_nodup {fields : Fields} (distinct : (fields.map Prod.fst).Nodup) :
    merge [] fields = fields := by
  induction fields using List.reverseRecOn with
  | nil => rfl
  | append_singleton fields field ih =>
      obtain ⟨key, v⟩ := field
      rw [List.map_append] at distinct
      obtain ⟨others, -, apart⟩ := List.nodup_append.mp distinct
      have fresh : key ∉ fields.map Prod.fst := fun mem =>
        apart key mem key (List.mem_singleton_self key) rfl
      rw [merge_concat, ih others, set_of_fresh v fresh]

end Fields

namespace Value

/-! ## Parts -/

/-- The values in a value, at any depth, without the value itself. -/
def inner (v : Value) : List Value := v.parts.tail

section
variable {v part : Value} {items : List Value} {entries : Fields}

theorem parts_eq (v : Value) : v.parts = v :: v.inner := by
  cases v <;> rfl

theorem mem_parts_self (v : Value) : v ∈ v.parts := by
  rw [parts_eq]
  exact List.mem_cons_self

theorem mem_itemParts : part ∈ itemParts items ↔ ∃ v ∈ items, part ∈ v.parts := by
  induction items with
  | nil => simp [itemParts]
  | cons v rest ih => simp [itemParts, ih]

theorem mem_entryParts : part ∈ entryParts entries ↔ ∃ field ∈ entries, part ∈ field.2.parts := by
  induction entries with
  | nil => simp [entryParts]
  | cons field rest ih => simp [entryParts, ih]

/-! ## Documents -/

/-- The value is of a kind that JSON has. -/
def isJsonKind : Value → Bool
  | .null | .bool _ | .int _ | .float _ | .text _ | .list _ | .mapping _ => true
  | _ => false

/-- If the value is a mapping, it has no name twice. -/
def NamesDiffer (v : Value) : Prop := ∀ entries, v = .mapping entries → (entries.map Prod.fst).Nodup

/-- The value may stand in a JSON document. -/
def IsJsonPart (v : Value) : Prop := v.isJsonKind = true ∧ v.NamesDiffer

mutual

theorem isJsonPart_ofJson : ∀ document, ∀ part ∈ (ofJson document).parts, part.IsJsonPart
  | .null | .bool _ | .int _ | .float _ | .text _ => List.forall_mem_singleton.mpr ⟨rfl, nofun⟩
  | .list items => List.forall_mem_cons.mpr ⟨⟨rfl, nofun⟩, fun part mem => by
      obtain ⟨v, item, mem⟩ := mem_itemParts.mp mem
      exact isJsonPart_ofItems items v item part mem⟩
  | .object entries => List.forall_mem_cons.mpr ⟨⟨rfl, fun _ same => by
      cases same
      exact Fields.nodup_merge _ List.nodup_nil⟩, fun part mem => by
      obtain ⟨field, entry, mem⟩ := mem_entryParts.mp mem
      rcases Fields.mem_merge entry with entry | entry
      · cases entry
      · exact isJsonPart_ofEntries entries field entry part mem⟩

theorem isJsonPart_ofItems : ∀ items, ∀ v ∈ ofItems items, ∀ part ∈ v.parts, part.IsJsonPart
  | [] => nofun
  | item :: rest => List.forall_mem_cons.mpr ⟨isJsonPart_ofJson item, isJsonPart_ofItems rest⟩

theorem isJsonPart_ofEntries :
    ∀ entries, ∀ field ∈ ofEntries entries, ∀ part ∈ field.2.parts, part.IsJsonPart
  | [] => nofun
  | (_, document) :: rest =>
      List.forall_mem_cons.mpr ⟨isJsonPart_ofJson document, isJsonPart_ofEntries rest⟩

end

mutual

theorem exists_ofJson : ∀ v : Value, (∀ part ∈ v.parts, part.IsJsonPart) →
    ∃ document, ofJson document = v
  | .null, _ => ⟨.null, rfl⟩
  | .bool b, _ => ⟨.bool b, rfl⟩
  | .int n, _ => ⟨.int n, rfl⟩
  | .float x, _ => ⟨.float x, rfl⟩
  | .text s, _ => ⟨.text s, rfl⟩
  | .list items, fit => by
      obtain ⟨documents, read⟩ := exists_ofItems items (List.forall_mem_cons.mp fit).2
      exact ⟨.list documents, congrArg Value.list read⟩
  | .mapping entries, fit => by
      obtain ⟨self, others⟩ := List.forall_mem_cons.mp fit
      obtain ⟨documents, read⟩ := exists_ofEntries entries others
      refine ⟨.object documents, congrArg Value.mapping ?_⟩
      rw [read, Fields.merge_of_nodup (self.2 entries rfl)]
  | .time _, fit | .bytes _ _, fit | .denom _, fit | .address _, fit | .coin _ _, fit =>
      nomatch (fit _ (mem_parts_self _)).1

theorem exists_ofItems : ∀ items, (∀ part ∈ itemParts items, part.IsJsonPart) →
    ∃ documents, ofItems documents = items
  | [], _ => ⟨[], rfl⟩
  | v :: rest, fit => by
      obtain ⟨first, others⟩ := List.forall_mem_append.mp fit
      obtain ⟨document, read⟩ := exists_ofJson v first
      obtain ⟨documents, reads⟩ := exists_ofItems rest others
      exact ⟨document :: documents, by rw [ofItems, read, reads]⟩

theorem exists_ofEntries : ∀ entries, (∀ part ∈ entryParts entries, part.IsJsonPart) →
    ∃ documents, ofEntries documents = entries
  | [], _ => ⟨[], rfl⟩
  | (key, v) :: rest, fit => by
      obtain ⟨first, others⟩ := List.forall_mem_append.mp fit
      obtain ⟨document, read⟩ := exists_ofJson v first
      obtain ⟨documents, reads⟩ := exists_ofEntries rest others
      exact ⟨(key, document) :: documents, by rw [ofEntries, read, reads]⟩

end

/-- A value can be written as JSON if and only if all its parts can stand there. -/
theorem exists_ofJson_iff :
    (∃ document, ofJson document = v) ↔ ∀ part ∈ v.parts, part.IsJsonPart := by
  constructor
  · rintro ⟨document, rfl⟩
    exact isJsonPart_ofJson document
  · exact exists_ofJson v

end

end Value

end BridgedDenom
