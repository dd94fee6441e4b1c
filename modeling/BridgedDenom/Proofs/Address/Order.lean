import BridgedDenom.Address.Order
import BridgedDenom.Proofs.Address.Spelling
import BridgedDenom.Proofs.Bytes.Order

/-!
# The order of addresses and of what stands for them

An `Item` is a value that has a place in the order, and its key are the bytes that decide
where this is.  Comparing two items is comparing their keys (`compareValues_value`), so
the laws of the order are those of byte strings, for items of all kinds at once.

*Inserting.*  In a sorted list there is one place for a further item behind those that
are not greater: all items before it are at most equal, all items after it are greater
(`exists_insertSorted`).

*Sorting.*  `Sorts` says what a stable sort does: it keeps the items, puts them in order,
and leaves items of one key as they were.  Inserting one more item keeps this
(`Sorts.insert`), and so does the insertion of one item after the other
(`Sorts.sortOnto`).  There is one list at most that sorts another (`Sorts.unique`), and
its keys do not depend on the order of the items at all (`Sorts.keys_eq`).
-/

namespace BridgedDenom

namespace Address

/-! ## Items -/

/-- What can be compared as an address. -/
inductive Item where
  | address (a : Address)
  | text (s : Text)
  | bytes (form : ByteForm) (data : Bytes)
  | denom (d : Denomination)

namespace Item

def value : Item → Value
  | address a => .address a
  | text s => .text s
  | bytes form data => .bytes form data
  | denom d => .denom d

/-- The bytes by which an item is ordered. -/
def key : Item → Bytes
  | address a => a.raw
  | text s => s.utf8
  | bytes _ data => data
  | denom d => d.bytes

def compare (x y : Item) : Ordering := x.key.compare y.key

theorem compare_swap (x y : Item) : x.compare y = (y.compare x).swap := Bytes.compare_swap _ _

instance : Std.TransCmp compare where
  eq_swap := compare_swap _ _
  isLE_trans := Bytes.compare_isLE_trans

theorem compare_eq_eq_iff {x y : Item} : x.compare y = .eq ↔ x.key = y.key :=
  Bytes.compare_eq_eq_iff

end Item

section
variable {x y z : Item} {v : Value} {k : Bytes}

theorem orderKey_value (x : Item) : orderKey x.value = .ok x.key := by
  cases x <;> rfl

/-- The values with a key are the items. -/
theorem orderKey_eq_ok_iff : orderKey v = .ok k ↔ ∃ x : Item, x.value = v ∧ x.key = k := by
  constructor
  · intro h
    cases v with
    | text s => exact ⟨.text s, rfl, Except.ok.inj h⟩
    | bytes form data => exact ⟨.bytes form data, rfl, Except.ok.inj h⟩
    | denom d => exact ⟨.denom d, rfl, Except.ok.inj h⟩
    | address a => exact ⟨.address a, rfl, Except.ok.inj h⟩
    | _ => cases h
  · rintro ⟨x, rfl, rfl⟩
    exact orderKey_value x

theorem compareValues_value (x y : Item) : compareValues x.value y.value = .ok (x.compare y) := by
  simp [compareValues, orderKey_value, bind, Except.bind, pure, Except.pure, Item.compare]

theorem isLess_value (x y : Item) : isLess x.value y.value = .ok (x.compare y == .lt) := by
  simp [isLess, compareValues_value, bind, Except.bind, pure, Except.pure]

/-- Texts and byte strings are compared as octets. -/
theorem octets_value (h : ∀ a, x ≠ .address a) : x.value.octets = .ok x.key := by
  cases x with
  | address a => exact absurd rfl (h a)
  | _ => rfl

theorem compareOctets_value (hx : ∀ a, x ≠ .address a) (hy : ∀ a, y ≠ .address a) :
    x.value.compareOctets y.value = compareValues x.value y.value := by
  simp [Value.compareOctets, octets_value hx, octets_value hy, compareValues_value, bind,
    Except.bind, pure, Except.pure, Item.compare]

/-! ## Addresses -/

theorem lt_iff_compare {a b : Address} :
    a < b ↔ (Item.address a).compare (.address b) = .lt :=
  Bytes.compare_eq_lt_iff.symm

theorem le_iff_compare {a b : Address} :
    a ≤ b ↔ ((Item.address a).compare (.address b)).isLE :=
  Bytes.compare_isLE_iff.symm

end

/-! ## Inserting -/

section
variable {α : Type} {items sorted sorted' : List (Item × α)}

/-- Labelled items as values. -/
def values (items : List (Item × α)) : List (Value × α) :=
  items.map fun (x, label) => (x.value, label)

/-- The items stand in order. -/
def InOrder (items : List (Item × α)) : Prop :=
  items.Pairwise fun x y => (x.1.compare y.1).isLE

theorem insertSorted_of_less {x : Item} {label : α} {next : Item × α}
    (less : x.compare next.1 = .lt) : insertSorted (x.value, label) (values (next :: sorted))
      = .ok (values ((x, label) :: next :: sorted)) := by
  simp [values, insertSorted, isLess_value, less, bind, Except.bind, pure, Except.pure]

theorem insertSorted_of_not_less {x : Item} {label : α} {next : Item × α}
    (notLess : x.compare next.1 ≠ .lt)
    (inserted : insertSorted (x.value, label) (values sorted) = .ok (values sorted')) :
    insertSorted (x.value, label) (values (next :: sorted)) = .ok (values (next :: sorted')) := by
  simp only [values] at inserted
  simp [values, insertSorted, isLess_value, notLess, inserted, bind, Except.bind, pure,
    Except.pure]

/-- The place of a further item in a sorted list.  The induction is on the list; the item
goes in front of the first one that is greater, and all that follow are greater too. -/
theorem exists_insertSorted (x : Item) (label : α) (inOrder : InOrder sorted) :
    ∃ before after, sorted = before ++ after ∧
      insertSorted (x.value, label) (values sorted)
        = .ok (values (before ++ (x, label) :: after)) ∧
      (∀ y ∈ before, (y.1.compare x).isLE) ∧ (∀ y ∈ after, x.compare y.1 = .lt) := by
  induction sorted with
  | nil => exact ⟨[], [], rfl, rfl, by simp, by simp⟩
  | cons next rest ih =>
      obtain ⟨first, restInOrder⟩ := List.pairwise_cons.mp inOrder
      by_cases less : x.compare next.1 = .lt
      · refine ⟨[], next :: rest, rfl, insertSorted_of_less less, by simp, fun y mem => ?_⟩
        rcases List.mem_cons.mp mem with rfl | mem
        · exact less
        · exact Std.TransCmp.lt_of_lt_of_isLE less (first y mem)
      · obtain ⟨before, after, rfl, inserted, atMost, greater⟩ := ih restInOrder
        have behind : (next.1.compare x).isLE := by
          rw [Item.compare_swap]
          revert less
          cases x.compare next.1 <;> simp
        refine ⟨next :: before, after, rfl, insertSorted_of_not_less less inserted,
          fun y mem => ?_, greater⟩
        rcases List.mem_cons.mp mem with rfl | mem
        · exact behind
        · exact atMost y mem

/-! ## Sorting -/

/-- The second list is the first one sorted, and items of one key have kept their places
relative to each other. -/
structure Sorts (items sorted : List (Item × α)) : Prop where
  perm : sorted.Perm items
  inOrder : InOrder sorted
  stable : ∀ k, sorted.filter (fun x => x.1.key = k) = items.filter (fun x => x.1.key = k)

theorem sorts_nil : Sorts ([] : List (Item × α)) [] where
  perm := .nil
  inOrder := .nil
  stable _ := rfl

/-- A further item behind all others is put behind those that are not greater. -/
theorem Sorts.insert (h : Sorts items sorted) (x : Item) (label : α) :
    ∃ sorted', insertSorted (x.value, label) (values sorted) = .ok (values sorted') ∧
      Sorts (items ++ [(x, label)]) sorted' := by
  obtain ⟨before, after, rfl, inserted, atMost, greater⟩ :=
    exists_insertSorted x label h.inOrder
  obtain ⟨beforeInOrder, afterInOrder, across⟩ := List.pairwise_append.mp h.inOrder
  refine ⟨_, inserted, ?_, ?_, fun k => ?_⟩
  · have front := List.perm_middle.trans (h.perm.cons (x, label))
    exact front.trans (List.perm_append_singleton _ _).symm
  · refine List.pairwise_append.mpr ⟨beforeInOrder, ?_, fun y memY z memZ => ?_⟩
    · refine List.pairwise_cons.mpr ⟨fun y mem => ?_, afterInOrder⟩
      rw [greater y mem]
      rfl
    · rcases List.mem_cons.mp memZ with rfl | memZ
      · exact atMost y memY
      · exact across y memY z memZ
  · -- No item after the place has the key of the new one, so this is the last with its key.
    have others : x.key = k → after.filter (fun y => y.1.key = k) = [] := by
      rintro rfl
      refine List.filter_eq_nil_iff.mpr fun y mem => ?_
      have less := greater y mem
      simp only [decide_eq_true_eq]
      intro same
      rw [Item.compare_eq_eq_iff.mpr same.symm] at less
      cases less
    have old := h.stable k
    rw [List.filter_append] at old ⊢
    rw [List.filter_append, ← old]
    by_cases same : x.key = k
    · simp [same, others same]
    · simp [same]

/-- Items put one after the other into what is sorted already. -/
theorem Sorts.sortOnto (h : Sorts items sorted) (more : List (Item × α)) :
    ∃ sorted', Address.sortOnto (values sorted) (values more) = .ok (values sorted') ∧
      Sorts (items ++ more) sorted' := by
  induction more generalizing items sorted with
  | nil =>
      rw [List.append_nil]
      exact ⟨sorted, rfl, h⟩
  | cons item rest ih =>
      obtain ⟨next, inserted, sorts⟩ := h.insert item.1 item.2
      obtain ⟨result, rested, sorts⟩ := ih sorts
      rw [List.append_assoc] at sorts
      refine ⟨result, ?_, sorts⟩
      simp only [values, List.map_cons, Address.sortOnto] at inserted rested ⊢
      rw [inserted]
      exact rested

theorem exists_sort (items : List (Item × α)) :
    ∃ sorted, sort (values items) = .ok (values sorted) ∧ Sorts items sorted :=
  sorts_nil.sortOnto items

/-- The keys of sorted items do not depend on how the items came. -/
theorem Sorts.keys_eq {items' : List (Item × α)} (h : Sorts items sorted)
    (h' : Sorts items' sorted') (perm : items.Perm items') :
    sorted.map (fun x => x.1.key) = sorted'.map (fun x => x.1.key) := by
  have keysInOrder : ∀ {list : List (Item × α)}, InOrder list →
      (list.map fun x => x.1.key).Pairwise fun k l => (k.compare l).isLE :=
    fun inOrder => List.pairwise_map.mpr inOrder
  refine List.Perm.eq_of_pairwise (fun k l _ _ le ge => ?_) (keysInOrder h.inOrder)
    (keysInOrder h'.inOrder) (((h.perm.trans perm).trans h'.perm.symm).map _)
  exact Bytes.compare_eq_eq_iff.mp (Std.OrientedCmp.isLE_antisymm le ge)

/-- A list is made of its keys and of what belongs to each of them. -/
theorem eq_of_keys_of_filter {list list' : List (Item × α)}
    (keys : list.map (fun x => x.1.key) = list'.map (fun x => x.1.key))
    (filters : ∀ k, list.filter (fun x => x.1.key = k) = list'.filter (fun x => x.1.key = k)) :
    list = list' := by
  induction list generalizing list' with
  | nil => exact (List.map_eq_nil_iff.mp keys.symm).symm
  | cons x rest ih =>
      obtain ⟨x', rest', rfl, first, others⟩ := List.map_eq_cons_iff.mp keys.symm
      have ofKey := filters x.1.key
      rw [List.filter_cons_of_pos (by simp), List.filter_cons_of_pos (by simp [first])] at ofKey
      obtain rfl : x = x' := List.head_eq_of_cons_eq ofKey
      refine congrArg _ (ih others.symm fun k => ?_)
      have ofThis := filters k
      by_cases same : x.1.key = k
      · rw [List.filter_cons_of_pos (by simp [same]), List.filter_cons_of_pos (by simp [same])]
          at ofThis
        exact List.tail_eq_of_cons_eq ofThis
      · rwa [List.filter_cons_of_neg (by simp [same]), List.filter_cons_of_neg (by simp [same])]
          at ofThis

theorem Sorts.unique (h : Sorts items sorted) (h' : Sorts items sorted') : sorted = sorted' :=
  eq_of_keys_of_filter (h.keys_eq h' (.refl items)) fun k =>
    (h.stable k).trans (h'.stable k).symm

end

/-! ## The order and the sort that it determines -/

/-- Items of all kinds are compared by a total preorder: the comparison always has a
result, exchanging the items turns it around, it is that of equality if and only if the
keys are equal, and it is transitive.  A proper beginning comes first.  On texts and byte
strings this is the comparison of octets, and on addresses it is their own order.

Sorting never fails.  Its result is the one list that has the same items in order, those of
one key as they came, and the keys of the result are the same however the items came. -/
theorem order_determines_sort :
    (∀ v k, orderKey v = .ok k ↔ ∃ x : Item, x.value = v ∧ x.key = k) ∧
    (∀ x y : Item, ∃ result, compareValues x.value y.value = .ok result ∧
      compareValues y.value x.value = .ok result.swap ∧ (result = .eq ↔ x.key = y.key) ∧
      isLess x.value y.value = .ok (result == .lt)) ∧
    (∀ x y z : Item, ∀ left right, compareValues x.value y.value = .ok left →
      compareValues y.value z.value = .ok right → left ≠ .gt → right ≠ .gt →
      ∃ result, compareValues x.value z.value = .ok result ∧ result ≠ .gt) ∧
    (∀ x y : Item, ∀ rest, y.key = x.key ++ rest → rest ≠ [] →
      compareValues x.value y.value = .ok .lt) ∧
    (∀ x y : Item, (∀ a, x ≠ .address a) → (∀ a, y ≠ .address a) →
      compareValues x.value y.value = x.value.compareOctets y.value) ∧
    (∀ a b : Address, ∃ result, compareValues (.address a) (.address b) = .ok result ∧
      (a < b ↔ result = .lt) ∧ (a ≤ b ↔ result ≠ .gt) ∧ (a > b ↔ result = .gt) ∧
      (a ≥ b ↔ result ≠ .lt) ∧ (a = b ↔ result = .eq)) ∧
    (∀ (α : Type) (items : List (Item × α)), ∃ sorted,
      sort (values items) = .ok (values sorted) ∧ Sorts items sorted ∧
      ∀ sorted', Sorts items sorted' → sorted' = sorted) ∧
    (∀ (α : Type) (items items' : List (Item × α)), items.Perm items' → ∃ sorted sorted',
      sort (values items) = .ok (values sorted) ∧ sort (values items') = .ok (values sorted') ∧
      sorted.map (fun x => x.1.key) = sorted'.map (fun x => x.1.key)) := by
  refine ⟨fun _ _ => orderKey_eq_ok_iff, fun x y => ?_, fun x y z left right xy yz le le' => ?_,
    fun x y rest longer proper => ?_, fun x y hx hy => (compareOctets_value hx hy).symm,
    fun a b => ?_, fun α items => ?_, fun α items items' perm => ?_⟩
  · refine ⟨x.compare y, compareValues_value x y, ?_, Item.compare_eq_eq_iff, isLess_value x y⟩
    rw [compareValues_value, Item.compare_swap]
  · rw [compareValues_value] at xy yz
    cases xy
    cases yz
    have atMost : (x.compare z).isLE :=
      Std.TransCmp.isLE_trans (Ordering.ne_gt_iff_isLE.mp le) (Ordering.ne_gt_iff_isLE.mp le')
    exact ⟨_, compareValues_value x z, Ordering.ne_gt_iff_isLE.mpr atMost⟩
  · rw [compareValues_value, Item.compare, longer, Bytes.compare_append_self x.key proper]
  · refine ⟨_, compareValues_value (.address a) (.address b), lt_iff_compare, ?_, ?_, ?_, ?_⟩
    · exact le_iff_compare.trans Ordering.isLE_iff_ne_gt
    · rw [gt_iff_lt, lt_iff_compare, Std.OrientedCmp.gt_iff_lt]
    · rw [ge_iff_le, le_iff_compare, ← Std.OrientedCmp.isGE_iff_isLE]
      exact Ordering.isGE_iff_ne_lt
    · rw [Item.compare_eq_eq_iff]
      exact ⟨congrArg raw, eq_of_raw⟩
  · obtain ⟨sorted, sorting, sorts⟩ := exists_sort items
    exact ⟨sorted, sorting, sorts, fun sorted' sorts' => sorts'.unique sorts⟩
  · obtain ⟨sorted, sorting, sorts⟩ := exists_sort items
    obtain ⟨sorted', sorting', sorts'⟩ := exists_sort items'
    exact ⟨sorted, sorted', sorting, sorting', sorts.keys_eq sorts' perm⟩

end Address

end BridgedDenom
