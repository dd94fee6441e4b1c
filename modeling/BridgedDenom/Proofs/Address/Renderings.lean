import BridgedDenom.Denomination.Basic
import BridgedDenom.Proofs.Address.Order
import BridgedDenom.Proofs.Text.Utf8
import BridgedDenom.Value.Conversion

/-!
# The order of renderings

Texts are in the order of their code points, whatever the widths of their characters
(`order_of_texts`), since this is the order of their bytes.

*Digits.*  A byte has its higher half in front, so bytes compare as their halves do
(`compare_halves`), and a greater half has a greater digit, the letters being behind the
decimal digits (`digit_lt_digit`).  By induction two byte strings compare as their digits
(`compare_codes_encode`).  What stands in front of both alike, be it a mark or a lead, does
not matter.

*Sorting.*  A way to write addresses as items keeps their order if it changes no comparison
(`KeepsOrder`).  Inserting looks at comparisons only, so all these ways put a further item in
the same place (`exists_insertSorted_written`), and sort alike (`exists_sort_written`).
-/

namespace BridgedDenom

/-! ## Digits -/

namespace Hex

section
variable {m n : Nat}

theorem digit_lt_digit (less : m < n) (small : n < 16) : (digit m).toNat < (digit n).toNat := by
  have code : ∀ k < 16, (digit k).toNat = if k < 10 then 48 + k else 87 + k := by decide
  rw [code m (by omega), code n small]
  split <;> split <;> omega

theorem compare_digit (hm : m < 16) (hn : n < 16) :
    compare (digit m).toNat (digit n).toNat = compare m n := by
  rcases Nat.lt_trichotomy m n with less | rfl | greater
  · rw [Nat.compare_eq_lt.mpr less]
    exact Nat.compare_eq_lt.mpr (digit_lt_digit less hn)
  · rw [Nat.compare_eq_eq.mpr rfl, Nat.compare_eq_eq.mpr rfl]
  · rw [Nat.compare_eq_gt.mpr greater]
    exact Nat.compare_eq_gt.mpr (digit_lt_digit greater hm)

theorem compare_halves_of_lt (less : m < n) :
    (compare (m / 16) (n / 16)).then (compare (m % 16) (n % 16)) = .lt := by
  rcases Nat.lt_or_eq_of_le (Nat.div_le_div_right (c := 16) (Nat.le_of_lt less)) with high | same
  · rw [Nat.compare_eq_lt.mpr high]
    rfl
  · have low : m % 16 < n % 16 := by omega
    rw [Nat.compare_eq_eq.mpr same, Ordering.eq_then]
    exact Nat.compare_eq_lt.mpr low

/-- The higher half of a byte decides first. -/
theorem compare_halves (m n : Nat) :
    (compare (m / 16) (n / 16)).then (compare (m % 16) (n % 16)) = compare m n := by
  rcases Nat.lt_trichotomy m n with less | rfl | greater
  · rw [compare_halves_of_lt less, Nat.compare_eq_lt.mpr less]
  · simp only [Nat.compare_eq_eq.mpr, Ordering.eq_then]
  · rw [← Nat.compare_swap (n / 16), ← Nat.compare_swap (n % 16), ← Ordering.swap_then,
      compare_halves_of_lt greater, Nat.compare_eq_gt.mpr greater]
    rfl

/-- The digits of byte strings compare as the byte strings.  The induction is on both, a
byte being two digits. -/
theorem compare_codes_encode (x y : Bytes) :
    compare (Text.codes (encode x)) (Text.codes (encode y)) = x.compare y := by
  induction x generalizing y with
  | nil => cases y <;> rfl
  | cons first x ih =>
      cases y with
      | nil => rfl
      | cons second y =>
          have bound : ∀ byte : UInt8, byte.toNat / 16 < 16 ∧ byte.toNat % 16 < 16 := by
            intro byte
            have := byte.toNat_lt
            omega
          have step : compare (Text.codes (encode (first :: x))) (Text.codes (encode (second :: y)))
              = (compare first.toNat second.toNat).then (Bytes.compare x y) := by
            simp only [encode_cons, Text.codes, List.map_cons, List.compare_cons_cons]
            rw [compare_digit (bound first).1 (bound second).1,
              compare_digit (bound first).2 (bound second).2, ← Ordering.then_assoc,
              compare_halves]
            exact congrArg _ (ih y)
          rw [step]
          rcases Bytes.byte_trichotomy first second with less | rfl | greater
          · rw [Nat.compare_eq_lt.mpr (UInt8.lt_iff_toNat_lt.mp less),
              Bytes.compare_cons_of_lt less]
            rfl
          · rw [Nat.compare_eq_eq.mpr rfl, Ordering.eq_then, Bytes.compare_cons_self]
          · rw [Nat.compare_eq_gt.mpr (UInt8.lt_iff_toNat_lt.mp greater),
              Bytes.compare_cons_of_gt greater]
            rfl

theorem compare_utf8_encode (x y : Bytes) :
    (encode x).utf8.compare (encode y).utf8 = x.compare y := by
  rw [Text.compare_utf8, compare_codes_encode]

theorem compare_utf8_encodeMarked (x y : Bytes) :
    (encodeMarked x).utf8.compare (encodeMarked y).utf8 = x.compare y := by
  have mark (z : Bytes) : (encodeMarked z).utf8 = Text.utf8 ['0', 'x'] ++ (encode z).utf8 :=
    Text.utf8_append ['0', 'x'] (encode z)
  rw [mark, mark, Bytes.compare_append_left, compare_utf8_encode]

end

end Hex

namespace Address

/-! ## Byte strings as values -/

section
variable {v w : Value} {x y : Bytes}

theorem exists_item_of_byteString (bytes : v.byteString? = some x) :
    ∃ item : Item, item.value = v ∧ item.key = x ∧ ∀ a, item ≠ .address a := by
  cases v with
  | bytes form data => exact ⟨.bytes form data, rfl, Option.some.inj bytes, nofun⟩
  | denom d => exact ⟨.denom d, rfl, Option.some.inj bytes, nofun⟩
  | _ => cases bytes

theorem compareOctets_of_byteString (hv : v.byteString? = some x) (hw : w.byteString? = some y) :
    v.compareOctets w = .ok (x.compare y) := by
  obtain ⟨item, rfl, rfl, notAddress⟩ := exists_item_of_byteString hv
  obtain ⟨item', rfl, rfl, notAddress'⟩ := exists_item_of_byteString hw
  rw [compareOctets_value notAddress notAddress']
  exact compareValues_value item item'

theorem hexText_of_byteString (hv : v.byteString? = some x) (marked : Bool) :
    v.hexText marked = .ok (if marked then Hex.encodeMarked x else Hex.encode x) := by
  simp only [Value.hexText, hv]

theorem compareOctets_text (s t : Text) :
    (Value.text s).compareOctets (.text t) = .ok (s.utf8.compare t.utf8) :=
  (compareOctets_value (x := .text s) (y := .text t) nofun nofun).trans
    (compareValues_value (.text s) (.text t))

/-! ## Ways to write an address -/

/-- A way to write addresses that changes no comparison. -/
def KeepsOrder (write : Address → Item) : Prop :=
  ∀ a b, (write a).compare (write b) = (Item.address a).compare (.address b)

/-- The digits of the denomination of an address. -/
def storedText (c : Convention) (a : Address) : Text := Hex.encode (c.encode a).bytes

theorem keepsOrder_address : KeepsOrder .address := fun _ _ => rfl

theorem keepsOrder_denom (c : Convention) : KeepsOrder fun a => .denom (c.encode a) :=
  fun _ _ => Bytes.compare_append_left _ _ _

theorem keepsOrder_storedText (c : Convention) : KeepsOrder fun a => .text (storedText c a) :=
  fun a b => (Hex.compare_utf8_encode _ _).trans (keepsOrder_denom c a b)

end

/-! ## Sorting -/

section
variable {α : Type}

/-- Labelled addresses as items. -/
def written (write : Address → Item) (items : List (Address × α)) : List (Item × α) :=
  items.map fun (a, label) => (write a, label)

theorem value_injective {x y : Item} (same : x.value = y.value) : x = y := by
  cases x <;> cases y <;> cases same <;> rfl

theorem values_injective {items items' : List (Item × α)} (same : values items = values items') :
    items = items' := by
  refine (List.map_inj_right fun x y same => ?_).mp same
  obtain ⟨sameValue, sameLabel⟩ := Prod.mk.inj same
  exact Prod.ext (value_injective sameValue) sameLabel

/-- The place of a further item is the same in every writing.  The induction is on the sorted
list, and each step of it is one comparison. -/
theorem exists_insertSorted_written (a : Address) (label : α) (sorted : List (Address × α)) :
    ∃ sorted', ∀ write, KeepsOrder write →
      insertSorted ((write a).value, label) (values (written write sorted))
        = .ok (values (written write sorted')) := by
  induction sorted with
  | nil => exact ⟨[(a, label)], fun _ _ => rfl⟩
  | cons next rest ih =>
      by_cases less : (Item.address a).compare (.address next.1) = .lt
      · exact ⟨(a, label) :: next :: rest, fun write keeps =>
          insertSorted_of_less ((keeps a next.1).trans less)⟩
      · obtain ⟨rest', inserted⟩ := ih
        refine ⟨next :: rest', fun write keeps => insertSorted_of_not_less ?_ (inserted write keeps)⟩
        rwa [keeps a next.1]

/-- Items are put one after the other into what is sorted already. -/
theorem exists_sortOnto_written (sorted items : List (Address × α)) :
    ∃ sorted', ∀ write, KeepsOrder write →
      sortOnto (values (written write sorted)) (values (written write items))
        = .ok (values (written write sorted')) := by
  induction items generalizing sorted with
  | nil => exact ⟨sorted, fun _ _ => rfl⟩
  | cons item rest ih =>
      obtain ⟨next, inserted⟩ := exists_insertSorted_written item.1 item.2 sorted
      obtain ⟨sorted', rested⟩ := ih next
      refine ⟨sorted', fun write keeps => ?_⟩
      have step : sortOnto (values (written write sorted)) (values (written write (item :: rest)))
          = (insertSorted ((write item.1).value, item.2) (values (written write sorted))).bind
              fun next => sortOnto next (values (written write rest)) := rfl
      rw [step, inserted write keeps]
      exact rested write keeps

theorem exists_sort_written (items : List (Address × α)) :
    ∃ sorted, (∀ write, KeepsOrder write →
      sort (values (written write items)) = .ok (values (written write sorted))) ∧
      Sorts (written .address items) (written .address sorted) := by
  obtain ⟨sorted, sorting⟩ := exists_sortOnto_written [] items
  obtain ⟨result, sortsTo, sorts⟩ := exists_sort (written .address items)
  have same := sortsTo.symm.trans (sorting _ keepsOrder_address)
  obtain rfl := values_injective (Except.ok.inj same)
  exact ⟨sorted, sorting, sorts⟩

end

/-! ## Main statements -/

/-- Texts are compared by their code points, the first difference deciding and a proper
beginning coming first. -/
theorem order_of_texts (s t : Text) :
    ∃ result, compareValues (.text s) (.text t) = .ok result ∧
      result = compare (Text.codes s) (Text.codes t) ∧
      (result = .lt ↔ List.Lex (· < ·) (Text.codes s) (Text.codes t)) ∧
      (result = .eq ↔ s = t) ∧
      (result = .gt ↔ List.Lex (· < ·) (Text.codes t) (Text.codes s)) := by
  have compared := compareValues_value (.text s) (.text t)
  rw [Item.compare, Item.key, Item.key, Text.compare_utf8] at compared
  refine ⟨_, compared, rfl, Text.compare_eq_lt_iff, ?_, ?_⟩
  · rw [Std.LawfulEqOrd.compare_eq_iff_eq]
    exact ⟨Text.codes_injective, congrArg Text.codes⟩
  · rw [Std.OrientedCmp.gt_iff_lt]
    exact Text.compare_eq_lt_iff

/-- Every way to write byte strings in lower case keeps their order.  Byte strings of any
lengths compare as their digits, marked or not.  Addresses compare as their denominations under
any convention and as the digits of these, and in all three ways there is one order into which
labelled addresses are sorted. -/
theorem order_of_renderings :
    (∀ (v w : Value) x y marked, v.byteString? = some x → w.byteString? = some y →
      v.compareOctets w = .ok (Bytes.compare x y) ∧
      ∃ s t, v.hexText marked = .ok s ∧ w.hexText marked = .ok t ∧
        (Value.text s).compareOctets (.text t) = .ok (Bytes.compare x y)) ∧
    (∀ (c : Convention) (a b : Address), ∃ result s t,
      (Value.denom (c.encode a)).hexText false = .ok s ∧
      (Value.denom (c.encode b)).hexText false = .ok t ∧
      compareValues (.address a) (.address b) = .ok result ∧
      compareValues (.denom (c.encode a)) (.denom (c.encode b)) = .ok result ∧
      compareValues (.text s) (.text t) = .ok result) ∧
    (∀ (c : Convention) (α : Type) (items : List (Address × α)), ∃ sorted,
      Sorts (written .address items) (written .address sorted) ∧
      ∀ write ∈ [Item.address, fun a => .denom (c.encode a), fun a => .text (storedText c a)],
        sort (values (written write items)) = .ok (values (written write sorted))) := by
  refine ⟨fun v w x y marked hv hw => ⟨compareOctets_of_byteString hv hw, ?_⟩,
    fun c a b => ?_, fun c α items => ?_⟩
  · refine ⟨_, _, hexText_of_byteString hv marked, hexText_of_byteString hw marked, ?_⟩
    rw [compareOctets_text]
    cases marked with
    | false => exact congrArg _ (Hex.compare_utf8_encode x y)
    | true => exact congrArg _ (Hex.compare_utf8_encodeMarked x y)
  · have asAddress : ∀ write, KeepsOrder write →
        compareValues (write a).value (write b).value
          = .ok ((Item.address a).compare (.address b)) := by
      intro write keeps
      rw [compareValues_value, keeps]
    exact ⟨_, storedText c a, storedText c b, rfl, rfl, asAddress _ keepsOrder_address,
      asAddress _ (keepsOrder_denom c), asAddress _ (keepsOrder_storedText c)⟩
  · obtain ⟨sorted, sorting, sorts⟩ := exists_sort_written items
    refine ⟨sorted, sorts, fun write mem => sorting write ?_⟩
    simp only [List.mem_cons, List.not_mem_nil, or_false] at mem
    rcases mem with rfl | rfl | rfl
    · exact keepsOrder_address
    · exact keepsOrder_denom c
    · exact keepsOrder_storedText c

/-- A letter is behind a decimal digit, and a text can come first though it is the longer one.
Two addresses that differ so in all their bytes change places in storage as they do by
themselves. -/
theorem order_of_renderings_letter :
    (Value.text "0x9fff".toList).compareOctets (.text "0xa0".toList) = .ok .lt ∧
    (let items : List (Address × Text) :=
       [(⟨List.replicate 20 0xA0, rfl⟩, ['b']), (⟨List.replicate 20 0x9F, rfl⟩, ['a'])]
     ∃ sorted, Sorts (written .address items) (written .address sorted) ∧
       sort (values (written (fun a => .text (storedText .default a)) items))
         = .ok (values (written (fun a => .text (storedText .default a)) sorted))) := by
  obtain ⟨-, s, t, hs, ht, compared⟩ :=
    order_of_renderings.1 (.bytes .fixed [0x9F, 0xFF]) (.bytes .view [0xA0]) _ _ true rfl rfl
  cases hs
  cases ht
  refine ⟨compared, ?_⟩
  obtain ⟨sorted, sorts, sorting⟩ := order_of_renderings.2.2 .default Text
    [(⟨List.replicate 20 0xA0, rfl⟩, ['b']), (⟨List.replicate 20 0x9F, rfl⟩, ['a'])]
  exact ⟨sorted, sorts, sorting _ (.tail _ (.tail _ (.head _)))⟩

end Address

end BridgedDenom
