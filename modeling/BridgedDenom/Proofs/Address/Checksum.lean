import BridgedDenom.Proofs.Address.Language

/-!
# Checksum case is a normal form

The checksum form of a byte string has its digits, and each letter among them is in upper case
exactly where the hex digit of the digest at the same index is at least eight.  `InCase` says this
of a text without the function that chooses the case, and it leaves that function no choice
(`encode?_eq_some_iff`).  A letter beyond the digest has no case, so a byte string with such a
letter has no checksum form, and every other byte string has one (`encode?_eq_none_iff`).

No fact on the digest is used but its length.  An address in checksum form spells the address, so
the form depends on the bytes alone: two spellings have one checksum form if and only if they
differ in letter case at most, and a checksum form is its own (`checksum_normal_form`).
-/

namespace BridgedDenom

namespace Checksum

/-! ## The case of one digit -/

/-- The character is the digit, and if it is a letter, a half byte decides its case. -/
def Cased (u digit : Char) (half : Option Nat) : Prop :=
  u.toLower = digit ∧ (u.isAlpha = true → ∃ n, half = some n ∧ (u.isUpper = true ↔ 8 ≤ n))

theorem cased_raise {n : Nat} (small : n < 16) (half : Nat) :
    Cased (raise (Hex.digit n) half) (Hex.digit n) (some half) := by
  have kept : ∀ m : Fin 16, (Hex.digit m).toLower = Hex.digit m ∧
      (Hex.digit m).isUpper = false := by decide
  have raised : ∀ m : Fin 16, (Hex.digit m).toUpper.toLower = Hex.digit m ∧
      ((Hex.digit m).toUpper.isAlpha = true → (Hex.digit m).toUpper.isUpper = true) := by decide
  by_cases high : 8 ≤ half
  · obtain ⟨lower, upper⟩ := raised ⟨n, small⟩
    rw [raise, if_pos high]
    exact ⟨lower, fun letter => ⟨half, rfl, iff_of_true (upper letter) high⟩⟩
  · obtain ⟨lower, upper⟩ := kept ⟨n, small⟩
    rw [raise, if_neg high]
    exact ⟨lower, fun _ => ⟨half, rfl, iff_of_false (by simp [upper]) high⟩⟩

theorem cased_none {n : Nat} (small : n < 16) (other : (Hex.digit n).isAlpha = false) :
    Cased (Hex.digit n) (Hex.digit n) none := by
  refine ⟨Hex.toLower_digit small, fun letter => ?_⟩
  rw [other] at letter
  cases letter

/-- A digit in some case is a letter if and only if the digit is one, and then it is in upper case
or the digit itself. -/
theorem forms_of_toLower {n : Nat} {u : Char} (small : n < 16) (lowered : u.toLower = Hex.digit n) :
    u.isAlpha = (Hex.digit n).isAlpha ∧
      u = if u.isAlpha && u.isUpper then (Hex.digit n).toUpper else Hex.digit n := by
  obtain ⟨k, rfl⟩ := Text.exists_code (Text.lt_of_toLower (lowered ▸ Hex.digit_lt small))
  have checked : ∀ m : Fin 16, ∀ k : Fin 128, (Char.ofNat k).toLower = Hex.digit m →
      (Char.ofNat k).isAlpha = (Hex.digit m).isAlpha ∧
      Char.ofNat k = if (Char.ofNat k).isAlpha && (Char.ofNat k).isUpper then
        (Hex.digit m).toUpper else Hex.digit m := by decide +kernel
  exact checked ⟨n, small⟩ k lowered

/-- A digit whose case is decided has one form. -/
theorem eq_of_toLower {n : Nat} {u w : Char} (small : n < 16) (hu : u.toLower = Hex.digit n)
    (hw : w.toLower = Hex.digit n)
    (case : u.isAlpha = true → w.isAlpha = true → u.isUpper = w.isUpper) : u = w := by
  obtain ⟨letterU, formU⟩ := forms_of_toLower small hu
  obtain ⟨letterW, formW⟩ := forms_of_toLower small hw
  have decided : (u.isAlpha && u.isUpper) = (w.isAlpha && w.isUpper) := by
    cases letter : (Hex.digit n).isAlpha with
    | true =>
        rw [letter] at letterU letterW
        rw [letterU, letterW, case letterU letterW]
    | false => rw [letterU, letterW, letter, Bool.false_and, Bool.false_and]
  rw [formU, formW, decided]

/-! ## The case of all digits -/

/-- The text has the given digits, and each letter in it has the case that the half byte of its
index decides. -/
structure InCase (written digits : Text) (half : Nat → Option Nat) : Prop where
  lower_eq : written.lower = digits
  isUpper_iff : ∀ i u, written[i]? = some u → u.isAlpha = true →
    ∃ n, half i = some n ∧ (u.isUpper = true ↔ 8 ≤ n)

section
variable {u digit : Char} {written digits rest : Text} {half : Nat → Option Nat}
  {values halves : List Nat}

theorem inCase_nil (half : Nat → Option Nat) : InCase [] [] half where
  lower_eq := rfl
  isUpper_iff i u found := by simp at found

theorem InCase.cons (first : Cased u digit (half 0))
    (others : InCase written rest fun i => half (i + 1)) :
    InCase (u :: written) (digit :: rest) half where
  lower_eq := List.cons_eq_cons.mpr ⟨first.1, others.lower_eq⟩
  isUpper_iff i w found letter := by
    cases i with
    | zero =>
        cases found
        exact first.2 letter
    | succ i => exact others.isUpper_iff i w found letter

theorem InCase.length_eq (h : InCase written digits half) : written.length = digits.length := by
  rw [← h.lower_eq, Text.length_lower]

theorem InCase.toLower_eq (h : InCase written (values.map Hex.digit) half) {i : Nat}
    (found : written[i]? = some u) : ∃ n ∈ values, u.toLower = Hex.digit n := by
  have mem : u.toLower ∈ written.lower := List.mem_map_of_mem (List.mem_of_getElem? found)
  rw [h.lower_eq] at mem
  obtain ⟨n, mem, same⟩ := List.mem_map.mp mem
  exact ⟨n, mem, same.symm⟩

/-- The half bytes leave no choice. -/
theorem InCase.unique {other : Text} (small : ∀ n ∈ values, n < 16)
    (h : InCase written (values.map Hex.digit) half)
    (h' : InCase other (values.map Hex.digit) half) : written = other := by
  refine List.ext_getElem (h.length_eq.trans h'.length_eq.symm) fun i inside inside' => ?_
  have found : written[i]? = some written[i] := List.getElem?_eq_getElem inside
  have found' : other[i]? = some other[i] := List.getElem?_eq_getElem inside'
  have lowered : written[i].toLower = other[i].toLower := by
    have same := congrArg (fun s : Text => s[i]?) (h.lower_eq.trans h'.lower_eq.symm)
    simpa [Text.lower, found, found'] using same
  obtain ⟨n, mem, digit⟩ := h.toLower_eq found
  refine eq_of_toLower (small n mem) digit (lowered ▸ digit) fun letter letter' => ?_
  obtain ⟨m, half, upper⟩ := h.isUpper_iff i _ found letter
  obtain ⟨m', half', upper'⟩ := h'.isUpper_iff i _ found' letter'
  rw [half] at half'
  cases half'
  exact Bool.eq_iff_iff.mpr (upper.trans upper'.symm)

theorem inCase_of_raiseAll? (small : ∀ n ∈ values, n < 16)
    (h : raiseAll? (values.map Hex.digit) halves = some written) :
    InCase written (values.map Hex.digit) fun i => halves[i]? := by
  induction values generalizing halves written with
  | nil =>
      cases h
      exact inCase_nil _
  | cons n values ih =>
      obtain ⟨first, small⟩ := List.forall_mem_cons.mp small
      cases halves with
      | nil =>
          simp only [List.map_cons, raiseAll?] at h
          split at h
          case isTrue => cases h
          case isFalse other =>
              obtain ⟨rest, raised, rfl⟩ := Option.map_eq_some_iff.mp h
              exact .cons (cased_none first (Bool.eq_false_iff.mpr other)) (ih small raised)
      | cons nibble halves =>
          simp only [List.map_cons, raiseAll?] at h
          obtain ⟨rest, raised, rfl⟩ := Option.map_eq_some_iff.mp h
          exact .cons (cased_raise first nibble) (ih small raised)

/-- Only a letter beyond the half bytes is refused. -/
theorem raiseAll?_eq_none_iff :
    raiseAll? digits halves = none ↔ (digits.drop halves.length).any Char.isAlpha = true := by
  induction digits generalizing halves with
  | nil => simp [raiseAll?]
  | cons c rest ih =>
      cases halves with
      | nil =>
          have others := @ih []
          simp only [List.length_nil, List.drop_zero] at others ⊢
          simp only [raiseAll?, List.any_cons, Bool.or_eq_true, ← others]
          split
          case isTrue letter => simp [letter]
          case isFalse other => simp [other]
      | cons nibble halves => simp [raiseAll?, ih]

/-- The case is chosen as the half bytes say, where they say it for every letter. -/
theorem raiseAll?_eq_some_iff (small : ∀ n ∈ values, n < 16) :
    raiseAll? (values.map Hex.digit) halves = some written ↔
      InCase written (values.map Hex.digit) fun i => halves[i]? := by
  constructor
  · exact inCase_of_raiseAll? small
  · intro h
    cases raised : raiseAll? (values.map Hex.digit) halves with
    | some other => rw [(inCase_of_raiseAll? small raised).unique small h]
    | none =>
        exfalso
        obtain ⟨c, mem, letter⟩ := List.any_eq_true.mp (raiseAll?_eq_none_iff.mp raised)
        obtain ⟨i, found⟩ := List.mem_iff_getElem?.mp mem
        rw [List.getElem?_drop, ← h.lower_eq, Text.lower, List.getElem?_map] at found
        obtain ⟨u, inside, rfl⟩ := Option.map_eq_some_iff.mp found
        obtain ⟨n, memN, lowered⟩ := h.toLower_eq inside
        have kind := (forms_of_toLower (small n memN) lowered).1
        rw [lowered, ← kind] at letter
        obtain ⟨half, decided, -⟩ := h.isUpper_iff _ u inside letter
        rw [List.getElem?_eq_none (Nat.le_add_right _ _)] at decided
        cases decided

end

/-! ## Checksum forms -/

/-- The value of the hex digit at an index of the digest of a text of digits. -/
def digestDigit? (digits : Text) (i : Nat) : Option Nat :=
  (Hex.encode (Keccak.digest digits.utf8))[i]?.bind Hex.value?

section
variable {raw : Bytes} {t : Text}

theorem digestDigit?_encode (raw : Bytes) :
    digestDigit? (Hex.encode raw) = fun i => (nibbles raw)[i]? := by
  funext i
  show (Hex.encode (Keccak.digest _))[i]?.bind Hex.value? = _
  rw [Hex.encode, List.getElem?_map, ← nibbles]
  cases found : (nibbles raw)[i]? with
  | none => rfl
  | some n => exact Hex.value?_digit (Hex.lt_of_mem_nibbles (List.mem_of_getElem? found))

/-- The checksum form of a byte string is the text of its digits in checksum case. -/
theorem encode?_eq_some_iff : encode? raw = some t ↔ ∃ digits, t = '0' :: 'x' :: digits ∧
    InCase digits (Hex.encode raw) (digestDigit? (Hex.encode raw)) := by
  have small : ∀ n ∈ Hex.nibbles raw, n < 16 := fun n => Hex.lt_of_mem_nibbles
  rw [digestDigit?_encode, encode?, Option.map_eq_some_iff]
  constructor
  · rintro ⟨digits, raised, rfl⟩
    exact ⟨digits, rfl, (raiseAll?_eq_some_iff small).mp raised⟩
  · rintro ⟨digits, rfl, cased⟩
    exact ⟨digits, (raiseAll?_eq_some_iff small).mpr cased, rfl⟩

/-- A byte string has no checksum form if and only if it has a letter beyond the digest. -/
theorem encode?_eq_none_iff : encode? raw = none ↔
    ∃ i c, 64 ≤ i ∧ (Hex.encode raw)[i]? = some c ∧ c.isAlpha = true := by
  rw [encode?, Option.map_eq_none_iff, raiseAll?_eq_none_iff, length_nibbles, List.any_eq_true]
  constructor
  · rintro ⟨c, mem, letter⟩
    obtain ⟨i, found⟩ := List.mem_iff_getElem?.mp mem
    rw [List.getElem?_drop] at found
    exact ⟨64 + i, c, Nat.le_add_right 64 i, found, letter⟩
  · rintro ⟨i, c, beyond, found, letter⟩
    refine ⟨c, List.mem_iff_getElem?.mpr ⟨i - 64, ?_⟩, letter⟩
    rw [List.getElem?_drop, Nat.add_sub_cancel' beyond, found]

/-- A byte string that is not longer than the digest has a checksum form. -/
theorem exists_encode? (short : raw.length ≤ 32) : ∃ t, encode? raw = some t := by
  cases encoded : encode? raw with
  | some t => exact ⟨t, rfl⟩
  | none =>
      obtain ⟨i, c, beyond, found, -⟩ := encode?_eq_none_iff.mp encoded
      have inside := (List.getElem?_eq_some_iff.mp found).1
      rw [Hex.length_encode] at inside
      omega

end

end Checksum

open Checksum (InCase digestDigit?)

/-! ## The checksum form of a value -/

namespace Value

section
variable {v : Value} {raw : Bytes} {t : Text} {failure : Failure}

theorem checksumText_of_byteString (bytes : v.byteString? = some raw) :
    v.checksumText = (Checksum.encode? raw).elim (.error .beyondDigest) .ok := by
  rw [checksumText, bytes]

theorem checksumText_eq_ok_iff (bytes : v.byteString? = some raw) :
    v.checksumText = .ok t ↔ ∃ digits, t = '0' :: 'x' :: digits ∧
      InCase digits (Hex.encode raw) (digestDigit? (Hex.encode raw)) := by
  rw [checksumText_of_byteString bytes, ← Checksum.encode?_eq_some_iff]
  cases Checksum.encode? raw <;> simp

theorem checksumText_eq_error_iff (bytes : v.byteString? = some raw) :
    v.checksumText = .error failure ↔ failure = .beyondDigest ∧
      ∃ i c, 64 ≤ i ∧ (Hex.encode raw)[i]? = some c ∧ c.isAlpha = true := by
  rw [checksumText_of_byteString bytes, ← Checksum.encode?_eq_none_iff]
  cases Checksum.encode? raw <;> simp [eq_comm]

theorem exists_checksumText (bytes : v.byteString? = some raw) (short : raw.length ≤ 32) :
    ∃ t, v.checksumText = .ok t := by
  obtain ⟨t, encoded⟩ := Checksum.exists_encode? short
  exact ⟨t, by rw [checksumText_of_byteString bytes, encoded]; rfl⟩

end

end Value

/-! ## The checksum form of an address -/

namespace Address

section
variable {s t : Text} {a b : Address}

theorem checksumOfText_of_spells (h : Spells s a) : checksumOfText s = .ok a.checksum :=
  (reads_checksumOfText s).accepts a h

/-- A checksum form is its own. -/
theorem checksumOfText_checksum (a : Address) : checksumOfText a.checksum = .ok a.checksum :=
  checksumOfText_of_spells (spells_checksum a)

theorem Spells.lower_drop (h : Spells s a) : Text.lower (s.drop 2) = Hex.encode a.raw := by
  obtain ⟨x, digits, rfl, -, lowered⟩ := h
  exact lowered

theorem inCase_checksum (a : Address) :
    InCase (a.checksum.drop 2) (Hex.encode a.raw) (digestDigit? (Hex.encode a.raw)) := by
  obtain ⟨digits, form, cased⟩ := Checksum.encode?_eq_some_iff.mp (encode?_raw a)
  rw [form]
  exact cased

/-- Two spellings have one checksum form if and only if they differ in letter case at most. -/
theorem checksumOfText_eq_iff (hs : Spells s a) (ht : Spells t b) :
    checksumOfText s = checksumOfText t ↔ s.lower = t.lower := by
  rw [checksumOfText_of_spells hs, checksumOfText_of_spells ht, Except.ok.injEq]
  constructor
  · intro same
    cases checksum_injective same
    exact hs.lower_eq ht
  · intro same
    rw [(hs.of_lower_eq same).unique ht]

theorem lower_eq_iff (hs : Spells s a) (ht : Spells t b) : s.lower = t.lower ↔ a = b := by
  constructor
  · exact fun same => (hs.of_lower_eq same).unique ht
  · rintro rfl
    exact hs.lower_eq ht

end

/-- The checksum form is a normal form of the spellings, whatever the digest is.

An address is read back from its checksum form, which is the lower-case form in another case.  The
checksum form of a spelling exists, is a spelling in another case and is its own checksum form, and
each letter in it is in upper case exactly where the digest of the forty lower-case digits has a
digit of at least eight.  It is shared by the spellings that differ in letter case at most, which
are those of one address.  Of the other byte strings, those have no checksum form that have a letter
beyond the digest. -/
theorem checksum_normal_form :
    (∀ a : Address, (ofValue (.text a.checksum)).outcome = .ok a ∧
      a.checksum.lower = Hex.encodeMarked a.raw ∧
      ∀ v : Value, v.byteString? = some a.raw → v.checksumText = .ok a.checksum) ∧
    (∀ s, IsSpelling s → ∃ t, (ofValue (.text s)).outcome.map checksum = .ok t ∧
      checksumOfText s = .ok t ∧ t.lower = s.lower ∧ checksumOfText t = .ok t ∧
      InCase (t.drop 2) (Text.lower (s.drop 2)) (digestDigit? (Text.lower (s.drop 2)))) ∧
    (∀ s t, IsSpelling s → IsSpelling t → ∃ a b, (ofValue (.text s)).outcome = .ok a ∧
      (ofValue (.text t)).outcome = .ok b ∧
      (checksumOfText s = checksumOfText t ↔ s.lower = t.lower) ∧
      (s.lower = t.lower ↔ a.raw = b.raw)) ∧
    (∀ (v : Value) raw, v.byteString? = some raw →
      (∀ t, v.checksumText = .ok t ↔ ∃ digits, t = '0' :: 'x' :: digits ∧
        InCase digits (Hex.encode raw) (digestDigit? (Hex.encode raw))) ∧
      (∀ failure, v.checksumText = .error failure ↔ failure = .beyondDigest ∧
        ∃ i c, 64 ≤ i ∧ (Hex.encode raw)[i]? = some c ∧ c.isAlpha = true) ∧
      (raw.length ≤ 32 → ∃ t, v.checksumText = .ok t)) := by
  refine ⟨fun a => ⟨?_, spells_iff_lower.mp (spells_checksum a), fun v bytes => ?_⟩,
    fun s spelling => ?_, fun s t spellingS spellingT => ?_, fun v raw bytes =>
      ⟨fun t => Value.checksumText_eq_ok_iff bytes, fun failure =>
        Value.checksumText_eq_error_iff bytes, Value.exists_checksumText bytes⟩⟩
  · rw [outcome_ofValue]
    exact ofText_of_spells (spells_checksum a)
  · rw [Value.checksumText_of_byteString bytes, encode?_raw]
    rfl
  · obtain ⟨a, spelled⟩ := isSpelling_iff_exists.mp spelling
    refine ⟨a.checksum, ?_, checksumOfText_of_spells spelled, (spells_checksum a).lower_eq spelled,
      checksumOfText_checksum a, ?_⟩
    · rw [outcome_ofValue, ofText_of_spells spelled]
      rfl
    · rw [spelled.lower_drop]
      exact inCase_checksum a
  · obtain ⟨a, spelledS⟩ := isSpelling_iff_exists.mp spellingS
    obtain ⟨b, spelledT⟩ := isSpelling_iff_exists.mp spellingT
    refine ⟨a, b, ?_, ?_, checksumOfText_eq_iff spelledS spelledT, ?_⟩
    · rw [outcome_ofValue, ofText_of_spells spelledS]
    · rw [outcome_ofValue, ofText_of_spells spelledT]
    · rw [lower_eq_iff spelledS spelledT]
      exact ⟨congrArg raw, eq_of_raw⟩

/-- A spelling in upper case, its lower case, and a byte string that is no address. -/
theorem checksum_normal_form_upper :
    checksumOfText "0X52908400098527886E0F7030069857D2E4169EE7".toList =
      checksumOfText "0x52908400098527886e0f7030069857d2e4169ee7".toList ∧
    (∃ t, checksumOfText "0X52908400098527886E0F7030069857D2E4169EE7".toList = .ok t ∧
      checksumOfText t = .ok t) ∧
    ∃ t, (Value.bytes .fixed [0xAB, 0xCD]).checksumText = .ok t := by
  refine ⟨?_, ?_, (checksum_normal_form.2.2.2 (.bytes .fixed [0xAB, 0xCD]) _ rfl).2.2 (by decide)⟩
  · obtain ⟨a, b, -, -, same, -⟩ := checksum_normal_form.2.2.1
      "0X52908400098527886E0F7030069857D2E4169EE7".toList
      "0x52908400098527886e0f7030069857d2e4169ee7".toList (by decide) (by decide)
    exact same.mpr (by decide)
  · obtain ⟨t, -, accepted, -, fixed, -⟩ := checksum_normal_form.2.1
      "0X52908400098527886E0F7030069857D2E4169EE7".toList (by decide)
    exact ⟨t, accepted, fixed⟩

end Address

end BridgedDenom
