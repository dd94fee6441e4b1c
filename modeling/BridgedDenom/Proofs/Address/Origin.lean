import BridgedDenom.Denomination.Reading
import BridgedDenom.Proofs.Address.Spelling

/-!
# What becomes an address

An address is made of a value in two ways, of its octets or of its raw bytes, and either way
only the number of these bytes is checked in the end.  A byte string is taken for its own bytes
both ways, so it becomes an address if and only if it has twenty of them.

Values of other kinds are converted first, each way by rules of its own.  A text has octets and
no raw bytes (`octets_eq_ok_iff`).  Raw bytes and no octets have an address, a list of small
integers, an empty mapping, and an integer, which counts zeros (`rawBytes_eq_ok_iff`).  So there
are addresses of bytes that nobody handed over (`twenty_zeros`).  Nothing but a byte string
becomes an address both ways (`origin_exact`).
-/

namespace BridgedDenom

namespace Value

/-- The bytes that a value consists of, if it is a byte string or an address. -/
def givenBytes? : Value → Option Bytes
  | .address a => some a.raw
  | v => v.byteString?

/-- The value is a list of integers, one for each byte. -/
def Lists (v : Value) (data : Bytes) : Prop :=
  ∃ items, v = .list items ∧ items.map integer? = data.map fun byte => some (byte.toNat : Int)

/-- The value is the number of the bytes, and these are zero. -/
def Counts (v : Value) (data : Bytes) : Prop :=
  v.integer? = some (data.length : Int) ∧ (data.length : Int) < countLimit ∧
    data = List.replicate data.length 0

section
variable {v : Value} {data : Bytes}

/-! ## Octets -/

theorem octets_eq_ok_iff :
    v.octets = .ok data ↔ v.byteString? = some data ∨ ∃ s, v = .text s ∧ s.utf8 = data := by
  cases v <;> simp [octets, byteString?]

/-! ## Raw bytes -/

theorem itemByte_eq_ok_iff {byte : UInt8} :
    itemByte v = .ok byte ↔ v.integer? = some (byte.toNat : Int) := by
  have bound : byte.toNat < 256 := byte.toNat_lt
  unfold itemByte
  cases number : v.integer? with
  | none => simp
  | some n =>
      by_cases small : 0 ≤ n ∧ n ≤ 255
      case pos =>
        have whole : (UInt8.ofNat n.toNat).toNat = n.toNat := by
          rw [UInt8.toNat_ofNat', Nat.mod_eq_of_lt (by omega)]
        simp only [small, and_self, if_true, Except.ok.injEq, Option.some.injEq]
        constructor
        · rintro rfl
          omega
        · intro same
          rw [same, Int.toNat_natCast, UInt8.ofNat_toNat]
      case neg =>
        simp only [small, if_false, reduceCtorEq, Option.some.injEq, false_iff]
        omega

theorem mapM_itemByte_eq_ok_iff {items : List Value} :
    items.mapM itemByte = .ok data ↔
      items.map integer? = data.map fun byte => some (byte.toNat : Int) := by
  induction items generalizing data with
  | nil => cases data <;> simp [pure, Except.pure]
  | cons v rest ih =>
      rw [List.mapM_cons]
      simp only [bind_eq_ok_iff, itemByte_eq_ok_iff, ih]
      constructor
      · rintro ⟨byte, first, bytes, others, made⟩
        cases made
        rw [List.map_cons, List.map_cons, first, others]
      · intro same
        cases data with
        | nil => cases same
        | cons byte bytes =>
            obtain ⟨first, others⟩ := List.cons.inj same
            exact ⟨byte, first, bytes, others, rfl⟩

theorem zeroBytes_eq_ok_iff {n : Int} :
    zeroBytes n = .ok data ↔
      n = data.length ∧ (data.length : Int) < countLimit ∧ data = List.replicate data.length 0 := by
  constructor
  · intro made
    unfold zeroBytes at made
    split at made
    · cases made
    · next inRange =>
      split at made
      · cases made
      · next positive =>
        cases made
        have whole : (n.toNat : Int) = n := Int.toNat_of_nonneg (Int.not_lt.mp positive)
        rw [List.length_replicate, whole]
        exact ⟨rfl, Int.not_le.mp fun above => inRange (.inl above), rfl⟩
  · rintro ⟨rfl, fits, zeros⟩
    have inRange : ¬ (countLimit ≤ (data.length : Int) ∨ (data.length : Int) < -countLimit) := by
      simp only [countLimit] at fits ⊢
      omega
    have positive : ¬ (data.length : Int) < 0 := by omega
    rw [zeroBytes, if_neg inRange, if_neg positive, Int.toNat_natCast, ← zeros]

theorem givenBytes?_of_byteString (own : v.byteString? = some data) :
    v.givenBytes? = some data := by
  cases v with
  | address a => cases own
  | _ => exact own

/-- The cases are the kinds of values; only four of them are converted. -/
theorem rawBytes_eq_ok_iff :
    v.rawBytes = .ok data ↔ v.givenBytes? = some data ∨ v.Lists data ∨ v.Counts data ∨
      (v = .mapping [] ∧ data = []) := by
  cases v with
  | list items =>
      simp [rawBytes, givenBytes?, byteString?, Lists, Counts, integer?, mapM_itemByte_eq_ok_iff]
  | mapping entries =>
      cases entries with
      | nil => simp [rawBytes, givenBytes?, byteString?, Lists, Counts, integer?, eq_comm]
      | cons => simp [rawBytes, givenBytes?, byteString?, Lists, Counts, integer?]
  | bool b =>
      simp [rawBytes, givenBytes?, byteString?, Lists, Counts, integer?, zeroBytes_eq_ok_iff]
  | int n =>
      simp [rawBytes, givenBytes?, byteString?, Lists, Counts, integer?, zeroBytes_eq_ok_iff]
  | _ => simp [rawBytes, givenBytes?, byteString?, Lists, Counts, integer?]

/-- Truth values count to one at most. -/
theorem counts_twenty_iff (twenty : data.length = 20) :
    v.Counts data ↔ v = .int 20 ∧ data = List.replicate 20 0 := by
  have fits : ((20 : Nat) : Int) < countLimit := by decide
  rw [Counts, twenty]
  constructor
  · rintro ⟨number, -, zeros⟩
    refine ⟨?_, zeros⟩
    cases v with
    | int n => cases number; rfl
    | bool b => cases b <;> cases number
    | _ => cases number
  · rintro ⟨rfl, zeros⟩
    exact ⟨rfl, fits, zeros⟩

/-- Only a byte string has both octets and raw bytes. -/
theorem byteString_of_both {other : Bytes} (octets : v.octets = .ok data)
    (raw : v.rawBytes = .ok other) : v.byteString? = some data := by
  rcases octets_eq_ok_iff.mp octets with own | ⟨s, rfl, -⟩
  · exact own
  · cases raw

end

end Value

namespace Address

section
variable {v : Value} {a : Address} {data : Bytes}

theorem ofBytes_eq_ok_iff : ofBytes data = .ok a ↔ data = a.raw := by
  constructor
  · intro made
    unfold ofBytes at made
    split at made
    · cases made
      rfl
    · cases made
  · rintro rfl
    exact ofBytes_raw a

theorem ofBytes_of_length (length : data.length ≠ 20) :
    ofBytes data = .error (.wrongLength rawName size data.length) := by
  rw [ofBytes, dif_neg length]

/-- The length of the octets is checked twice, and the second time it is right. -/
theorem ofOctets_eq (v : Value) : ofOctets v = (do ofBytes (← v.octets)) := by
  unfold ofOctets Value.octetsOfLength
  cases v.octets with
  | error failure => rfl
  | ok data =>
      by_cases length : data.length = 20
      case pos =>
        have counted : (data.length : Int) = size := congrArg Int.ofNat length
        simp only [bind, Except.bind, counted, if_true]
        rfl
      case neg =>
        have counted : ¬ (data.length : Int) = size := fun same => length (Int.ofNat.inj same)
        simp only [bind, Except.bind, counted, if_false, ofBytes_of_length length]
        rfl

theorem ofOctets_eq_ok_iff : ofOctets v = .ok a ↔ v.octets = .ok a.raw := by
  rw [ofOctets_eq, bind_eq_ok_iff]
  constructor
  · rintro ⟨data, octets, made⟩
    rw [octets, ofBytes_eq_ok_iff.mp made]
  · intro octets
    exact ⟨a.raw, octets, ofBytes_raw a⟩

theorem ofRawBytes_eq_ok_iff : ofRawBytes v = .ok a ↔ v.rawBytes = .ok a.raw := by
  rw [ofRawBytes, bind_eq_ok_iff]
  constructor
  · rintro ⟨data, raw, made⟩
    rw [raw, ofBytes_eq_ok_iff.mp made]
  · intro raw
    exact ⟨a.raw, raw, ofBytes_raw a⟩

/-! ## Byte strings -/

theorem ofOctets_of_byteString (own : v.byteString? = some data) : ofOctets v = ofBytes data := by
  rw [ofOctets_eq, Value.octets_eq_ok_iff.mpr (.inl own)]
  rfl

theorem ofRawBytes_of_byteString (own : v.byteString? = some data) :
    ofRawBytes v = ofBytes data := by
  rw [ofRawBytes, Value.rawBytes_eq_ok_iff.mpr (.inl (Value.givenBytes?_of_byteString own))]
  rfl

end

/-! ## Denominations -/

/-- An address has its own raw bytes, so it is no special case. -/
theorem encodeValue_eq (c : Convention) (v : Value) :
    c.encodeValue v = (ofRawBytes v).map c.encode := by
  cases v with
  | address a =>
      have made : ofRawBytes (.address a) = .ok a := ofRawBytes_eq_ok_iff.mpr rfl
      rw [made]
      rfl
  | _ => rfl

theorem encodeValue_eq_ok_iff {c : Convention} {v : Value} {d : Denomination} :
    c.encodeValue v = .ok d ↔ ∃ a, ofRawBytes v = .ok a ∧ d = c.encode a := by
  rw [encodeValue_eq]
  cases ofRawBytes v with
  | error failure => simp [Except.map]
  | ok a => simp [Except.map, eq_comm]

/-- **Where the bytes of an address come from.**  By its octets a value becomes an address if it
is a byte string of the bytes of the address or a text that they encode.  By its raw bytes it
becomes an address if these are the bytes that it consists of, or the integers that it lists, or
if it is the integer twenty and they are zero; and a denomination is made of a value as it is made
of the address that the value becomes.

On a byte string all agree: they accept it if it has twenty bytes and else refuse it in one way.
A value that becomes an address both ways is such a byte string. -/
theorem origin_exact (c : Convention) (v : Value) :
    (∀ a, ofOctets v = .ok a ↔
      v.byteString? = some a.raw ∨ ∃ s, v = .text s ∧ s.utf8 = a.raw) ∧
    (∀ a, ofRawBytes v = .ok a ↔
      v.givenBytes? = some a.raw ∨ v.Lists a.raw ∨
        v = .int 20 ∧ a.raw = List.replicate 20 0) ∧
    (∀ d, c.encodeValue v = .ok d ↔
      ∃ a, ofRawBytes v = .ok a ∧ d = c.encode a ∧ d.bytes = c.leadBytes ++ a.raw) ∧
    (∀ data, v.byteString? = some data →
      (∀ twenty : data.length = 20, ofOctets v = .ok ⟨data, twenty⟩ ∧
        ofRawBytes v = .ok ⟨data, twenty⟩ ∧ c.encodeValue v = .ok (c.encode ⟨data, twenty⟩)) ∧
      (data.length ≠ 20 → let refusal := .wrongLength rawName size data.length
        ofOctets v = .error refusal ∧ ofRawBytes v = .error refusal ∧
          c.encodeValue v = .error refusal)) ∧
    (∀ a b, ofOctets v = .ok a → ofRawBytes v = .ok b → v.byteString? = some a.raw ∧ a = b) := by
  refine ⟨fun a => ?octets, fun a => ?raw, fun d => ?denom, fun data own => ⟨fun twenty => ?accept,
    fun length => ?refuse⟩, fun a b => ?both⟩
  case octets => rw [ofOctets_eq_ok_iff, Value.octets_eq_ok_iff]
  case raw =>
    have filled : ¬ (v = .mapping [] ∧ a.raw = []) := fun ⟨_, empty⟩ => by
      have length := a.length_raw
      rw [empty] at length
      cases length
    rw [ofRawBytes_eq_ok_iff, Value.rawBytes_eq_ok_iff, Value.counts_twenty_iff a.length_raw,
      or_iff_left filled]
  case denom =>
    rw [encodeValue_eq_ok_iff]
    constructor
    · rintro ⟨a, made, rfl⟩
      exact ⟨a, made, rfl, c.encode_bytes a⟩
    · rintro ⟨a, made, encoded, -⟩
      exact ⟨a, made, encoded⟩
  case accept =>
    have made : ofBytes data = .ok ⟨data, twenty⟩ := ofBytes_eq_ok_iff.mpr rfl
    rw [encodeValue_eq, ofOctets_of_byteString own, ofRawBytes_of_byteString own, made]
    exact ⟨rfl, rfl, rfl⟩
  case refuse =>
    rw [encodeValue_eq, ofOctets_of_byteString own, ofRawBytes_of_byteString own,
      ofBytes_of_length length]
    exact ⟨rfl, rfl, rfl⟩
  case both =>
    intro octets raw
    have own := Value.byteString_of_both (ofOctets_eq_ok_iff.mp octets)
      (ofRawBytes_eq_ok_iff.mp raw)
    rw [ofOctets_of_byteString own] at octets
    rw [ofRawBytes_of_byteString own, octets] at raw
    exact ⟨own, Except.ok.inj raw⟩

/-- The integer twenty becomes twenty zeros and so do the denominations made of it, although no
byte was handed over; by its octets it is refused.  A text of twenty letters becomes an address by
its octets; by its raw bytes it is refused. -/
theorem twenty_zeros :
    let letters := Value.text (List.replicate 20 'a')
    (Value.int 20).givenBytes? = none ∧
    (ofRawBytes (.int 20)).map Address.raw = .ok (List.replicate 20 0) ∧
    (Convention.default.encodeValue (.int 20)).map Denomination.bytes
      = .ok (Convention.default.leadBytes ++ List.replicate 20 0) ∧
    ofOctets (.int 20) = .error (.noOctets "int".toList) ∧
    letters.givenBytes? = none ∧
    (ofOctets letters).map Address.raw = .ok (List.replicate 20 97) ∧
    ofRawBytes letters = .error .wrongKind :=
  ⟨rfl, rfl, rfl, rfl, rfl, rfl, rfl⟩

end Address

end BridgedDenom
