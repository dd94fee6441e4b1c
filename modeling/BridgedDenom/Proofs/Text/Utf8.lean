import BridgedDenom.Proofs.Bytes.Order
import BridgedDenom.Text.Utf8

/-!
# The order of UTF-8

The bytes of two texts compare as their code points do (`compare_utf8`).  The encoding of a
character is a first byte and then the last digits of its code in base 64
(`utf8EncodeChar_eq`).

*First bytes.*  A greater code has no smaller first byte, since each width begins where the
one before it ends (`lead_le`).  Where the first bytes are the same, so are the widths and what the
digits leave of the two codes (`of_lead_eq`).

*Digits.*  Of two codes that differ in their last digits only, the greater one has the
greater digits (`lex_followers`), by induction on their number.  So the first byte in which
two encodings differ decides as the codes do, and neither of them ends before it
(`lex_utf8EncodeChar`): what follows the two characters does not matter.
-/

namespace BridgedDenom

namespace Text

/-- The code points of a text. -/
def codes (s : Text) : List Nat := s.map Char.toNat

theorem codes_injective {s t : Text} (h : codes s = codes t) : s = t :=
  List.map_inj_right (fun _ _ => Char.toNat_inj.mp) |>.mp h

/-- Coming first is coming first in the order of lists. -/
theorem compare_eq_lt_iff {ms ns : List Nat} : compare ms ns = .lt ↔ List.Lex (· < ·) ms ns := by
  induction ms generalizing ns with
  | nil => cases ns <;> simp
  | cons m ms ih =>
      cases ns with
      | nil => simp
      | cons n ns =>
          rw [List.compare_cons_cons, Ordering.then_eq_lt, Nat.compare_eq_lt, Nat.compare_eq_eq, ih,
            List.cons_lex_cons_iff]

/-! ## The parts of an encoding -/

/-- How many bytes follow the first one in the encoding of a code. -/
def followerCount (code : Nat) : Nat :=
  if code ≤ 0x7F then 0 else if code ≤ 0x7FF then 1 else if code ≤ 0xFFFF then 2 else 3

/-- The first byte of the encoding of a code. -/
def lead (code : Nat) : Nat :=
  if code ≤ 0x7F then code
  else if code ≤ 0x7FF then 0xC0 + code / 64
  else if code ≤ 0xFFFF then 0xE0 + code / 64 / 64
  else 0xF0 + code / 64 / 64 / 64

/-- A number without so many of its last digits in base 64. -/
def dropDigits : Nat → Nat → Nat
  | 0, code => code
  | count + 1, code => dropDigits count (code / 64)

/-- So many of the last digits of a number in base 64, each as a byte behind the first one. -/
def followers : Nat → Nat → Bytes
  | 0, _ => []
  | count + 1, code => followers count (code / 64) ++ [UInt8.ofNat (0x80 + code % 64)]

section
variable {c d : Char} {m n : Nat}

theorem toNat_lt (c : Char) : c.toNat < 0x110000 := by
  have valid : c.toNat < 0xD800 ∨ 0xDFFF < c.toNat ∧ c.toNat < 0x110000 := c.valid
  omega

theorem lead_lt (small : n < 0x110000) : lead n < 256 := by
  unfold lead
  repeat' split
  all_goals omega

theorem utf8EncodeChar_eq (c : Char) :
    String.utf8EncodeChar c
      = UInt8.ofNat (lead c.toNat) :: followers (followerCount c.toNat) c.toNat := by
  have small := toNat_lt c
  have code : c.val.toNat = c.toNat := rfl
  -- The quotients that are written out are already within their numbers of bits.
  have two : c.toNat ≤ 0x7FF → c.toNat / 64 % 32 + 192 = 0xC0 + c.toNat / 64 := by omega
  have three : c.toNat ≤ 0xFFFF → c.toNat / 4096 % 16 + 224 = 0xE0 + c.toNat / 64 / 64 := by omega
  have four : c.toNat / 262144 % 8 + 240 = 0xF0 + c.toNat / 64 / 64 / 64 := by omega
  have second : c.toNat / 4096 = c.toNat / 64 / 64 := by omega
  simp only [String.utf8EncodeChar, lead, followerCount, code]
  split
  · rfl
  · split
    · next le => rw [two le, Nat.add_comm (c.toNat % 64)]; rfl
    · split
      · next le => rw [three le, Nat.add_comm (c.toNat % 64), Nat.add_comm (c.toNat / 64 % 64)]; rfl
      · rw [four, second, Nat.add_comm (c.toNat % 64), Nat.add_comm (c.toNat / 64 % 64),
          Nat.add_comm (c.toNat / 64 / 64 % 64)]
        rfl

/-! ## Order -/

theorem lead_le (le : m ≤ n) : lead m ≤ lead n := by
  unfold lead
  repeat' split
  all_goals omega

/-- The first byte gives the number of the others, and all of the code but their digits. -/
theorem of_lead_eq (same : lead m = lead n) : followerCount m = followerCount n ∧
    dropDigits (followerCount m) m = dropDigits (followerCount n) n := by
  revert same
  unfold lead followerCount
  repeat' split
  all_goals
    intro same
    simp only [dropDigits, true_and]
    omega

/-- Two bytes behind the first one compare as their digits. -/
theorem follower_lt_iff : UInt8.ofNat (0x80 + m % 64) < UInt8.ofNat (0x80 + n % 64) ↔
    m % 64 < n % 64 := by
  rw [UInt8.lt_iff_toNat_lt, UInt8.toNat_ofNat', UInt8.toNat_ofNat']
  omega

/-- The induction is on the number of digits: either the codes differ before the last digit,
or only in it. -/
theorem lex_followers {count : Nat} (less : m < n) (same : dropDigits count m = dropDigits count n)
    (xs ys : Bytes) : List.Lex (· < ·) (followers count m ++ xs) (followers count n ++ ys) := by
  induction count generalizing m n xs ys with
  | zero => exact absurd same (Nat.ne_of_lt less)
  | succ count ih =>
      simp only [followers, List.append_assoc, List.singleton_append]
      rcases Nat.lt_or_eq_of_le (Nat.div_le_div_right (c := 64) (Nat.le_of_lt less)) with before | here
      · exact ih before same _ _
      · have last : m % 64 < n % 64 := by omega
        rw [here]
        exact List.append_left_lt (List.Lex.rel (follower_lt_iff.mpr last))

/-- A character that comes first has the bytes that come first, whatever follows. -/
theorem lex_utf8EncodeChar (less : c.toNat < d.toNat) (xs ys : Bytes) :
    List.Lex (· < ·) (String.utf8EncodeChar c ++ xs) (String.utf8EncodeChar d ++ ys) := by
  rw [utf8EncodeChar_eq, utf8EncodeChar_eq, List.cons_append, List.cons_append]
  rcases Nat.lt_or_eq_of_le (lead_le (Nat.le_of_lt less)) with lower | same
  · refine .rel (UInt8.lt_iff_toNat_lt.mpr ?_)
    rwa [UInt8.toNat_ofNat_of_lt' (lead_lt (toNat_lt c)),
      UInt8.toNat_ofNat_of_lt' (lead_lt (toNat_lt d))]
  · obtain ⟨sameCount, sameRest⟩ := of_lead_eq same
    rw [sameCount] at sameRest ⊢
    rw [same]
    exact .cons (lex_followers less sameRest xs ys)

/-- The bytes of texts compare as their code points.  The induction is on both texts, and the
first characters that differ decide. -/
theorem compare_utf8 (s t : Text) : s.utf8.compare t.utf8 = compare (codes s) (codes t) := by
  induction s generalizing t with
  | nil =>
      cases t with
      | nil => rfl
      | cons d t => rw [utf8, utf8, List.flatMap_cons, utf8EncodeChar_eq]; rfl
  | cons c s ih =>
      cases t with
      | nil => rw [utf8, utf8, List.flatMap_cons, utf8EncodeChar_eq]; rfl
      | cons d t =>
          have ends : codes (c :: s) = c.toNat :: codes s := rfl
          have ends' : codes (d :: t) = d.toNat :: codes t := rfl
          rw [ends, ends', List.compare_cons_cons]
          rcases Nat.lt_trichotomy c.toNat d.toNat with less | same | greater
          · rw [Nat.compare_eq_lt.mpr less]
            exact Bytes.compare_eq_lt_iff.mpr (lex_utf8EncodeChar less _ _)
          · obtain rfl : c = d := Char.toNat_inj.mp same
            rw [Nat.compare_eq_eq.mpr rfl, ← ih]
            exact Bytes.compare_append_left _ _ _
          · rw [Nat.compare_eq_gt.mpr greater, Bytes.compare_swap]
            exact congrArg Ordering.swap
              (Bytes.compare_eq_lt_iff.mpr (lex_utf8EncodeChar greater _ _))

end

end Text

end BridgedDenom
