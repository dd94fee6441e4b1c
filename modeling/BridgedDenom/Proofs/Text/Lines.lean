import BridgedDenom.Proofs.Address.Spelling
import BridgedDenom.Proofs.Json.Compact
import BridgedDenom.Text.Quoted
import Mathlib.Algebra.GroupWithZero.Nat

/-!
# Line breaks

Ten characters end a line, and `breaks` counts them in a text.  The count of a text is the sum of
those of its parts (`breaks_append`, `breaks_join`).

None of the ten is printable, so a text that is quoted stands on one line, whatever its characters
are (`breaks_quoted`), and so do quoted bytes (`breaks_quotedBy`).  Numbers, hex and addresses in
text have none either.
-/

namespace BridgedDenom

namespace Text

/-- The characters that end a line. -/
def lineBreaks : Text :=
  ['\n', '\x0b', '\x0c', '\r', '\x1c', '\x1d', '\x1e', '\u0085', '\u2028', '\u2029']

/-- The number of line breaks in a text. -/
def breaks (s : Text) : Nat := s.countP fun c => lineBreaks.contains c

section
variable {s : Text} {c quote : Char}

@[simp] theorem breaks_nil : breaks [] = 0 := rfl

@[simp] theorem breaks_append (s t : Text) : breaks (s ++ t) = breaks s + breaks t :=
  List.countP_append

theorem breaks_cons_plain (plain : c ∉ lineBreaks) (s : Text) : breaks (c :: s) = breaks s := by
  rw [breaks, List.countP_cons_of_neg (by simpa using plain)]
  rfl

theorem breaks_eq_zero_iff : breaks s = 0 ↔ ∀ c ∈ s, c ∉ lineBreaks := by
  simp [breaks, List.countP_eq_zero]

theorem breaks_join {separator : Text} (plain : breaks separator = 0) (parts : List Text) :
    breaks (join separator parts) = (parts.map breaks).sum := by
  induction parts with
  | nil => rfl
  | cons part rest ih =>
      cases rest with
      | nil => simp [join]
      | cons next rest =>
          have front : breaks (part ++ separator ++ join separator (next :: rest))
              = breaks part + breaks (join separator (next :: rest)) := by
            rw [breaks_append, breaks_append, plain, Nat.add_zero]
          rw [List.map_cons, List.sum_cons, ← ih]
          exact front

/-! ## Printable characters -/

theorem breaks_of_isPrintable (printable : Json.IsPrintable s) : breaks s = 0 := by
  have outside : lineBreaks.all (fun c => c.toNat < 0x20 || 0x7E < c.toNat) = true := by decide
  refine breaks_eq_zero_iff.mpr fun c mem isBreak => ?_
  have bounds := printable c mem
  have beyond := List.all_eq_true.mp outside c isBreak
  simp only [Bool.or_eq_true, decide_eq_true_eq] at beyond
  omega

theorem not_mem_lineBreaks_of_isPrintable (printable : isPrintable c = true) : c ∉ lineBreaks := by
  have unprintable : lineBreaks.any isPrintable = false := by decide +kernel
  intro isBreak
  exact List.any_eq_false.mp unprintable c isBreak printable

theorem isPrintable_toDigits (n : Nat) : Json.IsPrintable (Nat.toDigits 16 n) := by
  have digit : ∀ d < 16, Json.IsPrintable [Nat.digitChar d] := by decide
  induction n using Nat.strongRecOn with
  | ind n ih =>
      by_cases small : n < 16
      case pos =>
        rw [Nat.toDigits_of_lt_base small]
        exact digit n small
      case neg =>
        rw [Nat.toDigits_of_base_le (by decide) (Nat.le_of_not_lt small)]
        exact (ih (n / 16) (by omega)).append (digit _ (Nat.mod_lt n (by decide)))

theorem breaks_hexCode (width n : Nat) : breaks (hexCode width n) = 0 := by
  refine breaks_of_isPrintable (Json.IsPrintable.append ?_ (isPrintable_toDigits n))
  exact (Json.isDigits_zeros _).isPrintable

/-! ## Quoted texts -/

theorem breaks_hexEscape (mark : Char) (plain : mark ∉ lineBreaks) (width n : Nat) :
    breaks (['\\', mark] ++ hexCode width n) = 0 := by
  rw [breaks_append, breaks_hexCode, breaks_cons_plain (by decide), breaks_cons_plain plain,
    breaks_nil]

theorem breaks_codeEscape (c : Char) : breaks (codeEscape c) = 0 := by
  unfold codeEscape
  split
  case isTrue => exact breaks_hexEscape 'x' (by decide) 2 c.toNat
  split
  case isTrue => exact breaks_hexEscape 'u' (by decide) 4 c.toNat
  exact breaks_hexEscape 'U' (by decide) 8 c.toNat

/-- A character that ends a line is escaped, and no escape has one in it. -/
theorem breaks_quotedChar (plain : quote ∉ lineBreaks) (c : Char) :
    breaks (quotedChar quote c) = 0 := by
  unfold quotedChar
  split
  case isTrue mark =>
    have kept : c ∉ lineBreaks := by
      simp only [Bool.or_eq_true, decide_eq_true_eq] at mark
      rcases mark with rfl | rfl
      · exact plain
      · decide
    rw [breaks_cons_plain (by decide), breaks_cons_plain kept, breaks_nil]
  split
  case isTrue => rfl
  split
  case isTrue => rfl
  split
  case isTrue => rfl
  split
  case isTrue printable =>
    rw [breaks_cons_plain (not_mem_lineBreaks_of_isPrintable printable), breaks_nil]
  exact breaks_codeEscape c

theorem quoteFor_not_mem_lineBreaks (s : Text) : quoteFor s ∉ lineBreaks := by
  unfold quoteFor
  split <;> decide

theorem breaks_flatMap {α : Type} {f : α → Text} (plain : ∀ a, breaks (f a) = 0) (items : List α) :
    breaks (items.flatMap f) = 0 := by
  induction items with
  | nil => rfl
  | cons a rest ih => rw [List.flatMap_cons, breaks_append, plain, ih]

/-- What stands between two marks of no line break decides. -/
theorem breaks_between {mark : Char} (plain : mark ∉ lineBreaks) (s : Text) :
    breaks (mark :: s ++ [mark]) = breaks s := by
  rw [breaks_append, breaks_cons_plain plain, breaks_cons_plain plain, breaks_nil, Nat.add_zero]

/-- A quoted text stands on one line. -/
theorem breaks_quoted (s : Text) : breaks s.quoted = 0 := by
  have plain := quoteFor_not_mem_lineBreaks s
  exact (breaks_between plain _).trans (breaks_flatMap (breaks_quotedChar plain) s)

end

end Text

namespace Bytes

open Text (breaks lineBreaks)

theorem breaks_quotedByte {quote : Char} (plain : quote ∉ lineBreaks) (byte : UInt8) :
    breaks (quotedByte quote byte) = 0 := by
  unfold quotedByte
  split
  · exact Text.breaks_quotedChar plain _
  · exact Text.breaks_hexEscape 'x' (by decide) 2 byte.toNat

theorem breaks_quotedBufferByte {quote : Char} (plain : quote ∉ lineBreaks) (byte : UInt8) :
    breaks (quotedBufferByte quote byte) = 0 := by
  unfold quotedBufferByte
  split
  · rfl
  · exact breaks_quotedByte plain byte

/-- Quoted bytes stand on one line if each byte does. -/
theorem breaks_quotedBy {spell : Char → UInt8 → Text}
    (plain : ∀ quote byte, quote ∉ lineBreaks → breaks (spell quote byte) = 0) (bytes : Bytes) :
    breaks (quotedBy spell bytes) = 0 := by
  have mark := Text.quoteFor_not_mem_lineBreaks (bytes.map fun byte => Char.ofNat byte.toNat)
  refine (Text.breaks_cons_plain (by decide) _).trans ((Text.breaks_between mark _).trans ?_)
  exact Text.breaks_flatMap (fun byte => plain _ byte mark) bytes

theorem breaks_quoted (bytes : Bytes) : breaks bytes.quoted = 0 :=
  breaks_quotedBy (fun _ byte plain => breaks_quotedByte plain byte) bytes

theorem breaks_quotedBuffer (bytes : Bytes) : breaks bytes.quotedBuffer = 0 :=
  breaks_quotedBy (fun _ byte plain => breaks_quotedBufferByte plain byte) bytes

end Bytes

/-! ## Numbers, hex and addresses -/

open Text (breaks lineBreaks)

theorem breaks_ofInt (n : Int) : breaks (Decimal.ofInt n) = 0 :=
  Text.breaks_of_isPrintable (Json.isPrintable_ofInt n)

/-- A number that is finite is shown in a text as it is written in a document. -/
theorem shown_finite (negative : Bool) (rank : Fin Binary64.magnitudeCount) :
    Binary64.shown.write (.finite negative rank)
      = Binary64.inJson.write (.finite negative rank) := by
  have digits (ds : Text) (point : Int) :
      Binary64.shown.digits ds point = Binary64.inJson.digits ds point := rfl
  rw [Binary64.Layout.write_finite, Binary64.Layout.write_finite]
  simp only [Binary64.Layout.unsigned, digits]

theorem breaks_shown (x : Binary64) : breaks (Binary64.shown.write x) = 0 := by
  cases x with
  | nan => rfl
  | infinite negative => cases negative <;> rfl
  | finite negative rank =>
      rw [shown_finite]
      exact Text.breaks_of_isPrintable (Json.isPrintable_float _)

theorem breaks_of_mem_alphabet {s : Text} (digits : ∀ c ∈ s, c ∈ Hex.alphabet) : breaks s = 0 := by
  have outside : Hex.alphabet.any lineBreaks.contains = false := by decide
  refine Text.breaks_eq_zero_iff.mpr fun c mem isBreak => ?_
  exact List.any_eq_false.mp outside c (digits c mem) (List.contains_iff_mem.mpr isBreak)

theorem breaks_encode (data : Bytes) : breaks (Hex.encode data) = 0 :=
  breaks_of_mem_alphabet fun c mem =>
    Hex.isDigit_iff_mem_alphabet.mp (Hex.isDigit_of_lower (Hex.lower_encode data) c mem)

theorem breaks_checksum (a : Address) : breaks a.checksum = 0 := by
  obtain ⟨x, digits, written, mark, -, all⟩ := Address.isSpelling_checksum a
  have plain : x ∉ lineBreaks := by
    rcases mark with rfl | rfl <;> decide
  rw [written, Text.breaks_cons_plain (by decide), Text.breaks_cons_plain plain,
    breaks_of_mem_alphabet all]

end BridgedDenom
