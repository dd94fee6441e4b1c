import BridgedDenom.Bytes.Basic
import BridgedDenom.Text.Blank

/-!
# Hexadecimal

A byte is written as two lower-case digits, so a byte string of length `n` has
`2 * n` digits.  A reader of digit pairs accepts both letter cases and lets ASCII
blanks stand between pairs, but not inside one; on failure it gives the position
of the character that breaks the reading.  `ofText` prepares its input first: it
strips blanks, drops a leading `0x` and completes an odd number of characters by
a zero in front.
-/

namespace BridgedDenom

namespace Hex

/-! ## Digits -/

/-- The lower-case digit of a number below sixteen. -/
def digit (n : Nat) : Char :=
  if n < 10 then Char.ofNat (48 + n) else Char.ofNat (87 + n)

/-- The value of a hex digit in either letter case. -/
def value? (c : Char) : Option Nat :=
  if '0' ≤ c ∧ c ≤ '9' then some (c.toNat - 48)
  else if 'a' ≤ c ∧ c ≤ 'f' then some (c.toNat - 87)
  else if 'A' ≤ c ∧ c ≤ 'F' then some (c.toNat - 55)
  else none

def isDigit (c : Char) : Bool := (value? c).isSome

/-- A non-empty text of an even number of hex digits and nothing else. -/
def isHex (s : Text) : Bool := !s.isEmpty && s.length % 2 == 0 && s.all isDigit

/-- The two halves of each byte, the higher first. -/
def nibbles (bytes : Bytes) : List Nat :=
  bytes.flatMap fun byte => [byte.toNat / 16, byte.toNat % 16]

def encode (bytes : Bytes) : Text := (nibbles bytes).map digit

def encodeMarked (bytes : Bytes) : Text := '0' :: 'x' :: encode bytes

/-! ## Reading -/

def isMarked : Text → Bool
  | '0' :: c :: _ => c == 'x' || c == 'X'
  | _ => false

def unmarked (s : Text) : Text := if isMarked s then s.drop 2 else s

/-- Read digit pairs from position `i` on, with blanks between pairs.  The error
is a position: that of a character that is no digit, or the end of the text
inside a pair. -/
def pairsFrom (i : Nat) : Text → Except Nat Bytes
  | [] => .ok []
  | [c] => if Text.isGap c then .ok [] else
      match value? c with
      | none => .error i
      | some _ => .error (i + 1)
  | c :: d :: rest =>
      if Text.isGap c then pairsFrom (i + 1) (d :: rest)
      else
        match value? c with
        | none => .error i
        | some high =>
            match value? d with
            | none => .error (i + 1)
            | some low =>
                match pairsFrom (i + 2) rest with
                | .error position => .error position
                | .ok bytes => .ok (UInt8.ofNat (16 * high + low) :: bytes)

/-- Read digit pairs.  A character beyond ASCII is reported before anything else. -/
def pairs (s : Text) : Except Nat Bytes :=
  match s.findIdx? fun c => 128 ≤ c.toNat with
  | some position => .error position
  | none => pairsFrom 0 s

/-- Complete an odd number of characters by a zero in front. -/
def evened (s : Text) : Text := if s.length % 2 = 1 then '0' :: s else s

/-- Read a text of hex digits, marked by `0x` or not, with blanks around it. -/
def ofText (s : Text) : Except Nat Bytes := pairs (evened (unmarked s.strip))

/-! ## Lengths and the round trip -/

@[simp] theorem nibbles_nil : nibbles [] = [] := rfl

@[simp] theorem nibbles_cons (byte : UInt8) (bytes : Bytes) :
    nibbles (byte :: bytes) = byte.toNat / 16 :: byte.toNat % 16 :: nibbles bytes := by
  simp [nibbles]

@[simp] theorem nibbles_append (xs ys : Bytes) : nibbles (xs ++ ys) = nibbles xs ++ nibbles ys := by
  simp [nibbles]

@[simp] theorem encode_nil : encode [] = [] := rfl

@[simp] theorem encode_cons (byte : UInt8) (bytes : Bytes) :
    encode (byte :: bytes) = digit (byte.toNat / 16) :: digit (byte.toNat % 16) :: encode bytes := by
  simp [encode]

@[simp] theorem encode_append (xs ys : Bytes) : encode (xs ++ ys) = encode xs ++ encode ys := by
  simp [encode]

@[simp] theorem length_nibbles (bytes : Bytes) : (nibbles bytes).length = 2 * bytes.length := by
  induction bytes with
  | nil => rfl
  | cons byte bytes ih => simp [ih]; omega

@[simp] theorem length_encode (bytes : Bytes) : (encode bytes).length = 2 * bytes.length := by
  simp [encode]

/-- Both halves of a byte are below sixteen. -/
theorem lt_of_mem_nibbles {n : Nat} {bytes : Bytes} (h : n ∈ nibbles bytes) : n < 16 := by
  obtain ⟨byte, _, hn⟩ := List.mem_flatMap.mp h
  have bound : byte.toNat < 256 := byte.toNat_lt
  simp only [List.mem_cons, List.not_mem_nil, or_false] at hn
  rcases hn with rfl | rfl <;> omega

theorem value?_digit {n : Nat} (h : n < 16) : value? (digit n) = some n :=
  (by decide : ∀ m : Fin 16, value? (digit m) = some m.val) ⟨n, h⟩

theorem isGap_digit {n : Nat} (h : n < 16) : Text.isGap (digit n) = false :=
  (by decide : ∀ m : Fin 16, Text.isGap (digit m) = false) ⟨n, h⟩

theorem digit_lt {n : Nat} (h : n < 16) : (digit n).toNat < 128 :=
  (by decide : ∀ m : Fin 16, (digit m).toNat < 128) ⟨n, h⟩

/-- The digits of a byte string read back as it. -/
theorem pairsFrom_encode (i : Nat) (bytes : Bytes) : pairsFrom i (encode bytes) = .ok bytes := by
  induction bytes generalizing i with
  | nil => rfl
  | cons byte bytes ih =>
      have bound : byte.toNat < 256 := byte.toNat_lt
      have high : byte.toNat / 16 < 16 := by omega
      have low : byte.toNat % 16 < 16 := by omega
      have whole : 16 * (byte.toNat / 16) + byte.toNat % 16 = byte.toNat := by omega
      simp [pairsFrom, isGap_digit high, value?_digit high, value?_digit low, ih, whole]

example : ofText " 0xDEADbeef\n".toList = .ok [0xDE, 0xAD, 0xBE, 0xEF] := by rfl
/-- An odd count is completed first, so here the pairs are `07` and a broken one. -/
example : ofText "70 65 6".toList = .error 3 := by rfl
example : ofText "abc".toList = .ok [0x0A, 0xBC] := by rfl
example : ofText "zz\u00e9".toList = .error 3 := by rfl

end Hex

end BridgedDenom
