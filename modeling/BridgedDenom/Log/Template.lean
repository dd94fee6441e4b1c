import BridgedDenom.Decimal.Binary64

/-!
# Templates

A template is a text with *directives* in it, and a directive stands for a value.  It starts with
a percent sign and ends with a letter that says how the value is written.  Between the two may
stand, in this order:

* a key in parentheses, and parentheses in it are balanced;
* flags;
* a width;
* a precision, behind a point;
* a letter for a length, which means nothing.

A width or a precision is a number, or an asterisk that asks for one among the values.  A percent
sign right behind another one stands for a percent sign.

Every text is a template.  It may end in the middle of a directive, which then has no letter or a
key without an end.
-/

namespace BridgedDenom

namespace Template

/-- Which value a directive stands for. -/
inductive Key where
  | next
  | named (key : Text)
  /-- The parenthesis behind the key is missing. -/
  | unended

/-- A width or a precision. -/
inductive Size where
  | none
  | given (n : Nat)
  /-- It is asked for among the values. -/
  | asked

structure Directive where
  key : Key
  flags : List Char
  width : Size
  precision : Size
  /-- How the value is written; it is missing if the template ends before it. -/
  letter : Option Char

/-- A piece of a template. -/
inductive Piece where
  | char (c : Char)
  | directive (d : Directive)

/-! ## Reading a directive -/

def flagMarks : List Char := ['-', '+', ' ', '#', '0']

/-- A key up to the parenthesis that ends it, with so many open ones before, and what follows. -/
def readKey : Nat → Text → Option (Text × Text)
  | _, [] => none
  | depth, c :: rest =>
      if c = ')' ∧ depth = 0 then some ([], rest)
      else
        let depth := if c = '(' then depth + 1 else if c = ')' then depth - 1 else depth
        (readKey depth rest).map fun (key, left) => (c :: key, left)

/-- The key in parentheses, if there is one, and what follows. -/
def Key.read : Text → Key × Text
  | [] => (.next, [])
  | c :: rest =>
      if c = '(' then
        match readKey 0 rest with
        | some (key, left) => (.named key, left)
        | none => (.unended, [])
      else (.next, c :: rest)

def Size.read (s : Text) : Size × Text :=
  if s.head? = some '*' then (.asked, s.tail)
  else
    let (digits, rest) := Binary64.readDigits s
    (if digits.isEmpty then .none else .given (Binary64.digitsValue digits), rest)

/-- The precision, if there is a point.  A point alone stands for the precision zero. -/
def readPrecision (s : Text) : Size × Text :=
  if s.head? = some '.' then
    match Size.read s.tail with
    | (.none, rest) => (.given 0, rest)
    | (size, rest) => (size, rest)
  else (.none, s)

def dropLength (s : Text) : Text :=
  if s.head?.any (['h', 'l', 'L'].contains ·) then s.tail else s

/-- The directive behind a percent sign, and what follows. -/
def Directive.read (s : Text) : Directive × Text :=
  let (key, s) := Key.read s
  let flags := s.takeWhile (flagMarks.contains ·)
  let (width, s) := Size.read (s.dropWhile (flagMarks.contains ·))
  let (precision, s) := readPrecision s
  let s := dropLength s
  (⟨key, flags, width, precision, s.head?⟩, s.tail)

/-! ## Reading makes no text longer -/

theorem length_readKey_le {depth : Nat} {s key left : Text}
    (read : readKey depth s = some (key, left)) : left.length ≤ s.length := by
  induction s generalizing depth key with
  | nil => cases read
  | cons c rest ih =>
      rw [readKey] at read
      split at read
      · cases read
        exact Nat.le_succ _
      · obtain ⟨⟨key', left'⟩, inner, same⟩ := Option.map_eq_some_iff.mp read
        cases same
        exact Nat.le_succ_of_le (ih inner)

theorem Key.length_read_le (s : Text) : (Key.read s).2.length ≤ s.length := by
  cases s with
  | nil => exact Nat.le_refl _
  | cons c rest =>
      rw [Key.read]
      split
      · split
        case h_1 read => exact Nat.le_succ_of_le (length_readKey_le read)
        case h_2 => exact Nat.zero_le _
      · exact Nat.le_refl _

theorem Size.length_read_le (s : Text) : (Size.read s).2.length ≤ s.length := by
  unfold Size.read
  split
  · exact (List.tail_sublist s).length_le
  · exact (List.dropWhile_sublist _).length_le

theorem length_readPrecision_le (s : Text) : (readPrecision s).2.length ≤ s.length := by
  unfold readPrecision
  split
  · have shorter := Nat.le_trans (Size.length_read_le s.tail) (List.tail_sublist s).length_le
    split
    case h_1 read => rwa [read] at shorter
    case h_2 read => rwa [read] at shorter
  · exact Nat.le_refl _

theorem length_dropLength_le (s : Text) : (dropLength s).length ≤ s.length := by
  unfold dropLength
  split
  · exact (List.tail_sublist s).length_le
  · exact Nat.le_refl _

theorem Directive.length_read_le (s : Text) : (Directive.read s).2.length ≤ s.length :=
  calc (Directive.read s).2.length
      ≤ (dropLength _).length := (List.tail_sublist _).length_le
    _ ≤ (readPrecision _).2.length := length_dropLength_le _
    _ ≤ (Size.read _).2.length := length_readPrecision_le _
    _ ≤ (List.dropWhile _ _).length := Size.length_read_le _
    _ ≤ (Key.read s).2.length := (List.dropWhile_sublist _).length_le
    _ ≤ s.length := Key.length_read_le s

/-! ## Reading a template -/

/-- The pieces of a template. -/
def pieces : Text → List Piece
  | [] => []
  | c :: rest =>
      if c ≠ '%' then .char c :: pieces rest
      else if rest.head? = some '%' then .char '%' :: pieces rest.tail
      else .directive (Directive.read rest).1 :: pieces (Directive.read rest).2
termination_by s => s.length
decreasing_by
  · exact Nat.lt_succ_self _
  · exact Nat.lt_succ_of_le (List.tail_sublist rest).length_le
  · exact Nat.lt_succ_of_le (Directive.length_read_le rest)

end Template

end BridgedDenom
