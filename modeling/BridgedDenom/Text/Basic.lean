/-!
# Text

Text is the list of its characters, so every law about text is a law of lists.
Conversion from and to machine strings happens only where the program meets the
outside.

The functions here know ASCII alone.  Which characters count as blank, as digits
or as upper case differs from one place to another, so `trim` takes its class of
characters as an argument, and the classes live in modules of their own.
-/

namespace BridgedDenom

/-- Text as the list of its characters. -/
abbrev Text := List Char

namespace Text

/-- Drop the characters of a class from both ends. -/
def trim (blank : Char → Bool) (s : Text) : Text :=
  ((s.dropWhile blank).reverse.dropWhile blank).reverse

/-- Lower the ASCII letters and leave every other character. -/
def lower (s : Text) : Text := s.map Char.toLower

/-- The parts joined by a separating text. -/
def join (separator : Text) : List Text → Text
  | [] => []
  | [part] => part
  | part :: rest => part ++ separator ++ join separator rest

/-- The parts between the occurrences of one character.  There is always at
least one part. -/
def splitAt (mark : Char) : Text → List Text
  | [] => [[]]
  | c :: rest =>
      if c = mark then [] :: splitAt mark rest
      else
        match splitAt mark rest with
        | [] => [[c]]
        | part :: parts => (c :: part) :: parts

/-- Pad on the left up to a width. -/
def padLeft (filler : Char) (width : Nat) (s : Text) : Text :=
  List.replicate (width - s.length) filler ++ s

def isAscii (s : Text) : Bool := s.all fun c => c.toNat < 128

@[simp] theorem isAscii_nil : isAscii [] = true := rfl

@[simp] theorem isAscii_append (s t : Text) : isAscii (s ++ t) = (isAscii s && isAscii t) := by
  simp [isAscii]

@[simp] theorem lower_append (s t : Text) : lower (s ++ t) = lower s ++ lower t := by
  simp [lower]

@[simp] theorem length_lower (s : Text) : (lower s).length = s.length := by
  simp [lower]

/-- A text with no blank at either end is already trimmed. -/
theorem trim_of_not_blank {blank : Char → Bool} {s : Text}
    (first : ∀ c ∈ s.head?, blank c = false) (last : ∀ c ∈ s.getLast?, blank c = false) :
    s.trim blank = s := by
  have kept : ∀ t : Text, (∀ c ∈ t.head?, blank c = false) → t.dropWhile blank = t := by
    intro t head
    cases t with
    | nil => rfl
    | cons c rest => simp [head c rfl]
  have trailing : s.reverse.dropWhile blank = s.reverse :=
    kept s.reverse fun c mem => last c (by rwa [List.head?_reverse] at mem)
  rw [trim, kept s first, trailing, List.reverse_reverse]

example : trim (· == ' ') "  a b ".toList = "a b".toList := by decide
example : splitAt '/' "a//b".toList = ["a".toList, [], "b".toList] := by decide

end Text

end BridgedDenom
