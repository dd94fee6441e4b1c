import BridgedDenom.Text.Utf8

/-!
# Names

The native chain forms its names from ASCII letters, ASCII digits and the five
characters `/`, `:`, `.`, `_`, `-`.  A name starts with a letter.  So no name
starts with a digit or a sign, which is what keeps an amount written in front of a
name apart from it.
-/

namespace BridgedDenom

namespace Text

/-- A character that may stand in a name after the first place. -/
def isNameChar (c : Char) : Bool := c.isAlphanum || "/:._-".toList.contains c

/-- A letter followed by name characters. -/
def isName : Text → Bool
  | [] => false
  | c :: rest => c.isAlpha && rest.all isNameChar

theorem isNameChar_of_isAlpha {c : Char} (h : c.isAlpha = true) : isNameChar c = true := by
  simp [isNameChar, Char.isAlphanum, h]

theorem lt_of_isNameChar {c : Char} (h : isNameChar c = true) : c.toNat < 128 := by
  simp only [isNameChar, Bool.or_eq_true, Char.isAlphanum, List.contains_eq_mem] at h
  delta Char.isAlpha Char.isUpper Char.isLower Char.isDigit at h
  simp only [Bool.or_eq_true, decide_eq_true_eq, Bool.and_eq_true] at h
  have toNat_eq : c.toNat = c.val.toNat := rfl
  rcases h with ((h | h) | h) | h
  · have := UInt32.le_iff_toNat_le.mp h.2
    simp at this
    omega
  · have := UInt32.le_iff_toNat_le.mp h.2
    simp at this
    omega
  · have := UInt32.le_iff_toNat_le.mp h.2
    simp at this
    omega
  · simp at h
    rcases h with h | h | h | h | h <;> subst h <;> decide

theorem all_isNameChar_of_isName {s : Text} (h : isName s = true) : s.all isNameChar = true := by
  cases s with
  | nil => simp [isName] at h
  | cons c rest =>
      simp only [isName, Bool.and_eq_true] at h
      simp [isNameChar_of_isAlpha h.1, h.2]

/-- Name characters after a name make a name. -/
theorem isName_append {s t : Text} (hs : isName s = true) (ht : t.all isNameChar = true) :
    isName (s ++ t) = true := by
  cases s with
  | nil => simp [isName] at hs
  | cons c rest =>
      simp only [isName, Bool.and_eq_true] at hs
      simp [isName, hs.1, hs.2, ht]

theorem isAscii_of_all_isNameChar {s : Text} (h : s.all isNameChar = true) : s.isAscii = true := by
  simp only [isAscii, List.all_eq_true, decide_eq_true_eq] at h ⊢
  exact fun c mem => lt_of_isNameChar (h c mem)

example : ["a", "peggy", "A/:._-9"].all (fun s => isName s.toList) = true := by decide
example : ["", "9a", "-a", "a b", "\u00e9", "a\n"].any (fun s => isName s.toList) = false := by
  decide

end Text

end BridgedDenom
