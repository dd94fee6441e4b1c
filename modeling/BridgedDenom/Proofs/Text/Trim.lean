import BridgedDenom.Text.Blank
import Mathlib.Data.List.TakeWhile

/-!
# Blanks at both ends

Trimming splits a text into its trimmed part and two runs of blanks (`exists_trim`).  Runs of
blanks may be put around a text without changing what trimming gives, so a text that has no
blank at either end is found again between any two of them (`trim_between`).
-/

namespace BridgedDenom

namespace Text

section
variable {blank : Char → Bool} {s t before after : Text}

theorem exists_trim (blank : Char → Bool) (s : Text) : ∃ before after,
    s = before ++ s.trim blank ++ after ∧ (∀ c ∈ before, blank c = true) ∧
      ∀ c ∈ after, blank c = true := by
  have last := (s.dropWhile blank).reverse.takeWhile_append_dropWhile (p := blank)
  have kept : s.dropWhile blank
      = s.trim blank ++ ((s.dropWhile blank).reverse.takeWhile blank).reverse := by
    rw [trim, ← List.reverse_append, last, List.reverse_reverse]
  refine ⟨s.takeWhile blank, ((s.dropWhile blank).reverse.takeWhile blank).reverse, ?_,
    fun c mem => List.mem_takeWhile_imp mem,
    fun c mem => List.mem_takeWhile_imp (List.mem_reverse.mp mem)⟩
  rw [List.append_assoc, ← kept, List.takeWhile_append_dropWhile]

theorem length_trim_le (blank : Char → Bool) (s : Text) : (s.trim blank).length ≤ s.length := by
  obtain ⟨before, after, parts, -, -⟩ := exists_trim blank s
  have lengths := congrArg List.length parts
  simp only [List.length_append] at lengths
  omega

/-- A text is its own trimmed part if that is no shorter. -/
theorem trim_eq_of_length_le (h : s.length ≤ (s.trim blank).length) : s.trim blank = s := by
  obtain ⟨before, after, parts, -, -⟩ := exists_trim blank s
  have lengths := congrArg List.length parts
  simp only [List.length_append] at lengths
  have noneBefore : before = [] := List.eq_nil_of_length_eq_zero (by omega)
  have noneAfter : after = [] := List.eq_nil_of_length_eq_zero (by omega)
  rw [noneBefore, noneAfter, List.nil_append, List.append_nil] at parts
  exact parts.symm

theorem trim_append_left (blanks : ∀ c ∈ s, blank c = true) :
    (s ++ t).trim blank = t.trim blank := by
  rw [trim, trim, List.dropWhile_append_of_pos blanks]

theorem trim_append_right (blanks : ∀ c ∈ t, blank c = true) :
    (s ++ t).trim blank = s.trim blank := by
  have none : t.dropWhile blank = [] := List.dropWhile_eq_nil_iff.mpr blanks
  have reversed : ∀ c ∈ t.reverse, blank c = true :=
    fun c mem => blanks c (List.mem_reverse.mp mem)
  rw [trim, trim, List.dropWhile_append]
  split
  case isTrue empty => rw [none, List.isEmpty_iff.mp empty]
  case isFalse => rw [List.reverse_append, List.dropWhile_append_of_pos reversed]

theorem trim_of_none_blank (h : ∀ c ∈ s, blank c = false) : s.trim blank = s :=
  trim_of_not_blank (fun c first => h c (List.mem_of_mem_head? first))
    fun c last => h c (List.mem_of_getLast? last)

/-- A text without blanks is found again between blanks. -/
theorem trim_between (blanksBefore : ∀ c ∈ before, blank c = true)
    (blanksAfter : ∀ c ∈ after, blank c = true) (h : ∀ c ∈ s, blank c = false) :
    (before ++ s ++ after).trim blank = s := by
  rw [trim_append_right blanksAfter, trim_append_left blanksBefore, trim_of_none_blank h]

end

end Text

end BridgedDenom
