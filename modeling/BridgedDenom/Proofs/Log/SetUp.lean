import BridgedDenom.Log.Root
import BridgedDenom.Proofs.Bytes.Hex
import BridgedDenom.Proofs.Text.Trim

/-!
# Setting up the log

The name of a level may stand between blanks and in any letter case.  Before it is looked
up it may be brought into upper case once more or not.  For a name that is known this makes
no difference (`ofText?_upper`): the blanks around it are no letters, so upper case leaves
them where they are, and what stands between them becomes one of the listed names, which
are in upper case already.

Setting up then succeeds whatever the format is, because every text names a format
(`exists_setUp`).
-/

namespace BridgedDenom

namespace Text

/-! ## Upper case of blanks -/

/-- The blanks outside ASCII by their codes. -/
def wideBlanks : List Nat :=
  [0x85, 0xA0, 0x1680, 0x2000, 0x2001, 0x2002, 0x2003, 0x2004, 0x2005, 0x2006, 0x2007, 0x2008,
    0x2009, 0x200A, 0x2028, 0x2029, 0x202F, 0x205F, 0x3000]

theorem mem_wideBlanks {c : Char} (h : isWideBlank c = true) : c.toNat ∈ wideBlanks := by
  simp only [isWideBlank, Bool.or_eq_true, Bool.and_eq_true, decide_eq_true_eq,
    beq_iff_eq] at h
  simp only [wideBlanks, List.mem_cons, List.not_mem_nil, or_false]
  omega

/-- A blank is no letter. -/
theorem upperChar_of_isBlank {c : Char} (h : isBlank c = true) : upperChar c = [c] := by
  by_cases ascii : c.toNat < 128
  · obtain ⟨k, rfl⟩ := exists_code ascii
    have checked : ∀ k : Fin 128, isBlank (Char.ofNat k) = true →
        upperChar (Char.ofNat k) = [Char.ofNat k] := by
      decide +kernel
    exact checked k h
  · have wide : isWideBlank c = true := by
      simp only [isBlank, isNumericBlank, isGap, Bool.or_eq_true, Bool.and_eq_true,
        decide_eq_true_eq, beq_iff_eq] at h
      rcases h with (gap | wide) | separator
      · omega
      · exact wide
      · omega
    have checked : ∀ n ∈ wideBlanks, upperChar (Char.ofNat n) = [Char.ofNat n] := by
      decide +kernel
    have same := checked c.toNat (mem_wideBlanks wide)
    rwa [Char.ofNat_toNat] at same

theorem upper_of_isBlank {s : Text} (blanks : ∀ c ∈ s, isBlank c = true) : s.upper = s := by
  induction s with
  | nil => rfl
  | cons c rest ih =>
      have tail : upper rest = rest := ih fun d mem => blanks d (List.mem_cons_of_mem c mem)
      have head : upperChar c = [c] := upperChar_of_isBlank (blanks c List.mem_cons_self)
      rw [upper, List.flatMap_cons, head, ← upper, tail, List.singleton_append]

/-- Upper case leaves the blanks at both ends, so they can be dropped first. -/
theorem strip_upper (s : Text) : s.upper.strip = s.strip.upper.strip := by
  obtain ⟨before, after, parts, blanksBefore, blanksAfter⟩ := exists_trim isBlank s
  have raised : s.upper = before ++ s.strip.upper ++ after := by
    refine (congrArg upper parts).trans ?_
    rw [upper_append, upper_append, upper_of_isBlank blanksBefore, upper_of_isBlank blanksAfter]
    rfl
  rw [raised, strip, trim_append_right blanksAfter, trim_append_left blanksBefore, ← strip]

end Text

/-! ## Names of levels -/

namespace Level

/-- The names are in upper case and have no blanks at their ends. -/
theorem strip_upper_of_mem {name : Text} (h : name ∈ named.map Prod.fst) :
    name.strip.upper = name := by
  have checked : ∀ name ∈ named.map Prod.fst, name.strip.upper = name := by decide
  exact checked name h

/-- A known name stays known, with its level, in upper case. -/
theorem ofText?_upper {s : Text} (known : (ofText? s).isSome = true) :
    ofText? s.upper = ofText? s := by
  have listed : s.strip.upper ∈ named.map Prod.fst := by
    obtain ⟨entry, mem, same⟩ := List.lookup_isSome_iff.mp known
    exact List.mem_map.mpr ⟨entry, mem, (beq_iff_eq.mp same).symm⟩
  rw [ofText?, ofText?, Text.strip_upper, strip_upper_of_mem listed]

end Level

/-! ## Setting up -/

namespace Root

section
variable {around : Surroundings} {level : Value}

theorem exists_chosenFormat (around : Surroundings) (format : Text) :
    ∃ chosen, chosenFormat around (.text format) = .ok chosen := by
  simp only [chosenFormat]
  split
  · exact ⟨.json, rfl⟩
  · split
    · exact ⟨.text, rfl⟩
    · exact ⟨formatOfName format, rfl⟩

theorem exists_setUp (root : Root) (format : Text) (stream : Stream)
    (h : ∃ l, levelOfValue (chosenLevel around level) = .ok l) :
    ∃ root', root.setUp around level (.text format) stream = (root', .ok ()) := by
  obtain ⟨chosen, formatChosen⟩ := exists_chosenFormat around format
  obtain ⟨l, levelChosen⟩ := h
  simp only [setUp, formatChosen, configure, levelChosen]
  exact ⟨_, rfl⟩

end

end Root

end BridgedDenom
