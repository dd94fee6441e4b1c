import BridgedDenom.Decimal.Shortest

/-!
# Reading back the shortest digits

The digits that are chosen for a number read back as it (`decimalRank_shortest`,
`ofDecimal_shortest`).

*Ratios.*  The nearest magnitude depends on a ratio alone and not on how it is written
(`nearestRank_congr`).  So a power of ten may be moved between the digits and the exponent
(`decimalRank_mul_pow`), and zeros at the end of the digits may be dropped.

*Grids.*  A point that is taken from a grid reads back (`decimalRank_of_onGrid`).  The finest
grid has steps of `10 ^ -1074`, and every magnitude is one of its points
(`exists_onGrid_finest`), so the search ends there at the latest (`search_found`).  It starts
less than 1400 grids before (`decimalMagnitude_bounds`).

*Exponents far outside.*  A reader settles them without arithmetic.  It is right to do so: such
numbers are nearest to zero or beyond the last magnitude (`decimalRank_eq_zero`,
`magnitudeCount_le_decimalRank`), so no number with digits of its own is lost.
-/

namespace BridgedDenom

namespace Binary64

/-! ## Ratios -/

section
variable {n d n' d' c r : Nat}

theorem nearestRank_mul (n d : Nat) (positive : 0 < c) :
    nearestRank (n * c) (d * c) = nearestRank n d := by
  have quotient : n * c * unitsInOne / (d * c) = n * unitsInOne / d := by
    rw [Nat.mul_right_comm]
    exact Nat.mul_div_mul_right _ _ positive
  have twice : 2 * (n * c) * unitsInOne = 2 * n * unitsInOne * c := by
    rw [← Nat.mul_assoc, Nat.mul_right_comm]
  have middle (m : Nat) : m * (d * c) = m * d * c := (Nat.mul_assoc m d c).symm
  simp only [nearestRank, quotient, twice, middle, Nat.mul_lt_mul_right positive]

/-- Equal ratios have the same nearest magnitude. -/
theorem nearestRank_congr (hd : 0 < d) (hd' : 0 < d') (same : n * d' = n' * d) :
    nearestRank n d = nearestRank n' d' :=
  calc nearestRank n d = nearestRank (n * d') (d * d') := (nearestRank_mul n d hd').symm
    _ = nearestRank (n' * d) (d' * d) := by rw [same, Nat.mul_comm d]
    _ = nearestRank n' d' := nearestRank_mul n' d' hd

/-- A ratio below half a unit is nearest to zero. -/
theorem nearestRank_eq_zero (small : 2 * n * unitsInOne < d) : nearestRank n d = 0 := by
  have quotient : n * unitsInOne / d = 0 := by
    refine Nat.div_eq_of_lt (Nat.lt_of_le_of_lt ?_ small)
    exact Nat.mul_le_mul_right _ (by omega)
  have below : rankBelow 0 = 0 := by decide
  have middle : (magnitude 0 + magnitude (0 + 1)) * d = d := Nat.one_mul d
  simp only [nearestRank, quotient, below, middle, small, if_true]

theorem le_rankBelow {q : Nat} (le : magnitude r ≤ q) : r ≤ rankBelow q := by
  refine Nat.le_of_not_lt fun less => ?_
  have above := (rankBelow_spec q).2
  rcases Nat.lt_or_eq_of_le (Nat.succ_le_of_lt less) with before | here
  · have further := magnitude_lt before
    rw [Nat.succ_eq_add_one] at further
    omega
  · rw [← Nat.succ_eq_add_one, here] at above
    omega

/-- A ratio that is not below a magnitude is not nearest to one before it. -/
theorem le_nearestRank (hd : 0 < d) (le : magnitude r * d ≤ n * unitsInOne) :
    r ≤ nearestRank n d := by
  have below := le_rankBelow ((Nat.le_div_iff_mul_le hd).mpr le)
  unfold nearestRank
  simp only
  split
  · exact below
  · split
    · exact Nat.le_succ_of_le below
    · split
      · exact below
      · exact Nat.le_succ_of_le below

end

/-! ## Decimal numbers -/

/-- The rank of the magnitude nearest to `d * 10 ^ k`. -/
def decimalRank (d : Nat) (k : Int) : Nat :=
  nearestRank (d * Nat.pow 10 k.toNat) (Nat.pow 10 (-k).toNat)

section
variable {d rank : Nat} {k : Int}

theorem pow_ten_pos (j : Nat) : 0 < Nat.pow 10 j := Nat.pow_pos (by decide)

theorem readsBack_iff : readsBack rank d k = true ↔ decimalRank d k = rank := by
  simp [readsBack, decimalRank]

/-- A power of ten counts alike in the digits and in the exponent. -/
theorem decimalRank_mul_pow (d j : Nat) (k : Int) :
    decimalRank (d * Nat.pow 10 j) (k - j) = decimalRank d k := by
  refine nearestRank_congr (pow_ten_pos _) (pow_ten_pos _) ?_
  have exponents : j + (k - j).toNat + (-k).toNat = k.toNat + (-(k - j)).toNat := by omega
  have powers := congrArg (Nat.pow 10) exponents
  simp only [Nat.pow_eq, Nat.pow_add] at powers ⊢
  rw [Nat.mul_assoc, Nat.mul_assoc, Nat.mul_assoc, ← powers, Nat.mul_assoc]

theorem decimalRank_dropZeros (fuel : Nat) (x : Nat × Int) :
    decimalRank (dropZeros fuel x).1 (dropZeros fuel x).2 = decimalRank x.1 x.2 := by
  induction fuel generalizing x with
  | zero => rfl
  | succ fuel ih =>
      obtain ⟨d, k⟩ := x
      unfold dropZeros
      split
      case isTrue zero =>
        have whole : d / 10 * Nat.pow 10 1 = d := Nat.div_mul_cancel (Nat.dvd_of_mod_eq_zero zero.2)
        have moved := decimalRank_mul_pow (d / 10) 1 (k + 1)
        rw [whole, Int.natCast_one, Int.add_sub_cancel] at moved
        rw [ih, moved]
      case isFalse => rfl

/-! ## Grids -/

theorem roundDiv_eq_or (n m : Nat) : roundDiv n m = n / m ∨ roundDiv n m = n / m + 1 := by
  unfold roundDiv
  simp only
  repeat' split
  all_goals simp

theorem passes_of_neighbour {passes : Nat → Bool} {n m : Nat}
    (found : neighbour passes n m = some d) : passes d = true := by
  unfold neighbour at found
  simp only at found
  split at found
  case h_1 below _ =>
    cases found
    exact below
  case h_2 _ above =>
    cases found
    exact above
  case h_3 below above =>
    cases found
    rcases roundDiv_eq_or n m with same | same
    · rwa [same]
    · rwa [same]
  case h_4 => cases found

theorem exists_neighbour {passes : Nat → Bool} {n m : Nat} (below : passes (n / m) = true) :
    ∃ d, neighbour passes n m = some d := by
  unfold neighbour
  simp only [below]
  cases passes (n / m + 1) with
  | true => exact ⟨_, rfl⟩
  | false => exact ⟨_, rfl⟩

theorem decimalRank_of_onGrid (found : onGrid rank k = some d) : decimalRank d k = rank :=
  readsBack_iff.mp (passes_of_neighbour found)

/-- On a grid whose steps divide the unit every magnitude is a point. -/
theorem exists_onGrid {steps j : Nat} (divides : Nat.pow 10 j = steps * unitsInOne) (rank : Nat) :
    ∃ d, onGrid rank (-j) = some d := by
  have up : (-(j : Int)).toNat = 0 := by omega
  have down : (-(-(j : Int))).toNat = j := by omega
  have one : Nat.pow 10 0 = 1 := rfl
  have own : decimalRank (magnitude rank * steps) (-j) = rank := by
    refine Eq.trans ?_ (nearestRank_magnitude rank)
    rw [decimalRank, up, down]
    refine nearestRank_congr (pow_ten_pos _) unitsInOne_pos ?_
    rw [one, Nat.mul_one, Nat.mul_assoc, divides]
  rw [onGrid, up, down]
  refine exists_neighbour (readsBack_iff.mpr ?_)
  rwa [divides, one, Nat.one_mul, ← Nat.mul_assoc, Nat.mul_div_cancel _ unitsInOne_pos]

/-- The exponent of the grid on which all magnitudes lie. -/
def finest : Int := -1074

theorem exists_onGrid_finest (rank : Nat) : ∃ d, onGrid rank finest = some d := by
  have divides : Nat.pow 10 1074 = Nat.pow 5 1074 * unitsInOne := by decide +kernel
  exact exists_onGrid divides rank

/-- A search finds a point if there is one on a grid that it comes to.  The induction is on
the grids that are left. -/
theorem search_found {point : Int → Option Nat} {last : Int} {fuel : Nat}
    (exist : ∃ d, point last = some d) (above : last ≤ k) (enough : k - last < fuel) :
    point (search point fuel k).2 = some (search point fuel k).1 := by
  induction fuel generalizing k with
  | zero => omega
  | succ fuel ih =>
      unfold search
      cases found : point k with
      | some d => exact found
      | none =>
          have notLast : k ≠ last := by
            rintro rfl
            obtain ⟨d, here⟩ := exist
            cases found.symm.trans here
          exact ih (by omega) (by omega)

/-- The search starts on one of the 1400 grids before the finest one. -/
theorem decimalMagnitude_bounds (inside : rank < magnitudeCount) :
    finest ≤ decimalMagnitude (magnitude rank) unitsInOne ∧
      decimalMagnitude (magnitude rank) unitsInOne - finest < 1400 := by
  have log : Nat.log2 unitsInOne = 1074 := by decide +kernel
  have small : Nat.log2 (magnitude rank) < 2098 := by
    by_cases zero : magnitude rank = 0
    · rw [zero]
      decide
    · have below : magnitude rank < 2 ^ 2098 := calc
        magnitude rank < magnitude magnitudeCount := magnitude_lt inside
        _ = 2 ^ 2098 := by decide +kernel
      exact (Nat.log2_lt zero).mpr below
  unfold decimalMagnitude finest
  simp only [log]
  split
  · omega
  · split <;> omega

/-- The shortest digits of a magnitude read back as it. -/
theorem decimalRank_shortest (inside : rank < magnitudeCount) :
    decimalRank (shortest rank).1 (shortest rank).2 = rank := by
  obtain ⟨above, enough⟩ := decimalMagnitude_bounds inside
  have found := search_found (exists_onGrid_finest rank) above enough
  rw [shortest, decimalRank_dropZeros, decimalRank_of_onGrid found]

/-! ## Reading a decimal number -/

theorem decimalRank_zero (k : Int) : decimalRank 0 k = 0 := by
  refine nearestRank_eq_zero ?_
  rw [Nat.zero_mul, Nat.mul_zero, Nat.zero_mul]
  exact pow_ten_pos _

/-- Ten to the power of four hundred is beyond all magnitudes, and one over it is below half a
unit. -/
theorem exists_far : ∃ far ≤ 400, 2 * unitsInOne ≤ Nat.pow 10 far ∧
    magnitude magnitudeCount ≤ Nat.pow 10 far * unitsInOne :=
  ⟨400, Nat.le_refl 400, by decide +kernel, by decide +kernel⟩

/-- A number with so small an exponent is nearest to zero. -/
theorem decimalRank_eq_zero (small : k + (Nat.log2 d : Int) < -400) : decimalRank d k = 0 := by
  obtain ⟨far, le, units, -⟩ := exists_far
  have up : k.toNat = 0 := by omega
  have one : Nat.pow 10 0 = 1 := rfl
  have digits : d < Nat.pow 10 (Nat.log2 d + 1) :=
    Nat.lt_of_lt_of_le Nat.lt_log2_self (Nat.pow_le_pow_left (by decide) _)
  refine nearestRank_eq_zero ?_
  rw [up, one, Nat.mul_one]
  calc 2 * d * unitsInOne = d * (2 * unitsInOne) := by rw [Nat.mul_comm 2, Nat.mul_assoc]
    _ ≤ d * Nat.pow 10 far := Nat.mul_le_mul_left d units
    _ < Nat.pow 10 (Nat.log2 d + 1) * Nat.pow 10 far :=
        Nat.mul_lt_mul_of_pos_right digits (pow_ten_pos far)
    _ = Nat.pow 10 (Nat.log2 d + 1 + far) := (Nat.pow_add 10 _ _).symm
    _ ≤ Nat.pow 10 (-k).toNat := Nat.pow_le_pow_right (by decide) (by omega)

/-- A number with so great an exponent is nearest to no magnitude before the last one. -/
theorem magnitudeCount_le_decimalRank (nonzero : d ≠ 0)
    (great : 400 < k + (Nat.log2 d : Int) / 4) : magnitudeCount ≤ decimalRank d k := by
  obtain ⟨far, le, -, beyond⟩ := exists_far
  have digits : Nat.pow 10 (Nat.log2 d / 4) ≤ d :=
    calc Nat.pow 10 (Nat.log2 d / 4) ≤ Nat.pow (Nat.pow 2 4) (Nat.log2 d / 4) :=
          Nat.pow_le_pow_left (by decide) _
      _ = Nat.pow 2 (4 * (Nat.log2 d / 4)) := (Nat.pow_mul 2 4 _).symm
      _ ≤ Nat.pow 2 (Nat.log2 d) := Nat.pow_le_pow_right (by decide) (by omega)
      _ ≤ d := Nat.log2_self_le nonzero
  have size : Nat.pow 10 far * Nat.pow 10 (-k).toNat ≤ d * Nat.pow 10 k.toNat :=
    calc Nat.pow 10 far * Nat.pow 10 (-k).toNat = Nat.pow 10 (far + (-k).toNat) :=
          (Nat.pow_add 10 _ _).symm
      _ ≤ Nat.pow 10 (Nat.log2 d / 4 + k.toNat) := Nat.pow_le_pow_right (by decide) (by omega)
      _ = Nat.pow 10 (Nat.log2 d / 4) * Nat.pow 10 k.toNat := Nat.pow_add 10 _ _
      _ ≤ d * Nat.pow 10 k.toNat := Nat.mul_le_mul_right _ digits
  refine le_nearestRank (pow_ten_pos _) ?_
  calc magnitude magnitudeCount * Nat.pow 10 (-k).toNat
      ≤ Nat.pow 10 far * unitsInOne * Nat.pow 10 (-k).toNat := Nat.mul_le_mul_right _ beyond
    _ = Nat.pow 10 far * Nat.pow 10 (-k).toNat * unitsInOne := Nat.mul_right_comm _ _ _
    _ ≤ d * Nat.pow 10 k.toNat * unitsInOne := Nat.mul_le_mul_right _ size

theorem shortest_ne_zero {rank : Fin magnitudeCount} (nonzero : rank.val ≠ 0) :
    (shortest rank).1 ≠ 0 := by
  intro zero
  have own := decimalRank_shortest rank.isLt
  rw [zero, decimalRank_zero] at own
  exact nonzero own.symm

theorem ofDecimal_zero (negative : Bool) {rank : Fin magnitudeCount} (zero : rank.val = 0)
    (k : Int) : ofDecimal negative 0 k = .finite negative rank := by
  obtain rfl : rank = ⟨0, by decide⟩ := Fin.ext zero
  rfl

/-- A decimal number is read as the number of its rank. -/
theorem ofDecimal_of_decimalRank {negative : Bool} {rank : Fin magnitudeCount}
    (nonzero : rank.val ≠ 0) (h : decimalRank d k = rank) :
    ofDecimal negative d k = .finite negative rank := by
  have digits : d ≠ 0 := by
    rintro rfl
    exact nonzero (h.symm.trans (decimalRank_zero k))
  have notGreat : ¬ 400 < k + (Nat.log2 d : Int) / 4 := fun great =>
    Nat.not_lt_of_le (magnitudeCount_le_decimalRank digits great) (h.symm ▸ rank.isLt)
  have notSmall : ¬ k + (Nat.log2 d : Int) < -400 := fun small =>
    nonzero (h.symm.trans (decimalRank_eq_zero small))
  have rounded : nearestRank (d * Nat.pow 10 k.toNat) (Nat.pow 10 (-k).toNat) = rank := h
  simp only [ofDecimal, digits, notGreat, notSmall, if_false, ofRatio, rounded, ofRank, rank.isLt,
    dif_pos]

/-- The shortest digits are read as the number that they are the digits of, also with zeros at
their end that the exponent takes back. -/
theorem ofDecimal_shortest (negative : Bool) {rank : Fin magnitudeCount} (nonzero : rank.val ≠ 0)
    (zeros : Nat) : ofDecimal negative ((shortest rank).1 * Nat.pow 10 zeros)
      ((shortest rank).2 - zeros) = .finite negative rank := by
  refine ofDecimal_of_decimalRank nonzero ?_
  rw [decimalRank_mul_pow, decimalRank_shortest rank.isLt]

/-- What is laid out for a magnitude, without a sign. -/
def Layout.unsigned (layout : Layout) (rank : Nat) : Text :=
  if rank = 0 then layout.digits ['0'] 1
  else layout.digits (Decimal.ofNat (shortest rank).1)
    ((Decimal.ofNat (shortest rank).1).length + (shortest rank).2)

theorem Layout.write_finite (layout : Layout) (negative : Bool) (rank : Fin magnitudeCount) :
    layout.write (.finite negative rank)
      = if negative then '-' :: layout.unsigned rank else layout.unsigned rank := by
  rw [Layout.write]
  unfold Layout.unsigned
  obtain ⟨d, k⟩ := shortest rank
  simp only

end

end Binary64

end BridgedDenom
