/-!
# Magnitudes

The magnitudes of the 64-bit binary format, counted upwards from zero: each has a
*rank*.  The ranks come in blocks of `2 ^ 52`.  In the first two blocks neighbours
differ by `2 ^ -1074`, the *unit*, and in every further block by twice as much as in
the block before; so the magnitudes of a block are those of the second one, shifted.

`rankBelow` finds the last magnitude that is not above a number of units, and
`nearestRank` the one nearest to a ratio.  The main statements say that magnitudes
grow with their ranks (`magnitude_lt`), that `rankBelow` does what its name says
(`rankBelow_spec`), and that a magnitude is its own nearest one
(`nearestRank_magnitude`).
-/

namespace BridgedDenom

namespace Binary64

/-- The count of ranks in a block, `2 ^ 52`. -/
def blockSize : Nat := 0x10000000000000

def magnitudeCount : Nat := 2047 * blockSize

def unitsInOne : Nat := 1 <<< 1074

def magnitude (rank : Nat) : Nat :=
  if rank < blockSize then rank
  else (blockSize + rank % blockSize) <<< (rank / blockSize - 1)

/-- The greatest rank whose magnitude is at most `q` units. -/
def rankBelow (q : Nat) : Nat := (q.log2 - 52) * blockSize + q >>> (q.log2 - 52)

/-- The rank of the magnitude nearest to `n / d`, the even one at a tie. -/
def nearestRank (n d : Nat) : Nat :=
  let below := rankBelow (n * unitsInOne / d)
  let twice := 2 * n * unitsInOne
  let middle := (magnitude below + magnitude (below + 1)) * d
  if twice < middle then below
  else if middle < twice then below + 1
  else if below % 2 = 0 then below else below + 1

/-! ## Order -/

theorem unitsInOne_pos : 0 < unitsInOne := by decide +kernel

/-- In a block of ranks the magnitudes are equally spaced. -/
theorem magnitude_of_block (block place : Nat) (h : place < blockSize) :
    magnitude ((block + 1) * blockSize + place) = (blockSize + place) <<< block := by
  have quotient : ((block + 1) * blockSize + place) / blockSize = block + 1 := by
    simp only [blockSize] at *
    omega
  have remainder : ((block + 1) * blockSize + place) % blockSize = place := by
    simp only [blockSize] at *
    omega
  have large : ¬ (block + 1) * blockSize + place < blockSize := by
    simp only [blockSize] at *
    omega
  simp only [magnitude, large, if_false, quotient, remainder, Nat.add_sub_cancel]

theorem magnitude_of_lt {rank : Nat} (h : rank < blockSize) : magnitude rank = rank :=
  if_pos h

/-- A rank in the first block, or its block and place. -/
theorem rank_cases (rank : Nat) :
    rank < blockSize ∨
      ∃ block place, place < blockSize ∧ rank = (block + 1) * blockSize + place := by
  by_cases h : rank < blockSize
  · exact .inl h
  · refine .inr ⟨rank / blockSize - 1, rank % blockSize, ?_, ?_⟩ <;>
      simp only [blockSize] at * <;> omega

theorem magnitude_lt_succ (rank : Nat) : magnitude rank < magnitude (rank + 1) := by
  rcases rank_cases rank with h | ⟨block, place, h, rfl⟩
  · by_cases last : rank + 1 < blockSize
    · rw [magnitude_of_lt h, magnitude_of_lt last]
      exact Nat.lt_succ_self rank
    · have eq : rank + 1 = (0 + 1) * blockSize + 0 := by omega
      rw [magnitude_of_lt h, eq, magnitude_of_block 0 0 (by decide), Nat.shiftLeft_zero]
      exact h
  · have positive : 0 < 2 ^ block := Nat.two_pow_pos block
    by_cases last : place + 1 < blockSize
    · rw [Nat.add_assoc, magnitude_of_block block place h, magnitude_of_block block _ last,
        Nat.shiftLeft_eq, Nat.shiftLeft_eq]
      exact Nat.mul_lt_mul_of_pos_right (by omega) positive
    · have eq : (block + 1) * blockSize + place + 1 = (block + 1 + 1) * blockSize + 0 := by
        simp only [blockSize] at *
        omega
      have double : 2 ^ (block + 1) = 2 * 2 ^ block := by rw [Nat.pow_succ, Nat.mul_comm]
      rw [magnitude_of_block block place h, eq, magnitude_of_block (block + 1) 0 (by decide),
        Nat.shiftLeft_eq, Nat.shiftLeft_eq, double, ← Nat.mul_assoc]
      exact Nat.mul_lt_mul_of_pos_right (by omega) positive

theorem magnitude_lt {low high : Nat} (h : low < high) : magnitude low < magnitude high := by
  induction high with
  | zero => omega
  | succ high ih =>
      by_cases eq : low = high
      · exact eq ▸ magnitude_lt_succ low
      · exact Nat.lt_trans (ih (by omega)) (magnitude_lt_succ high)

/-- The rank below a number of units is the last one that is not above it. -/
theorem rankBelow_spec (q : Nat) :
    magnitude (rankBelow q) ≤ q ∧ q < magnitude (rankBelow q + 1) := by
  by_cases small : q < 2 ^ 53
  · have log : q.log2 - 52 = 0 := by
      by_cases zero : q = 0
      · subst zero; decide
      · have := (Nat.log2_lt zero).2 small
        omega
    have eq : rankBelow q = q := by
      rw [rankBelow, log, Nat.zero_mul, Nat.zero_add, Nat.shiftRight_zero]
    have own : ∀ r, r ≤ 2 ^ 53 → magnitude r = r := by
      intro r le
      rcases rank_cases r with h | ⟨block, place, h, rfl⟩
      · exact magnitude_of_lt h
      · rw [magnitude_of_block block place h, Nat.shiftLeft_eq]
        simp only [blockSize] at *
        have : block = 0 ∨ (block = 1 ∧ place = 0) := by omega
        rcases this with rfl | ⟨rfl, rfl⟩ <;> omega
    rw [eq, own q (by omega), own (q + 1) (by omega)]
    omega
  · have nonzero : q ≠ 0 := by omega
    have atLeast : 53 ≤ q.log2 := (Nat.le_log2 nonzero).2 (by omega)
    obtain ⟨block, eqLog⟩ : ∃ block, q.log2 = block + 52 := ⟨q.log2 - 52, by omega⟩
    have lower : 2 ^ 52 * 2 ^ block ≤ q := by
      rw [← Nat.pow_add, Nat.add_comm, ← eqLog]
      exact Nat.log2_self_le nonzero
    have upper : q < 2 ^ 53 * 2 ^ block := by
      rw [← Nat.pow_add]
      have := Nat.lt_log2_self (n := q)
      rw [eqLog] at this
      rwa [show 53 + block = block + 52 + 1 by omega]
    have positive : 0 < 2 ^ block := Nat.two_pow_pos block
    have low : 2 ^ 52 ≤ q / 2 ^ block := (Nat.le_div_iff_mul_le positive).2 lower
    have high : q / 2 ^ block < 2 ^ 53 := (Nat.div_lt_iff_lt_mul positive).2 upper
    obtain ⟨place, eqPlace⟩ : ∃ place, q / 2 ^ block = blockSize + place :=
      ⟨q / 2 ^ block - blockSize, by simp only [blockSize]; omega⟩
    have inBlock : place < blockSize := by
      simp only [blockSize] at *
      omega
    have eq : rankBelow q = (block + 1) * blockSize + place := by
      rw [rankBelow, eqLog, Nat.add_sub_cancel, Nat.shiftRight_eq_div_pow, eqPlace, Nat.add_mul]
      omega
    have floor := Nat.div_add_mod q (2 ^ block)
    have rest := Nat.mod_lt q positive
    rw [eqPlace, Nat.mul_comm] at floor
    constructor
    · rw [eq, magnitude_of_block block place inBlock, Nat.shiftLeft_eq]
      omega
    · rw [eq]
      by_cases last : place + 1 < blockSize
      · rw [Nat.add_assoc, magnitude_of_block block _ last, Nat.shiftLeft_eq, ← Nat.add_assoc,
          Nat.add_mul _ 1]
        omega
      · have next : (block + 1) * blockSize + place + 1 = (block + 1 + 1) * blockSize + 0 := by
          simp only [blockSize] at *
          omega
        have double : 2 ^ (block + 1) = 2 * 2 ^ block := by rw [Nat.pow_succ, Nat.mul_comm]
        rw [next, magnitude_of_block (block + 1) 0 (by decide), Nat.shiftLeft_eq, double,
          ← Nat.mul_assoc]
        exact upper

/-- A number that is a magnitude is its own nearest one. -/
theorem nearestRank_magnitude (rank : Nat) : nearestRank (magnitude rank) unitsInOne = rank := by
  have whole : magnitude rank * unitsInOne / unitsInOne = magnitude rank :=
    Nat.mul_div_cancel _ unitsInOne_pos
  have spec := rankBelow_spec (magnitude rank)
  have own : rankBelow (magnitude rank) = rank := by
    rcases Nat.lt_trichotomy (rankBelow (magnitude rank)) rank with lt | eq | gt
    · rcases Nat.lt_or_ge (rankBelow (magnitude rank) + 1) rank with h | h
      · exact absurd (magnitude_lt h) (by omega)
      · have : rankBelow (magnitude rank) + 1 = rank := by omega
        rw [this] at spec
        omega
    · exact eq
    · exact absurd (magnitude_lt gt) (by omega)
  have next := magnitude_lt_succ rank
  have below : 2 * magnitude rank * unitsInOne
      < (magnitude rank + magnitude (rank + 1)) * unitsInOne :=
    Nat.mul_lt_mul_of_pos_right (by omega) unitsInOne_pos
  simp only [nearestRank, whole, own, below, if_true]

end Binary64

end BridgedDenom
