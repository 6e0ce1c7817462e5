import Mathlib.Data.Int.ConditionallyCompleteOrder
import Mathlib.Order.CompletePartialOrder
import Mathlib.Order.ConditionallyCompleteLattice.Basic
import Mathlib.Tactic.Common

/-!
# Erase blocks

A flash memory is erased in blocks, so that a write of the half-open range from `start` to `stop`
changes the whole blocks it touches: the range is rounded outward to multiples of the block size.

`blocks_subset`: a range inside a region whose ends are block boundaries stays inside it when it is
rounded.
-/

namespace EraseBlocks

/-- The addresses from `start` on, before `stop`. -/
def range (start stop : Int) : Set Int := Set.Ico start stop

/-- The addresses of the blocks that the range touches. -/
def blocks (size start stop : Int) : Set Int :=
  Set.Ico (size * (start / size)) (size * ((stop + (size - 1)) / size))

variable {size start stop : Int}

theorem range_subset_blocks (hsize : 0 < size) : range start stop ⊆ blocks size start stop := by
  have hstart := Int.mul_ediv_add_emod start size
  have hstop := Int.mul_ediv_add_emod (stop + (size - 1)) size
  have hlow := Int.emod_nonneg start hsize.ne'
  have hhigh := Int.emod_lt_of_pos (stop + (size - 1)) hsize
  exact Set.Ico_subset_Ico (by omega) (by omega)

/-- **Rounding does not leave a region of whole blocks.** -/
theorem blocks_subset {first last : Int} (hsize : 0 < size) (hfirst : size ∣ first)
    (hlast : size ∣ last) (hstart : first ≤ start) (hstop : stop ≤ last) :
    blocks size start stop ⊆ range first last := by
  obtain ⟨a, rfl⟩ := hfirst
  obtain ⟨b, rfl⟩ := hlast
  have hlow : a ≤ start / size := by
    rw [Int.le_ediv_iff_mul_le hsize, Int.mul_comm]
    exact hstart
  have hhigh : (stop + (size - 1)) / size ≤ b := by
    refine Int.lt_add_one_iff.1 ((Int.ediv_lt_iff_lt_mul hsize).2 ?_)
    have hnext : (b + 1) * size = size * b + size := by
      rw [Int.add_mul, Int.one_mul, Int.mul_comm]
    omega
  exact Set.Ico_subset_Ico (Int.mul_le_mul_of_nonneg_left hlow hsize.le)
    (Int.mul_le_mul_of_nonneg_left hhigh hsize.le)

/-- A range after another has no address in common with it. -/
theorem range_disjoint {a b c d : Int} (h : b ≤ c ∨ d ≤ a) :
    Disjoint (range a b) (range c d) := by
  rw [Set.disjoint_left]
  intro address hfirst hsecond
  simp only [range, Set.mem_Ico] at hfirst hsecond
  omega

end EraseBlocks
