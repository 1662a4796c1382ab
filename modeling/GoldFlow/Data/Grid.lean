import Mathlib.Algebra.Order.Floor.Ring
import Mathlib.Order.Bounds.Basic
import Mathlib.Tactic.Linarith
import Mathlib.Tactic.Ring

/-! # Grids

The values `base + n * step`, and rounding down to them.
-/

namespace GoldFlow.Data

variable {K : Type} [Field K] {base step value bound : K}

/-- A point of the grid that starts at `base`. -/
def OnGrid (base step value : K) : Prop := ∃ n : ℕ, value = base + n * step

variable [LinearOrder K] [IsStrictOrderedRing K]

theorem OnGrid.base_le (positive : 0 < step) (onGrid : OnGrid base step value) : base ≤ value := by
  obtain ⟨n, rfl⟩ := onGrid
  have := mul_nonneg (n.cast_nonneg : (0 : K) ≤ n) positive.le
  linarith

variable [FloorRing K]

/-- The greatest point of the grid up to `bound`. -/
def floorTo (base step bound : K) : K := base + ⌊(bound - base) / step⌋ * step

theorem floorTo_le (positive : 0 < step) : floorTo base step bound ≤ bound := by
  have below := Int.floor_le ((bound - base) / step)
  rw [le_div_iff₀ positive] at below
  rw [floorTo]
  linarith

theorem onGrid_floorTo (positive : 0 < step) (reached : base ≤ bound) : OnGrid base step (floorTo base step bound) := by
  have nonneg : 0 ≤ ⌊(bound - base) / step⌋ := Int.floor_nonneg.mpr (div_nonneg (sub_nonneg.mpr reached) positive.le)
  obtain ⟨n, steps⟩ := Int.eq_ofNat_of_zero_le nonneg
  exact ⟨n, by simp [floorTo, steps]⟩

theorem OnGrid.le_floorTo (positive : 0 < step) (onGrid : OnGrid base step value) (below : value ≤ bound) :
    value ≤ floorTo base step bound := by
  obtain ⟨n, rfl⟩ := onGrid
  have steps : (n : ℤ) ≤ ⌊(bound - base) / step⌋ := by
    rw [Int.le_floor, le_div_iff₀ positive]
    simp only [Int.cast_natCast]
    linarith
  have cast : (n : K) ≤ ⌊(bound - base) / step⌋ := by exact_mod_cast steps
  rw [floorTo]
  linarith [mul_le_mul_of_nonneg_right cast positive.le]

theorem isGreatest_floorTo (positive : 0 < step) (reached : base ≤ bound) :
    IsGreatest {value | OnGrid base step value ∧ value ≤ bound} (floorTo base step bound) :=
  ⟨⟨onGrid_floorTo positive reached, floorTo_le positive⟩, fun _ point => point.1.le_floorTo positive point.2⟩

end GoldFlow.Data
