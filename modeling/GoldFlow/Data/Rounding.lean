import Mathlib.Data.Int.Log
import Mathlib.Data.Rat.Floor
import Mathlib.Tactic.Linarith

/-! # Rounding

A number format appears only through the function that rounds an exact rational to it. What the format
holds is what its rounding keeps.
-/

namespace GoldFlow.Data

/-- To the nearest integer, and halves to the even one. -/
def roundHalfEven (value : ℚ) : ℤ :=
  let below := ⌊value⌋
  let rest := value - below
  if rest < 1 / 2 then below
  else if 1 / 2 < rest then below + 1
  else if below % 2 = 0 then below else below + 1

/-- To the nearest integer, and halves away from zero. -/
def roundHalfAway (value : ℚ) : ℤ := if 0 ≤ value then ⌊value + 1 / 2⌋ else ⌈value - 1 / 2⌉

/-- A fixed number of decimals. -/
def toScale (scale : ℕ) (value : ℚ) : ℚ := roundHalfAway (value * 10 ^ scale) / 10 ^ scale

/-- A fixed number of significant digits. -/
def toPrecision (digits : ℕ) (value : ℚ) : ℚ :=
  let unit : ℚ := 10 ^ (Int.log 10 |value| + 1 - digits)
  roundHalfEven (value / unit) * unit

theorem roundHalfEven_bounds (value : ℚ) : ⌊value⌋ ≤ roundHalfEven value ∧ roundHalfEven value ≤ ⌊value⌋ + 1 := by
  unfold roundHalfEven
  dsimp only
  split_ifs <;> omega

theorem roundHalfEven_intCast (integer : ℤ) : roundHalfEven integer = integer := by
  simp [roundHalfEven]

theorem roundHalfEven_mono {first second : ℚ} (ordered : first ≤ second) :
    roundHalfEven first ≤ roundHalfEven second := by
  rcases lt_or_eq_of_le (Int.floor_le_floor ordered) with apart | same
  · have upper := (roundHalfEven_bounds first).2
    have lower := (roundHalfEven_bounds second).1
    omega
  · -- between the same two integers the greater value has the greater rest
    unfold roundHalfEven
    dsimp only
    rw [same]
    split_ifs <;> first | omega | (exfalso; linarith)

theorem roundHalfAway_intCast (integer : ℤ) : roundHalfAway integer = integer := by
  have half : ⌊(1 / 2 : ℚ)⌋ = 0 := by norm_num
  have negated : ⌈(-(1 / 2) : ℚ)⌉ = 0 := by norm_num
  unfold roundHalfAway
  split_ifs
  · rw [add_comm, Int.floor_add_intCast, half, zero_add]
  · rw [sub_eq_neg_add, Int.ceil_add_intCast, negated, zero_add]

@[simp]
theorem toScale_zero (scale : ℕ) : toScale scale 0 = 0 := by
  have zero := roundHalfAway_intCast 0
  rw [Int.cast_zero] at zero
  rw [toScale, zero_mul, zero, Int.cast_zero, zero_div]

@[simp]
theorem toScale_toScale (scale : ℕ) (value : ℚ) : toScale scale (toScale scale value) = toScale scale value := by
  have unit : (10 : ℚ) ^ scale ≠ 0 := by positivity
  rw [toScale, toScale, div_mul_cancel₀ _ unit, roundHalfAway_intCast]

@[simp]
theorem toScale_comp_toScale (scale : ℕ) : toScale scale ∘ toScale scale = toScale scale :=
  funext (toScale_toScale scale)

end GoldFlow.Data
