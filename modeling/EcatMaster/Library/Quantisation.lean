import Mathlib.Algebra.Order.Floor.Ring
import Mathlib.Tactic.FieldSimp
import Mathlib.Tactic.Linarith
import Mathlib.Tactic.Ring

/-! Linear quantisation of an interval.

The codes from 0 to `levels` stand for points of the interval that are one step
apart. A point is quantised to the last code that does not lie above it.
-/

set_option autoImplicit false

namespace EcatMaster.Library

variable {K : Type*} [Field K] [LinearOrder K] [IsStrictOrderedRing K]

/-- How many steps a point lies above the lower end. -/
def stepsAbove (low high : K) (levels : Nat) (x : K) : K := (x - low) * levels / (high - low)

/-- The point that a code stands for. -/
def pointOf (low high : K) (levels : Nat) (code : K) : K := code * (high - low) / levels + low

def stepWidth (low high : K) (levels : Nat) : K := (high - low) / levels

section Intervals
variable {low high : K} {levels : Nat}

theorem stepsAbove_pointOf (proper : low ≠ high) (steps : levels ≠ 0) (code : K) :
    stepsAbove low high levels (pointOf low high levels code) = code := by
  have wide : high - low ≠ 0 := sub_ne_zero.mpr proper.symm
  have nonzero : (levels : K) ≠ 0 := Nat.cast_ne_zero.mpr steps
  unfold stepsAbove pointOf
  field_simp
  ring

theorem pointOf_stepsAbove (proper : low ≠ high) (steps : levels ≠ 0) (x : K) :
    pointOf low high levels (stepsAbove low high levels x) = x := by
  have wide : high - low ≠ 0 := sub_ne_zero.mpr proper.symm
  have nonzero : (levels : K) ≠ 0 := Nat.cast_ne_zero.mpr steps
  unfold stepsAbove pointOf
  field_simp
  ring

theorem pointOf_add_one (code : K) :
    pointOf low high levels (code + 1) = pointOf low high levels code + stepWidth low high levels := by
  unfold pointOf stepWidth
  ring

omit [LinearOrder K] [IsStrictOrderedRing K] in
theorem pointOf_zero : pointOf low high levels 0 = low := by
  rw [pointOf, zero_mul, zero_div, zero_add]

theorem pointOf_levels (steps : levels ≠ 0) : pointOf low high levels levels = high := by
  have nonzero : (levels : K) ≠ 0 := Nat.cast_ne_zero.mpr steps
  unfold pointOf
  field_simp
  ring

section Proper
variable (proper : low < high) (steps : levels ≠ 0)
include proper steps

theorem pointOf_lt_iff (a b : K) : pointOf low high levels a < pointOf low high levels b ↔ a < b := by
  have positive : (0 : K) < levels := Nat.cast_pos.mpr (Nat.pos_of_ne_zero steps)
  unfold pointOf
  rw [add_lt_add_iff_right, div_lt_div_iff_of_pos_right positive, mul_lt_mul_iff_of_pos_right (sub_pos.mpr proper)]

theorem pointOf_le_iff (a b : K) : pointOf low high levels a ≤ pointOf low high levels b ↔ a ≤ b := by
  rw [← not_lt, pointOf_lt_iff proper steps, not_lt]

theorem stepsAbove_le_iff (x y : K) : stepsAbove low high levels x ≤ stepsAbove low high levels y ↔ x ≤ y := by
  rw [← pointOf_le_iff proper steps, pointOf_stepsAbove proper.ne steps, pointOf_stepsAbove proper.ne steps]

theorem stepsAbove_nonneg {x : K} (above : low ≤ x) : 0 ≤ stepsAbove low high levels x := by
  rwa [← pointOf_le_iff proper steps, pointOf_stepsAbove proper.ne steps, pointOf_zero]

theorem stepsAbove_le_levels {x : K} (below : x ≤ high) : stepsAbove low high levels x ≤ levels := by
  rwa [← pointOf_le_iff proper steps, pointOf_stepsAbove proper.ne steps, pointOf_levels steps]

end Proper

section Codes
variable [FloorRing K]

theorem floor_stepsAbove_bounds (proper : low < high) (steps : levels ≠ 0) {x : K} (above : low ≤ x)
    (below : x ≤ high) :
    0 ≤ ⌊stepsAbove low high levels x⌋ ∧ ⌊stepsAbove low high levels x⌋ ≤ levels := by
  constructor
  · exact Int.floor_nonneg.mpr (stepsAbove_nonneg proper steps above)
  · have top := Int.floor_mono (stepsAbove_le_levels proper steps below)
    rwa [Int.floor_natCast] at top

theorem pointOf_floor_bounds (proper : low < high) (steps : levels ≠ 0) (x : K) :
    pointOf low high levels ⌊stepsAbove low high levels x⌋ ≤ x ∧
      x < pointOf low high levels ⌊stepsAbove low high levels x⌋ + stepWidth low high levels := by
  have back := pointOf_stepsAbove proper.ne steps x
  constructor
  · calc pointOf low high levels ⌊stepsAbove low high levels x⌋
        ≤ pointOf low high levels (stepsAbove low high levels x) :=
          (pointOf_le_iff proper steps _ _).mpr (Int.floor_le _)
      _ = x := back
  · calc x = pointOf low high levels (stepsAbove low high levels x) := back.symm
      _ < pointOf low high levels (⌊stepsAbove low high levels x⌋ + 1) :=
          (pointOf_lt_iff proper steps _ _).mpr (Int.lt_floor_add_one _)
      _ = _ := pointOf_add_one _

theorem floor_stepsAbove_pointOf (proper : low ≠ high) (steps : levels ≠ 0) (code : Int) :
    ⌊stepsAbove low high levels (pointOf low high levels (code : K))⌋ = code := by
  rw [stepsAbove_pointOf proper steps, Int.floor_intCast]

end Codes

end Intervals

end EcatMaster.Library
