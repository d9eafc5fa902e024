import Mathlib.Algebra.Order.Field.Basic
import Mathlib.Data.Nat.Bitwise
import Mathlib.Tactic.NormNum
import Mathlib.Tactic.Positivity
import EcatMaster.Library.BinaryFloats
import EcatMaster.Tasks.Publishers

/-! The half-precision numbers of the power board.

`read_float16` decodes the interchange format with 10 fraction bits in single precision.
-/

set_option autoImplicit false

namespace EcatMaster.Tasks
open Library

def float16Pattern (h : UInt16) : Nat := h.toNat % 2 ^ 15

def float16Sign (h : UInt16) : Rat := if 2 ^ 15 ≤ h.toNat then -1 else 1

theorem float16_frac (h : UInt16) : (h &&& 0x03FF).toNat = float16Pattern h % 2 ^ 10 := by
  have mask : (0x03FF : UInt16).toNat = 2 ^ 10 - 1 := rfl
  rw [UInt16.toNat_and, mask, Nat.and_two_pow_sub_one_eq_mod, float16Pattern]
  omega

theorem float16_exp (h : UInt16) : ((h &&& 0x7C00) >>> 10).toNat = float16Pattern h / 2 ^ 10 := by
  have mask : (0x7C00 : UInt16).toNat >>> 10 = 2 ^ 5 - 1 := rfl
  have low : (10 : UInt16).toNat % 16 = 10 := rfl
  rw [UInt16.toNat_shiftRight, UInt16.toNat_and, low, Nat.shiftRight_and_distrib, mask, Nat.and_two_pow_sub_one_eq_mod,
    Nat.shiftRight_eq_div_pow, float16Pattern]
  omega

theorem float16_sign (h : UInt16) : h &&& 0x8000 ≠ 0 ↔ 2 ^ 15 ≤ h.toNat := by
  have mask : (0x8000 : UInt16).toNat = 2 ^ 15 := rfl
  have bit : h.toNat &&& 2 ^ 15 = (h.toNat.testBit 15).toNat * 2 ^ 15 := Nat.and_two_pow h.toNat 15
  have range := h.toNat_lt
  rw [Ne, ← UInt16.toNat_inj, UInt16.toNat_and, mask, bit, Nat.testBit_eq_decide_div_mod_eq]
  have top : h.toNat / 2 ^ 15 % 2 = 1 ↔ 2 ^ 15 ≤ h.toNat := by omega
  simpa using top

theorem float16Value_eq (h : UInt16) :
    float16Value h =
      if float16Pattern h < 31 * 2 ^ 10 then .finite (float16Sign h * units 10 (float16Pattern h) / 2 ^ 24)
      else if float16Pattern h = 31 * 2 ^ 10 then .infinite (decide (2 ^ 15 ≤ h.toNat)) else .nan := by
  have range : float16Pattern h < 32 * 2 ^ 10 := Nat.mod_lt _ (by decide)
  have sign : (if 2 ^ 15 ≤ h.toNat then (-1 : Rat) else 1) = float16Sign h := rfl
  unfold float16Value
  simp only [float16_exp, float16_frac, float16_sign, sign]
  rcases pattern_cases 10 (float16Pattern h) with low | ⟨e, m, small, pattern⟩
  · have finite : float16Pattern h < 31 * 2 ^ 10 := by omega
    rw [if_pos (Nat.div_eq_of_lt low), if_pos finite, units_low low, Nat.mod_eq_of_lt low]
    congr 1
    ring
  · have exp : float16Pattern h / 2 ^ 10 = e + 1 := by omega
    have frac : float16Pattern h % 2 ^ 10 = m := by omega
    rw [exp, frac, if_neg (Nat.succ_ne_zero e)]
    by_cases finite : e + 1 = 31
    · have above : ¬float16Pattern h < 31 * 2 ^ 10 := by omega
      have first : float16Pattern h = 31 * 2 ^ 10 ↔ m = 0 := by omega
      rw [if_pos finite, if_neg above]
      by_cases zero : m = 0
      · rw [if_pos (first.mpr zero), if_neg (not_not.mpr zero)]
      · rw [if_neg (mt first.mp zero), if_pos zero]
    · have below : float16Pattern h < 31 * 2 ^ 10 := by omega
      rw [if_neg finite, if_pos below, pattern, units_normal e small]
      congr 1
      push_cast
      ring

theorem float16_finite {h : UInt16} {x : Rat} :
    float16Value h = .finite x ↔
      float16Pattern h < 31 * 2 ^ 10 ∧ x = float16Sign h * units 10 (float16Pattern h) / 2 ^ 24 := by
  rw [float16Value_eq]
  split_ifs with below first
  · rw [FloatValue.finite.injEq, eq_comm, and_iff_right below]
  · exact ⟨nofun, fun finite => absurd finite.1 below⟩
  · exact ⟨nofun, fun finite => absurd finite.1 below⟩

theorem abs_float16Sign (h : UInt16) : |float16Sign h| = 1 := by
  unfold float16Sign
  split_ifs <;> simp

/-- A significand of 11 bits, and an exponent from -24 to 5. -/
def Binary16 (x : Rat) : Prop := ∃ m e : Nat, m < 2 ^ 11 ∧ e ≤ 29 ∧ |x| = m * 2 ^ e / 2 ^ 24

/-- A significand of 24 bits, and an exponent from -149 to 104. -/
def Binary32 (x : Rat) : Prop := ∃ m e : Nat, m < 2 ^ 24 ∧ e ≤ 253 ∧ |x| = m * 2 ^ e / 2 ^ 149

theorem float16_binary16 {h : UInt16} {x : Rat} (finite : float16Value h = .finite x) : Binary16 x := by
  obtain ⟨below, rfl⟩ := float16_finite.mp finite
  obtain ⟨m, e, small, bound, same⟩ := units_significant (k := 29) below
  refine ⟨m, e, small, bound, ?_⟩
  rw [abs_div, abs_mul, abs_float16Sign, one_mul, Nat.abs_cast, same]
  push_cast
  norm_num

theorem float16_pattern {n : Nat} (low : n < 2 ^ 15) (negative : Bool) :
    ∃ h : UInt16, float16Pattern h = n ∧ float16Sign h = if negative then -1 else 1 := by
  have size : UInt16.size = 2 ^ 16 := rfl
  cases negative with
  | false =>
    have word : (UInt16.ofNat n).toNat = n := UInt16.toNat_ofNat_of_lt (by omega)
    exact ⟨UInt16.ofNat n, by rw [float16Pattern, word]; omega, by rw [float16Sign, word, if_neg (by omega)]; rfl⟩
  | true =>
    have word : (UInt16.ofNat (2 ^ 15 + n)).toNat = 2 ^ 15 + n := UInt16.toNat_ofNat_of_lt (by omega)
    exact ⟨UInt16.ofNat (2 ^ 15 + n), by rw [float16Pattern, word]; omega, by rw [float16Sign, word, if_pos (by omega)]; rfl⟩

theorem binary16_float16 {x : Rat} (representable : Binary16 x) : ∃ h, float16Value h = .finite x := by
  obtain ⟨m, e, small, bound, magnitude⟩ := representable
  obtain ⟨n, low, same⟩ := significant_units (k := 29) ⟨m, e, small, bound, rfl⟩
  have value : |x| = units 10 n / 2 ^ 24 := by
    rw [magnitude, same]
    push_cast
    rfl
  obtain ⟨h, pattern, sign⟩ := float16_pattern (n := n) (by omega) (decide (x < 0))
  refine ⟨h, float16_finite.mpr ⟨pattern ▸ low, ?_⟩⟩
  rw [pattern, sign, mul_div_assoc, ← value]
  by_cases negative : x < 0
  · simp [negative, abs_of_neg negative]
  · simp [negative, abs_of_nonneg (not_lt.mp negative)]

theorem float16_lt {h k : UInt16} {x y : Rat} (less : h < k) (positive : k < 0x8000) (left : float16Value h = .finite x)
    (right : float16Value k = .finite y) : x < y := by
  obtain ⟨_, rfl⟩ := float16_finite.mp left
  obtain ⟨_, rfl⟩ := float16_finite.mp right
  have order : h.toNat < k.toNat := UInt16.lt_iff_toNat_lt.mp less
  have high : k.toNat < 2 ^ 15 := UInt16.lt_iff_toNat_lt.mp positive
  have patterns : float16Pattern h < float16Pattern k := by
    rw [float16Pattern, float16Pattern]
    omega
  have values : (units 10 (float16Pattern h) : Rat) < units 10 (float16Pattern k) :=
    Nat.cast_lt.mpr (units_strictMono 10 patterns)
  rw [float16Sign, float16Sign, if_neg (by omega), if_neg (by omega), one_mul, one_mul]
  exact div_lt_div_of_pos_right values (by norm_num)

theorem float16_neg {h : UInt16} {x : Rat} (positive : h < 0x8000) (finite : float16Value h = .finite x) :
    float16Value (h + 0x8000) = .finite (-x) := by
  obtain ⟨below, rfl⟩ := float16_finite.mp finite
  have low : h.toNat < 2 ^ 15 := UInt16.lt_iff_toNat_lt.mp positive
  have word : (h + 0x8000).toNat = h.toNat + 2 ^ 15 := by
    have bound : h.toNat + 2 ^ 15 < 2 ^ 16 := by omega
    exact (UInt16.toNat_add _ _).trans (Nat.mod_eq_of_lt bound)
  have pattern : float16Pattern (h + 0x8000) = float16Pattern h := by
    rw [float16Pattern, float16Pattern, word]
    omega
  have unsigned : ¬2 ^ 15 ≤ h.toNat := by omega
  refine float16_finite.mpr ⟨pattern.trans_lt below, ?_⟩
  rw [pattern, float16Sign, float16Sign, word, if_pos (Nat.le_add_left _ _), if_neg unsigned]
  ring

/-- The operands and results in single precision, in the order of the source. -/
def float16Steps (h : UInt16) : List Rat :=
  let exp := ((h &&& 0x7C00) >>> 10).toNat
  let frac := (h &&& 0x03FF).toNat
  let sign : Rat := if h &&& 0x8000 ≠ 0 then -1 else 1
  if exp = 0 then
    if frac ≠ 0 then [(2 ^ 14)⁻¹, sign * (2 ^ 14)⁻¹, frac, frac / 1024, sign * (2 ^ 14)⁻¹ * (frac / 1024)]
    else [sign, sign * 0]
  else if exp = 0x1F then []
  else
    [2 ^ exp / 2 ^ 15, sign * (2 ^ exp / 2 ^ 15), frac, frac / 1024, 1 + frac / 1024,
      sign * (2 ^ exp / 2 ^ 15) * (1 + frac / 1024)]

theorem binary32_of {x : Rat} {m e : Nat} (small : m < 2 ^ 24) (bound : e ≤ 253)
    (value : x = m * 2 ^ e / 2 ^ 149) : Binary32 x := by
  refine ⟨m, e, small, bound, ?_⟩
  rw [value, abs_of_nonneg]
  positivity

theorem Binary32.mul_sign {s x : Rat} (sign : |s| = 1) (representable : Binary32 x) : Binary32 (s * x) := by
  obtain ⟨m, e, small, bound, value⟩ := representable
  exact ⟨m, e, small, bound, by rw [abs_mul, sign, one_mul, value]⟩

theorem float16_steps {h : UInt16} {x : Rat} (finite : float16Value h = .finite x) :
    (float16Steps h).getLast? = some x ∧ ∀ y ∈ float16Steps h, Binary32 y := by
  have sign : |(if h &&& 0x8000 ≠ 0 then (-1 : Rat) else 1)| = 1 := by split_ifs <;> simp
  have fraction : (h &&& 0x03FF).toNat < 2 ^ 10 := float16_frac h ▸ Nat.mod_lt _ (by decide)
  have exponent : ((h &&& 0x7C00) >>> 10).toNat < 32 := by
    rw [float16_exp]
    have range : float16Pattern h < 2 ^ 15 := Nat.mod_lt _ (by decide)
    omega
  unfold float16Value at finite
  unfold float16Steps
  generalize (if h &&& 0x8000 ≠ 0 then (-1 : Rat) else 1) = s at finite sign ⊢
  generalize (h &&& 0x03FF).toNat = frac at finite fraction ⊢
  generalize ((h &&& 0x7C00) >>> 10).toNat = exp at finite exponent ⊢
  dsimp only at finite ⊢
  have quotient : Binary32 (frac / 1024) := binary32_of (m := frac) (e := 139) (by omega) (by omega) (by ring)
  by_cases subnormal : exp = 0
  · rw [if_pos subnormal] at finite ⊢
    cases finite
    by_cases nonzero : frac ≠ 0
    · rw [if_pos nonzero]
      have power : Binary32 (2 ^ 14)⁻¹ := binary32_of (m := 1) (e := 135) (by decide) (by decide) (by norm_num)
      have product : Binary32 ((2 ^ 14)⁻¹ * (frac / 1024)) :=
        binary32_of (m := frac) (e := 125) (by omega) (by omega) (by ring)
      refine ⟨rfl, ?_⟩
      simp only [List.forall_mem_cons, List.not_mem_nil, false_implies, implies_true, and_true, mul_assoc]
      exact ⟨power, power.mul_sign sign, binary32_of (m := frac) (e := 149) (by omega) (by omega) (by ring), quotient,
        product.mul_sign sign⟩
    · have zero : frac = 0 := not_not.mp nonzero
      rw [if_neg nonzero]
      have one : Binary32 1 := binary32_of (m := 1) (e := 149) (by decide) (by decide) (by norm_num)
      have null : Binary32 0 := binary32_of (m := 0) (e := 0) (by decide) (by decide) (by norm_num)
      refine ⟨by simp [zero], ?_⟩
      simp only [List.forall_mem_cons, List.not_mem_nil, false_implies, implies_true, and_true]
      exact ⟨by simpa using one.mul_sign sign, null.mul_sign sign⟩
  · rw [if_neg subnormal] at finite ⊢
    by_cases special : exp = 0x1F
    · rw [if_pos special] at finite
      split_ifs at finite
    · rw [if_neg special] at finite ⊢
      cases finite
      -- All of these are powers of two times at most 11 bits.
      obtain ⟨e, rfl⟩ : ∃ e, exp = e + 1 := ⟨exp - 1, by omega⟩
      have power : Binary32 (2 ^ (e + 1) / 2 ^ 15) :=
        binary32_of (m := 1) (e := e + 135) (by decide) (by omega) (by rw [pow_add, pow_add]; push_cast; ring)
      have significand : Binary32 (1 + frac / 1024) :=
        binary32_of (m := 1024 + frac) (e := 139) (by omega) (by decide) (by push_cast; ring)
      have product : Binary32 (2 ^ (e + 1) / 2 ^ 15 * (1 + frac / 1024)) :=
        binary32_of (m := 1024 + frac) (e := e + 125) (by omega) (by omega) (by rw [pow_add, pow_add]; push_cast; ring)
      refine ⟨rfl, ?_⟩
      simp only [List.forall_mem_cons, List.not_mem_nil, false_implies, implies_true, and_true, mul_assoc]
      exact ⟨power, power.mul_sign sign, binary32_of (m := frac) (e := 149) (by omega) (by omega) (by ring), quotient,
        significand, product.mul_sign sign⟩

/-- `read_float16` decodes exactly: its finite values are the numbers of the format, the unsigned patterns in
their order, and no step in single precision rounds. -/
theorem float16_exact :
    (∀ h x, float16Value h = .finite x →
      Binary16 x ∧ (float16Steps h).getLast? = some x ∧ ∀ y ∈ float16Steps h, Binary32 y) ∧
    (∀ x, Binary16 x → ∃ h, float16Value h = .finite x) ∧
    (∀ h k x y, h < k → k < 0x8000 → float16Value h = .finite x → float16Value k = .finite y → x < y) ∧
    ∀ h x, h < 0x8000 → float16Value h = .finite x → float16Value (h + 0x8000) = .finite (-x) :=
  ⟨fun _ _ finite => ⟨float16_binary16 finite, float16_steps finite⟩, fun _ => binary16_float16,
    fun _ _ _ _ => float16_lt, fun _ _ => float16_neg⟩

end EcatMaster.Tasks
