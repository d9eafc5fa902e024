import Mathlib.Algebra.Order.Monoid.NatCast
import Mathlib.Order.Monotone.Basic
import Mathlib.Tactic.Linarith
import Mathlib.Tactic.Ring

/-! Magnitudes of binary floating-point formats.

A pattern is an exponent field over a fraction of `f` bits. Its magnitude is counted in
units of the least positive number of the format, so it is a natural number. The next
pattern stands for the next magnitude, also where the exponent field changes.
-/

set_option autoImplicit false

namespace EcatMaster.Library

variable {f : Nat}

/-- The magnitude of a pattern: subnormal where the exponent field is 0. -/
def units (f n : Nat) : Nat :=
  if n / 2 ^ f = 0 then n % 2 ^ f else (2 ^ f + n % 2 ^ f) * 2 ^ (n / 2 ^ f - 1)

/-- The magnitudes with a significand of `f + 1` bits and an exponent of at most `k`. -/
def Significant (f k x : Nat) : Prop := ∃ m e, m < 2 ^ (f + 1) ∧ e ≤ k ∧ x = m * 2 ^ e

theorem units_low {n : Nat} (low : n < 2 ^ f) : units f n = n := by
  rw [units, Nat.div_eq_of_lt low, if_pos rfl, Nat.mod_eq_of_lt low]

theorem units_normal (e : Nat) {m : Nat} (low : m < 2 ^ f) : units f ((e + 1) * 2 ^ f + m) = (2 ^ f + m) * 2 ^ e := by
  have field : ((e + 1) * 2 ^ f + m) / 2 ^ f = e + 1 := by
    rw [Nat.mul_comm, Nat.mul_add_div (Nat.two_pow_pos f), Nat.div_eq_of_lt low, Nat.add_zero]
  have fraction : ((e + 1) * 2 ^ f + m) % 2 ^ f = m := by
    rw [Nat.mul_add_mod_self_right, Nat.mod_eq_of_lt low]
  rw [units, field, fraction, if_neg (Nat.succ_ne_zero e), Nat.add_sub_cancel]

theorem pattern_cases (f n : Nat) : n < 2 ^ f ∨ ∃ e m, m < 2 ^ f ∧ n = (e + 1) * 2 ^ f + m := by
  rcases Nat.lt_or_ge n (2 ^ f) with low | high
  · exact Or.inl low
  · have positive : 1 ≤ n / 2 ^ f := (Nat.one_le_div_iff (Nat.two_pow_pos f)).mpr high
    refine Or.inr ⟨n / 2 ^ f - 1, n % 2 ^ f, Nat.mod_lt _ (Nat.two_pow_pos f), ?_⟩
    rw [Nat.sub_add_cancel positive, Nat.mul_comm, Nat.div_add_mod]

theorem units_small {n : Nat} (small : n < 2 ^ (f + 1)) : units f n = n := by
  rcases pattern_cases f n with low | ⟨e, m, _, rfl⟩
  · exact units_low low
  · have first : e = 0 := by
      by_contra higher
      have more : 2 * 2 ^ f ≤ (e + 1) * 2 ^ f := Nat.mul_le_mul_right _ (by omega)
      rw [Nat.pow_succ] at small
      omega
    subst first
    rw [units_normal 0 ‹_›]
    ring

/-- The next pattern is one unit in the last place above. -/
theorem units_succ (f n : Nat) : units f (n + 1) = units f n + 2 ^ (n / 2 ^ f - 1) := by
  rcases pattern_cases f n with low | ⟨e, m, small, rfl⟩
  · have next : n + 1 < 2 ^ (f + 1) := by rw [Nat.pow_succ]; omega
    rw [units_low low, units_small next, Nat.div_eq_of_lt low]
    rfl
  · have field : ((e + 1) * 2 ^ f + m) / 2 ^ f - 1 = e := by
      rw [Nat.mul_comm, Nat.mul_add_div (Nat.two_pow_pos f), Nat.div_eq_of_lt small]
      rfl
    rw [field, units_normal e small, Nat.add_assoc]
    by_cases still : m + 1 < 2 ^ f
    · rw [units_normal e still]
      ring
    · have carried : m + 1 = 2 ^ f := by omega
      have next : (e + 1) * 2 ^ f + (m + 1) = (e + 1 + 1) * 2 ^ f + 0 := by
        rw [carried]
        ring
      rw [next, units_normal (e + 1) (Nat.two_pow_pos f)]
      calc (2 ^ f + 0) * 2 ^ (e + 1) = (2 ^ f + (m + 1)) * 2 ^ e := by rw [carried]; ring
        _ = (2 ^ f + m) * 2 ^ e + 2 ^ e := by ring

theorem units_strictMono (f : Nat) : StrictMono (units f) := by
  refine strictMono_nat_of_lt_succ fun n => ?_
  rw [units_succ]
  exact Nat.lt_add_of_pos_right (Nat.two_pow_pos _)

theorem units_significant {k n : Nat} (low : n < (k + 2) * 2 ^ f) : Significant f k (units f n) := by
  rcases pattern_cases f n with low | ⟨e, m, small, rfl⟩
  · exact ⟨n, 0, by rw [Nat.pow_succ]; omega, Nat.zero_le k, by rw [units_low low, Nat.pow_zero, Nat.mul_one]⟩
  · refine ⟨2 ^ f + m, e, by rw [Nat.pow_succ]; omega, ?_, units_normal e small⟩
    by_contra high
    have more : (k + 2) * 2 ^ f ≤ (e + 1) * 2 ^ f := Nat.mul_le_mul_right _ (by omega)
    omega

theorem significant_units {k x : Nat} (significant : Significant f k x) : ∃ n < (k + 2) * 2 ^ f, units f n = x := by
  obtain ⟨m, e, small, bound, rfl⟩ := significant
  have split : 2 ^ (f + 1) = 2 ^ f + 2 ^ f := by rw [Nat.pow_succ, Nat.mul_two]
  induction e generalizing m with
  | zero =>
    have room : 2 * 2 ^ f ≤ (k + 2) * 2 ^ f := Nat.mul_le_mul_right _ (by omega)
    exact ⟨m, by omega, by rw [units_small small, Nat.pow_zero, Nat.mul_one]⟩
  | succ e ih =>
    by_cases normal : 2 ^ f ≤ m
    · have room : (e + 3) * 2 ^ f ≤ (k + 2) * 2 ^ f := Nat.mul_le_mul_right _ (by omega)
      have next : (e + 3) * 2 ^ f = (e + 1 + 1) * 2 ^ f + 2 ^ f := by ring
      refine ⟨(e + 1 + 1) * 2 ^ f + (m - 2 ^ f), by omega, ?_⟩
      rw [units_normal (e + 1) (by omega), Nat.add_sub_cancel' normal]
    · obtain ⟨n, low, same⟩ := ih (2 * m) (by omega) (by omega)
      exact ⟨n, low, same.trans (by ring)⟩

end EcatMaster.Library
