import EcatMaster.Library.BitFields
import EcatMaster.Library.Quantisation
import EcatMaster.Tasks.InitSdo
import EcatMaster.Tasks.Publishers
import Mathlib.Data.Rat.Floor
import Mathlib.Tactic.NormNum

/-! The MIT command of a DM motor: five quantised values in eight bytes.

The values are quantised one by one, narrowed to 16 bits and packed. Position has
16 bits, the others have 12 and share bytes; nothing is clamped on the way.
-/

set_option autoImplicit false

namespace EcatMaster.Tasks.DmMotor
open Library

theorem truncate_of_nonneg {value : Rat} (nonneg : 0 ≤ value) : truncate value = ⌊value⌋ := by
  rw [truncate, Rat.floor_def', Int.tdiv_eq_ediv_of_nonneg (Rat.num_nonneg.mpr nonneg)]

theorem truncate_neg (value : Rat) : truncate (-value) = -truncate value := by
  rw [truncate, truncate, Rat.num_neg_eq_neg_num, Rat.den_neg_eq_den, Int.neg_tdiv]

theorem truncate_of_nonpos {value : Rat} (nonpos : value ≤ 0) : truncate value = ⌈value⌉ := by
  have turned := truncate_neg (-value)
  rw [neg_neg, truncate_of_nonneg (neg_nonneg.mpr nonpos), Int.floor_neg, neg_neg] at turned
  exact turned

theorem truncate_mono {a b : Rat} (order : a ≤ b) : truncate a ≤ truncate b := by
  rcases le_total 0 a with above | below
  · rw [truncate_of_nonneg above, truncate_of_nonneg (above.trans order)]
    exact Int.floor_mono order
  · rw [truncate_of_nonpos below]
    rcases le_total 0 b with above | below'
    · rw [truncate_of_nonneg above]
      exact (Int.ceil_nonpos.mpr below).trans (Int.floor_nonneg.mpr above)
    · rw [truncate_of_nonpos below']
      exact Int.ceil_mono order

theorem truncate_nonneg_iff (value : Rat) : 0 ≤ truncate value ↔ -1 < value := by
  rcases le_total 0 value with above | below
  · rw [truncate_of_nonneg above]
    exact iff_of_true (Int.floor_nonneg.mpr above) (neg_one_lt_zero.trans_le above)
  · rw [truncate_of_nonpos below, Int.le_ceil_iff, Int.cast_zero, zero_sub]

theorem truncate_lt_iff {bound : Int} (positive : 0 < bound)
    (value : Rat) : truncate value < bound ↔ value < bound := by
  rcases le_total 0 value with above | below
  · rw [truncate_of_nonneg above, Int.floor_lt]
  · rw [truncate_of_nonpos below]
    exact iff_of_true ((Int.ceil_nonpos.mpr below).trans_lt positive) (below.trans_lt (Int.cast_pos.mpr positive))

/-- A quantised quantity: the ends of its range and the bits of its field. -/
structure Scale where
  low : Rat
  high : Rat
  bits : Nat

namespace Scale

def levels (s : Scale) : Nat := (1 <<< s.bits) - 1

def code (s : Scale) (x : Rat) : Int := floatToUint x s.low s.high s.bits

def value (s : Scale) (code : Nat) : Rat := uintToFloat code s.low s.high s.bits

def step (s : Scale) : Rat := (s.high - s.low) / s.levels

theorem code_eq (s : Scale) (x : Rat) : s.code x = truncate (stepsAbove s.low s.high s.levels x) := by
  have positive : 1 ≤ 1 <<< s.bits := by
    rw [Nat.one_shiftLeft]
    exact Nat.one_le_two_pow
  have levels : (((1 <<< s.bits) - 1 : Int) : Rat) = (s.levels : Rat) := by
    rw [Scale.levels, Nat.cast_sub positive]
    push_cast
    rfl
  rw [code, floatToUint, stepsAbove, ← levels]

theorem value_eq (s : Scale) (code : Nat) : s.value code = pointOf s.low s.high s.levels (code : Rat) := rfl

theorem code_mono {s : Scale} (proper : s.low < s.high) (steps : s.levels ≠ 0) {x y : Rat} (order : x ≤ y) :
    s.code x ≤ s.code y := by
  rw [code_eq, code_eq]
  exact truncate_mono ((stepsAbove_le_iff proper steps x y).mpr order)

theorem code_of_above {s : Scale} (proper : s.low < s.high) (steps : s.levels ≠ 0) {x : Rat} (above : s.low ≤ x) :
    s.code x = ⌊stepsAbove s.low s.high s.levels x⌋ := by
  rw [code_eq, truncate_of_nonneg (stepsAbove_nonneg proper steps above)]

/-- What a value in the range becomes: a code of the field whose point lies less than one step below. -/
theorem code_in_range {s : Scale} (proper : s.low < s.high) (steps : s.levels ≠ 0) {x : Rat} (above : s.low ≤ x)
    (below : x ≤ s.high) :
    0 ≤ s.code x ∧ s.code x ≤ s.levels ∧ s.value (s.code x).toNat ≤ x ∧ x < s.value (s.code x).toNat + s.step := by
  have eq := code_of_above proper steps above
  have bounds := floor_stepsAbove_bounds proper steps above below
  have close := pointOf_floor_bounds proper steps x
  rw [← eq] at bounds close
  have natural : (((s.code x).toNat : Nat) : Rat) = ((s.code x : Int) : Rat) := by
    rw [← Int.cast_natCast, Int.toNat_of_nonneg bounds.1]
  rw [value_eq, natural]
  exact ⟨bounds.1, bounds.2, close.1, close.2⟩

theorem code_value {s : Scale} (proper : s.low < s.high) (steps : s.levels ≠ 0) (code : Nat) :
    s.code (s.value code) = code := by
  have above : s.low ≤ s.value code := by
    calc s.low = pointOf s.low s.high s.levels 0 := pointOf_zero.symm
      _ ≤ pointOf s.low s.high s.levels (code : Rat) :=
        (pointOf_le_iff proper steps _ _).mpr (Nat.cast_nonneg code)
  rw [code_of_above proper steps above, value_eq]
  exact_mod_cast floor_stepsAbove_pointOf proper.ne steps (code : Int)

end Scale

/-- Position, velocity, kp, kd and torque. -/
def scales (pmax vmax tmax : Rat) : List Scale :=
  [⟨-pmax, pmax, 16⟩, ⟨-vmax, vmax, 12⟩, ⟨0, 500, 12⟩, ⟨0, 5, 12⟩, ⟨-tmax, tmax, 12⟩]

theorem scales_proper {pmax vmax tmax : Rat} (position : 0 < pmax) (velocity : 0 < vmax) (torque : 0 < tmax) :
    ∀ s ∈ scales pmax vmax tmax, s.low < s.high ∧ s.levels ≠ 0 := by
  intro s member
  simp only [scales, List.mem_cons, List.not_mem_nil, or_false] at member
  rcases member with rfl | rfl | rfl | rfl | rfl
  · exact ⟨neg_lt_self position, Nat.succ_ne_zero _⟩
  · exact ⟨neg_lt_self velocity, Nat.succ_ne_zero _⟩
  · exact ⟨by norm_num, Nat.succ_ne_zero _⟩
  · exact ⟨by norm_num, Nat.succ_ne_zero _⟩
  · exact ⟨neg_lt_self torque, Nat.succ_ne_zero _⟩

def packed (pos vel kp kd tor : UInt16) : List UInt8 :=
  [(pos >>> 8).toUInt8,
   pos.toUInt8,
   (vel >>> 4).toUInt8,
   ((vel &&& 0xF) <<< 4 ||| kp >>> 8).toUInt8,
   kp.toUInt8,
   (kd >>> 4).toUInt8,
   ((kd &&& 0xF) <<< 4 ||| tor >>> 8).toUInt8,
   tor.toUInt8]

/-- The position, velocity, kp, kd and torque fields of the eight bytes, the highest bits first. -/
def mitFields (bytes : List UInt8) : List Nat := (bitFields [12, 12, 12, 12, 16] (streamOf bytes.reverse)).reverse

theorem or_split (a b k : Nat) : a ||| b = 2 ^ k * (a / 2 ^ k ||| b / 2 ^ k) + (a % 2 ^ k ||| b % 2 ^ k) := by
  rw [← Nat.or_div_two_pow, ← Nat.or_mod_two_pow, Nat.div_add_mod]

theorem or_small {s : Nat} (small : s < 16) (n : Nat) : n ||| s = 16 * (n / 16) + (n % 16 ||| s) := by
  have split := or_split n s 4
  change n ||| s = 16 * (n / 16 ||| s / 16) + (n % 16 ||| s % 16) at split
  rwa [Nat.div_eq_of_lt small, Nat.or_zero, Nat.mod_eq_of_lt small] at split

/-- A byte that two fields share: the neighbour's bits above its twelve reach into the upper half. -/
theorem shared_byte (field neighbour : UInt16) :
    ((field &&& 0xF) <<< 4 ||| neighbour >>> 8).toUInt8.toNat =
      16 * (field.toNat % 16 ||| neighbour.toNat / 4096) + neighbour.toNat / 256 % 16 := by
  have bound := neighbour.toNat_lt
  have nibble : field.toNat % 16 < 2 ^ 4 := Nat.mod_lt _ (by decide)
  have spilled : neighbour.toNat / 4096 < 2 ^ 4 := by omega
  have upper := Nat.or_lt_two_pow nibble spilled
  have shifted : ((field &&& 0xF) <<< 4).toNat = 16 * (field.toNat % 16) := by
    rw [UInt16.toNat_shiftLeft, UInt16.toNat_and, show (0xF : UInt16).toNat = 2 ^ 4 - 1 from rfl,
      Nat.and_two_pow_sub_one_eq_mod, show (4 : UInt16).toNat % 16 = 4 from rfl, Nat.shiftLeft_eq]
    omega
  have split := or_split (16 * (field.toNat % 16)) (neighbour.toNat / 256) 4
  change _ = 16 * (16 * (field.toNat % 16) / 16 ||| neighbour.toNat / 256 / 16) +
    (16 * (field.toNat % 16) % 16 ||| neighbour.toNat / 256 % 16) at split
  rw [Nat.mul_div_cancel_left _ (by decide), Nat.mul_mod_right, Nat.zero_or, Nat.div_div_eq_div_mul,
    show 256 * 16 = 4096 from rfl] at split
  have high : (neighbour >>> 8).toNat = neighbour.toNat / 256 := by
    rw [UInt16.toNat_shiftRight, show (8 : UInt16).toNat % 16 = 8 from rfl, Nat.shiftRight_eq_div_pow]
  rw [UInt16.toNat_toUInt8, UInt16.toNat_or, shifted, high, split]
  omega

theorem mitFields_packed (pos vel kp kd tor : UInt16) :
    mitFields (packed pos vel kp kd tor) =
      [pos.toNat, vel.toNat % 4096 ||| kp.toNat / 4096, kp.toNat % 4096, kd.toNat % 4096 ||| tor.toNat / 4096,
        tor.toNat % 4096] := by
  have posBound := pos.toNat_lt
  have kpBound := kp.toNat_lt
  have torBound := tor.toNat_lt
  have shift8 : ∀ code : UInt16, (code >>> 8).toUInt8.toNat = code.toNat / 256 % 256 := by
    intro code
    rw [UInt16.toNat_toUInt8, UInt16.toNat_shiftRight, show (8 : UInt16).toNat % 16 = 8 from rfl,
      Nat.shiftRight_eq_div_pow]
  have shift4 : ∀ code : UInt16, (code >>> 4).toUInt8.toNat = code.toNat / 16 % 256 := by
    intro code
    rw [UInt16.toNat_toUInt8, UInt16.toNat_shiftRight, show (4 : UInt16).toNat % 16 = 4 from rfl,
      Nat.shiftRight_eq_div_pow]
  -- The two fields with a shared byte, as their upper eight bits and a nibble.
  have nibbles : ∀ field neighbour : UInt16, ∃ nibble < 16, field.toNat % 16 ||| neighbour.toNat / 4096 = nibble ∧
      field.toNat % 4096 ||| neighbour.toNat / 4096 = 16 * (field.toNat % 4096 / 16) + nibble := by
    intro field neighbour
    have bound := neighbour.toNat_lt
    have spilled : neighbour.toNat / 4096 < 16 := by omega
    have whole := or_small spilled (field.toNat % 4096)
    rw [Nat.mod_mod_of_dvd _ (by decide : 16 ∣ 4096)] at whole
    exact ⟨_, Nat.or_lt_two_pow (n := 4) (Nat.mod_lt _ (by decide)) spilled, rfl, whole⟩
  obtain ⟨velNibble, velSmall, velShared, velocity⟩ := nibbles vel kp
  obtain ⟨kdNibble, kdSmall, kdShared, damping⟩ := nibbles kd tor
  have stream : streamOf (packed pos vel kp kd tor).reverse = joinFields [12, 12, 12, 12, 16]
      [tor.toNat % 4096, kd.toNat % 4096 ||| tor.toNat / 4096, kp.toNat % 4096,
        vel.toNat % 4096 ||| kp.toNat / 4096, pos.toNat] := by
    simp only [packed, List.reverse_cons, List.reverse_nil, List.nil_append, List.cons_append, streamOf, joinFields,
      shared_byte, shift8, shift4, velocity, damping, velShared, kdShared]
    rw [UInt16.toNat_toUInt8, UInt16.toNat_toUInt8, UInt16.toNat_toUInt8]
    omega
  have fit : FieldsFit [12, 12, 12, 12, 16] [tor.toNat % 4096, kd.toNat % 4096 ||| tor.toNat / 4096,
      kp.toNat % 4096, vel.toNat % 4096 ||| kp.toNat / 4096, pos.toNat] := by
    rw [velocity, damping]
    refine .cons ?_ (.cons ?_ (.cons ?_ (.cons ?_ (.cons ?_ .nil)))) <;> omega
  rw [mitFields, stream, bitFields_joinFields fit]
  rfl

def mitCodes (pmax vmax tmax pDes vDes kp kd torque : Rat) : List Int :=
  List.zipWith Scale.code (scales pmax vmax tmax) [pDes, vDes, kp, kd, torque]

theorem mitControlData_eq (pmax vmax tmax pDes vDes kp kd torque : Rat) :
    mitControlData pmax vmax tmax pDes vDes kp kd torque =
      packed (UInt16.ofInt (Scale.code ⟨-pmax, pmax, 16⟩ pDes)) (UInt16.ofInt (Scale.code ⟨-vmax, vmax, 12⟩ vDes))
        (UInt16.ofInt (Scale.code ⟨0, 500, 12⟩ kp)) (UInt16.ofInt (Scale.code ⟨0, 5, 12⟩ kd))
        (UInt16.ofInt (Scale.code ⟨-tmax, tmax, 12⟩ torque)) := rfl

theorem toNat_narrowed (code : Int) : (UInt16.ofInt code).toNat = (code % 65536).toNat := by
  have bound : (code % 65536).toNat < 2 ^ 16 := by omega
  exact UInt16.toNat_ofNat_of_lt' bound

/-- The bits above the twelve of its field that a 16-bit variable keeps of a code. -/
def spill (code : Int) : Nat := (code / 4096 % 16).toNat

/-- What a field holds: its bits of the code, and what the neighbour spills over. -/
def held (bits : Nat) (code : Int) (spilled : Nat) : Nat := (code % 2 ^ bits).toNat ||| spilled

theorem mitFields_command (pmax vmax tmax pDes vDes kp kd torque : Rat) :
    mitFields (mitControlData pmax vmax tmax pDes vDes kp kd torque) =
      [held 16 (Scale.code ⟨-pmax, pmax, 16⟩ pDes) 0,
        held 12 (Scale.code ⟨-vmax, vmax, 12⟩ vDes) (spill (Scale.code ⟨0, 500, 12⟩ kp)),
        held 12 (Scale.code ⟨0, 500, 12⟩ kp) 0,
        held 12 (Scale.code ⟨0, 5, 12⟩ kd) (spill (Scale.code ⟨-tmax, tmax, 12⟩ torque)),
        held 12 (Scale.code ⟨-tmax, tmax, 12⟩ torque) 0] := by
  have low : ∀ code : Int, (code % 65536).toNat % 4096 = (code % 2 ^ 12).toNat := fun code => by omega
  have high : ∀ code : Int, (code % 65536).toNat / 4096 = spill code := fun code => by
    unfold spill
    omega
  rw [mitControlData_eq, mitFields_packed]
  simp only [toNat_narrowed, low, high, held, Nat.or_zero]
  rfl

/-- The value of the field that is closest to the code. -/
def saturate (bits : Nat) (code : Int) : Nat := (max 0 (min code (2 ^ bits - 1))).toNat

theorem saturate_of_mem {bits : Nat} {code : Int} (above : 0 ≤ code) (below : code < 2 ^ bits) :
    saturate bits code = code.toNat := by
  rw [saturate, min_eq_left (Int.le_sub_one_of_lt below), max_eq_right above]

theorem saturate_of_nonpos {bits : Nat} {code : Int} (below : code ≤ 0) : saturate bits code = 0 := by
  have nonpos : min code (2 ^ bits - 1) ≤ 0 := (min_le_left _ _).trans below
  rw [saturate, max_eq_left nonpos, Int.toNat_zero]

theorem saturate_of_top {bits : Nat} {code : Int}
    (above : 2 ^ bits - 1 ≤ code) : saturate bits code = 2 ^ bits - 1 := by
  have positive : (1 : Int) ≤ 2 ^ bits := one_le_pow₀ (by decide)
  rw [saturate, min_eq_right above, max_eq_right (by omega)]
  zify [Nat.one_le_two_pow]
  omega

theorem spill_of_mem {code : Int} (above : 0 ≤ code) (below : code < 2 ^ 12) : spill code = 0 := by
  unfold spill
  omega

theorem Scale.levels_eq (s : Scale) : (s.levels : Int) = 2 ^ s.bits - 1 := by
  rw [Scale.levels, Nat.one_shiftLeft, Nat.cast_sub Nat.one_le_two_pow]
  push_cast
  rfl

theorem Scale.code_mem {s : Scale} (proper : s.low < s.high) (steps : s.levels ≠ 0) {x : Rat} (above : s.low ≤ x)
    (below : x ≤ s.high) : 0 ≤ s.code x ∧ s.code x < 2 ^ s.bits := by
  obtain ⟨nonneg, bound, _⟩ := code_in_range proper steps above below
  rw [levels_eq] at bound
  exact ⟨nonneg, Int.lt_of_le_sub_one bound⟩

theorem held_of_mem {bits : Nat} {code : Int} (above : 0 ≤ code) (below : code < 2 ^ bits) :
    (held bits code 0 : Int) = code := by
  rw [held, Int.emod_eq_of_lt above below, Nat.or_zero, Int.toNat_of_nonneg above]

theorem mitFields_of_mem {pmax vmax tmax pDes vDes kp kd torque : Rat}
    (codes : List.Forall₂ (fun s x => 0 ≤ Scale.code s x ∧ Scale.code s x < 2 ^ s.bits)
      (scales pmax vmax tmax) [pDes, vDes, kp, kd, torque]) :
    (mitFields (mitControlData pmax vmax tmax pDes vDes kp kd torque)).map Int.ofNat =
      mitCodes pmax vmax tmax pDes vDes kp kd torque := by
  unfold scales at codes
  rcases codes with _ | ⟨pos, _ | ⟨vel, _ | ⟨stiffness, _ | ⟨damping, _ | ⟨tor, _⟩⟩⟩⟩⟩
  rw [mitFields_command, spill_of_mem stiffness.1 stiffness.2, spill_of_mem tor.1 tor.2]
  change [((held 16 _ 0 : Nat) : Int), ((held 12 _ 0 : Nat) : Int), ((held 12 _ 0 : Nat) : Int),
    ((held 12 _ 0 : Nat) : Int), ((held 12 _ 0 : Nat) : Int)] = _
  rw [held_of_mem pos.1 pos.2, held_of_mem vel.1 vel.2, held_of_mem stiffness.1 stiffness.2,
    held_of_mem damping.1 damping.2, held_of_mem tor.1 tor.2]
  rfl

/-- A command in its ranges comes back from the eight bytes, and each decoded value lies less than one
step below the commanded one; quantising is monotone and inverts the decoding. -/
theorem mit_round_trip {pmax vmax tmax : Rat} (position : 0 < pmax) (velocity : 0 < vmax) (strength : 0 < tmax) :
    (∀ pDes vDes kp kd torque, |pDes| ≤ pmax → |vDes| ≤ vmax → 0 ≤ kp → kp ≤ 500 → 0 ≤ kd → kd ≤ 5 →
      |torque| ≤ tmax →
        ((mitFields (mitControlData pmax vmax tmax pDes vDes kp kd torque)).map Int.ofNat =
          mitCodes pmax vmax tmax pDes vDes kp kd torque) ∧
        List.Forall₂ (fun s x => 0 ≤ Scale.code s x ∧ Scale.code s x ≤ 2 ^ s.bits - 1 ∧
          s.value (s.code x).toNat ≤ x ∧ x < s.value (s.code x).toNat + s.step)
          (scales pmax vmax tmax) [pDes, vDes, kp, kd, torque]) ∧
    ∀ s ∈ scales pmax vmax tmax, (∀ x y, x ≤ y → s.code x ≤ s.code y) ∧
      ∀ code < 2 ^ s.bits, s.code (s.value code) = code := by
  have proper := scales_proper position velocity strength
  refine ⟨?_, ?_⟩
  · intro pDes vDes kp kd torque posBound velBound kpLow kpHigh kdLow kdHigh torBound
    have covered : List.Forall₂ (fun s x => s ∈ scales pmax vmax tmax ∧ s.low ≤ x ∧ x ≤ s.high)
        (scales pmax vmax tmax) [pDes, vDes, kp, kd, torque] := by
      simp [scales, abs_le.mp posBound, abs_le.mp velBound, abs_le.mp torBound, kpLow, kpHigh, kdLow, kdHigh]
    refine ⟨mitFields_of_mem (covered.imp ?_), covered.imp ?_⟩
    · rintro s x ⟨member, above, below⟩
      exact Scale.code_mem (proper s member).1 (proper s member).2 above below
    · rintro s x ⟨member, above, below⟩
      obtain ⟨wide, steps⟩ := proper s member
      have bounds := Scale.code_mem wide steps above below
      have close := (Scale.code_in_range wide steps above below).2.2
      exact ⟨bounds.1, Int.le_sub_one_of_lt bounds.2, close⟩
  · intro s member
    obtain ⟨wide, steps⟩ := proper s member
    exact ⟨fun x y => Scale.code_mono wide steps, fun code _ => Scale.code_value wide steps code⟩

theorem mit_round_trip_within :
    (mitFields (mitControlData 12 30 10 3 (-5) 100 1 2)).map Int.ofNat = mitCodes 12 30 10 3 (-5) 100 1 2 := by
  have command := (mit_round_trip (show (0 : Rat) < 12 by norm_num) (show (0 : Rat) < 30 by norm_num)
    (show (0 : Rat) < 10 by norm_num)).1
  exact (command 3 (-5) 100 1 2 (abs_le.mpr ⟨by norm_num, by norm_num⟩) (abs_le.mpr ⟨by norm_num, by norm_num⟩)
    (by norm_num) (by norm_num) (by norm_num) (by norm_num) (abs_le.mpr ⟨by norm_num, by norm_num⟩)).1

/-- A value beyond an end of a proper range decodes, once it is saturated, to that end. -/
theorem Scale.value_saturated {s : Scale} (proper : s.low < s.high) (steps : s.levels ≠ 0) (x : Rat) :
    (x ≤ s.low → s.value (saturate s.bits (s.code x)) = s.low) ∧
      (s.high ≤ x → s.value (saturate s.bits (s.code x)) = s.high) := by
  have low : s.code s.low = 0 := by
    have back := code_value proper steps 0
    rwa [value_eq, Nat.cast_zero, pointOf_zero] at back
  have high : s.code s.high = s.levels := by
    have back := code_value proper steps s.levels
    rwa [value_eq, pointOf_levels steps] at back
  constructor
  · intro below
    have code := code_mono proper steps below
    rw [low] at code
    rw [saturate_of_nonpos code, value_eq, Nat.cast_zero, pointOf_zero]
  · intro above
    have code := code_mono proper steps above
    rw [high, levels_eq] at code
    have top : 2 ^ s.bits - 1 = s.levels := by rw [Scale.levels, Nat.one_shiftLeft]
    rw [saturate_of_top code, value_eq, top, pointOf_levels steps]

namespace Scale

/-- The value lies less than one step outside of the range. -/
def Near (s : Scale) (x : Rat) : Prop :=
  -1 < stepsAbove s.low s.high s.levels x ∧ stepsAbove s.low s.high s.levels x < 2 ^ s.bits

instance (s : Scale) (x : Rat) : Decidable (s.Near x) := inferInstanceAs (Decidable (_ ∧ _))

theorem near_iff {s : Scale} (proper : s.low < s.high) (steps : s.levels ≠ 0) (x : Rat) :
    s.Near x ↔ s.low - s.step < x ∧ x < s.high + s.step := by
  have below : pointOf s.low s.high s.levels (-1) = s.low - s.step := by
    have next : pointOf s.low s.high s.levels (-1 + 1) = pointOf s.low s.high s.levels (-1) + s.step :=
      pointOf_add_one (-1)
    rw [neg_add_cancel, pointOf_zero] at next
    exact eq_sub_of_add_eq next.symm
  have above : pointOf s.low s.high s.levels (2 ^ s.bits) = s.high + s.step := by
    have next : pointOf s.low s.high s.levels ((s.levels : Rat) + 1) =
        pointOf s.low s.high s.levels s.levels + s.step := pointOf_add_one (s.levels : Rat)
    rw [pointOf_levels steps] at next
    have size : (2 ^ s.bits : Rat) = s.levels + 1 := by exact_mod_cast eq_add_of_sub_eq s.levels_eq.symm
    rw [size, next]
  rw [Near, ← below, ← above, ← pointOf_lt_iff proper steps, ← pointOf_lt_iff proper steps (stepsAbove _ _ _ x),
    pointOf_stepsAbove proper.ne steps]

theorem code_nonneg_iff (s : Scale) (x : Rat) : 0 ≤ s.code x ↔ -1 < stepsAbove s.low s.high s.levels x := by
  rw [code_eq, truncate_nonneg_iff]

theorem code_lt_iff (s : Scale) (x : Rat) :
    s.code x < 2 ^ s.bits ↔ stepsAbove s.low s.high s.levels x < 2 ^ s.bits := by
  have positive : (0 : Int) < 2 ^ s.bits := pow_pos (by decide) s.bits
  rw [code_eq, truncate_lt_iff positive]
  push_cast
  exact Iff.rfl

/-- The field holds the value, saturated: it lies less than one step outside of its range and its code has
the spilled bits itself; or it lies below and the bits of its code are 0; or it lies above and the bits of its
code, with the spilled ones, are all 1. -/
def Holds (s : Scale) (x : Rat) (spilled : Nat) : Prop :=
  (s.Near x ∧ (s.code x).toNat ||| spilled = (s.code x).toNat) ∨
  (stepsAbove s.low s.high s.levels x ≤ -1 ∧ s.code x % 2 ^ s.bits = 0 ∧ spilled = 0) ∨
  (2 ^ s.bits ≤ stepsAbove s.low s.high s.levels x ∧
    (s.code x % 2 ^ s.bits).toNat ||| spilled = 2 ^ s.bits - 1)

instance (s : Scale) (x : Rat) (spilled : Nat) : Decidable (s.Holds x spilled) :=
  inferInstanceAs (Decidable (_ ∨ _ ∨ _))

theorem held_eq_saturate_iff (s : Scale) (x : Rat) (spilled : Nat) :
    held s.bits (s.code x) spilled = saturate s.bits (s.code x) ↔ s.Holds x spilled := by
  have positive : (0 : Int) < 2 ^ s.bits := pow_pos (by decide) s.bits
  have below_iff : stepsAbove s.low s.high s.levels x ≤ -1 ↔ ¬0 ≤ s.code x := by rw [code_nonneg_iff, not_lt]
  have above_iff : 2 ^ s.bits ≤ stepsAbove s.low s.high s.levels x ↔ ¬s.code x < 2 ^ s.bits := by
    rw [code_lt_iff, not_lt]
  rw [held, Holds, Near, below_iff, above_iff, ← code_nonneg_iff, ← code_lt_iff]
  generalize s.code x = code
  rcases lt_or_ge code 0 with below | above
  · have nonneg := Int.emod_nonneg code positive.ne'
    rw [saturate_of_nonpos below.le, Nat.or_eq_zero_iff]
    constructor
    · rintro ⟨zero, none⟩
      exact Or.inr (Or.inl ⟨not_le.mpr below, by omega, none⟩)
    · rintro (⟨⟨above, _⟩, _⟩ | ⟨_, zero, none⟩ | ⟨beyond, _⟩)
      · exact absurd below (not_lt.mpr above)
      · exact ⟨by rw [zero, Int.toNat_zero], none⟩
      · exact absurd (below.trans positive) beyond
  rcases lt_or_ge code (2 ^ s.bits) with inside | beyond
  · rw [saturate_of_mem above inside, Int.emod_eq_of_lt above inside]
    constructor
    · intro own
      exact Or.inl ⟨⟨above, inside⟩, own⟩
    · rintro (⟨_, own⟩ | ⟨below, _⟩ | ⟨beyond, _⟩)
      · exact own
      · exact absurd above below
      · exact absurd inside beyond
  · rw [saturate_of_top (by omega)]
    constructor
    · intro ones
      exact Or.inr (Or.inr ⟨not_lt.mpr beyond, ones⟩)
    · rintro (⟨⟨_, inside⟩, _⟩ | ⟨below, _⟩ | ⟨_, ones⟩)
      · exact absurd inside (not_lt.mpr beyond)
      · exact absurd above below
      · exact ones

end Scale

/-- What a field decodes to lies on the side of its value: a value beyond an end of a proper range decodes to
that end. -/
def OnItsSide (entry : Scale × Rat) (field : Nat) : Prop :=
  entry.1.low < entry.1.high → (entry.2 ≤ entry.1.low → entry.1.value field = entry.1.low) ∧
    (entry.1.high ≤ entry.2 → entry.1.value field = entry.1.high)

/-- The conversions of a command are defined, and each field of the eight bytes holds its own code,
saturated to the field. -/
structure Undisturbed (pmax vmax tmax pDes vDes kp kd torque : Rat) : Prop where
  divides : ∀ s ∈ scales pmax vmax tmax, s.high - s.low ≠ 0
  -- `static_cast<int>` of a value that `int` does not have is undefined.
  converts : ∀ code ∈ mitCodes pmax vmax tmax pDes vDes kp kd torque, -2 ^ 31 ≤ code ∧ code < 2 ^ 31
  fields : mitFields (mitControlData pmax vmax tmax pDes vDes kp kd torque) =
    List.zipWith (fun s code => saturate s.bits code) (scales pmax vmax tmax)
      (mitCodes pmax vmax tmax pDes vDes kp kd torque)
  sides : List.Forall₂ OnItsSide ((scales pmax vmax tmax).zip [pDes, vDes, kp, kd, torque])
    (mitFields (mitControlData pmax vmax tmax pDes vDes kp kd torque))

/-- No limit is 0, and every value lies less than one step outside of its range; or its code wraps to the end of
the field that it exceeds, and what kp and torque spill over is set in velocity and kd anyway. -/
structure WithinFields (pmax vmax tmax pDes vDes kp kd torque : Rat) : Prop where
  limits : pmax ≠ 0 ∧ vmax ≠ 0 ∧ tmax ≠ 0
  converts : ∀ code ∈ mitCodes pmax vmax tmax pDes vDes kp kd torque, -2 ^ 31 ≤ code ∧ code < 2 ^ 31
  position : Scale.Holds ⟨-pmax, pmax, 16⟩ pDes 0
  velocity : Scale.Holds ⟨-vmax, vmax, 12⟩ vDes (spill (Scale.code ⟨0, 500, 12⟩ kp))
  kp : Scale.Holds ⟨0, 500, 12⟩ kp 0
  kd : Scale.Holds ⟨0, 5, 12⟩ kd (spill (Scale.code ⟨-tmax, tmax, 12⟩ torque))
  torque : Scale.Holds ⟨-tmax, tmax, 12⟩ torque 0

theorem span_ne_zero {limit : Rat} : limit - -limit ≠ 0 ↔ limit ≠ 0 := by
  rw [sub_neg_eq_add, ← two_mul, mul_ne_zero_iff]
  exact and_iff_right two_ne_zero

theorem undisturbed_iff (pmax vmax tmax pDes vDes kp kd torque : Rat) :
    Undisturbed pmax vmax tmax pDes vDes kp kd torque ↔ WithinFields pmax vmax tmax pDes vDes kp kd torque := by
  have limits : (∀ s ∈ scales pmax vmax tmax, s.high - s.low ≠ 0) ↔ pmax ≠ 0 ∧ vmax ≠ 0 ∧ tmax ≠ 0 := by
    simp only [scales, List.forall_mem_cons, span_ne_zero]
    norm_num
  have fields : (mitFields (mitControlData pmax vmax tmax pDes vDes kp kd torque) =
      List.zipWith (fun s code => saturate s.bits code) (scales pmax vmax tmax)
        (mitCodes pmax vmax tmax pDes vDes kp kd torque)) ↔
      Scale.Holds ⟨-pmax, pmax, 16⟩ pDes 0 ∧
      Scale.Holds ⟨-vmax, vmax, 12⟩ vDes (spill (Scale.code ⟨0, 500, 12⟩ kp)) ∧
      Scale.Holds ⟨0, 500, 12⟩ kp 0 ∧
      Scale.Holds ⟨0, 5, 12⟩ kd (spill (Scale.code ⟨-tmax, tmax, 12⟩ torque)) ∧
      Scale.Holds ⟨-tmax, tmax, 12⟩ torque 0 := by
    simp only [mitFields_command, scales, mitCodes, List.zipWith_cons_cons, List.zipWith_nil_right, List.cons.injEq,
      and_true, ← Scale.held_eq_saturate_iff]
  constructor
  · intro undisturbed
    obtain ⟨position, velocity, stiffness, damping, strength⟩ := fields.mp undisturbed.fields
    exact ⟨limits.mp undisturbed.divides, undisturbed.converts, position, velocity, stiffness, damping, strength⟩
  · intro within
    have saturated := fields.mpr ⟨within.position, within.velocity, within.kp, within.kd, within.torque⟩
    refine ⟨limits.mpr within.limits, within.converts, saturated, ?_⟩
    rw [saturated]
    have side (s : Scale) (steps : s.levels ≠ 0) (x : Rat) : OnItsSide (s, x) (saturate s.bits (s.code x)) :=
      fun proper => Scale.value_saturated proper steps x
    refine .cons (side _ ?_ _) (.cons (side _ ?_ _) (.cons (side _ ?_ _) (.cons (side _ ?_ _)
      (.cons (side _ ?_ _) .nil))))
    all_goals exact Nat.succ_ne_zero _

theorem undisturbed_of_near {pmax vmax tmax pDes vDes kp kd torque : Rat} (position : 0 < pmax) (velocity : 0 < vmax)
    (strength : 0 < tmax)
    (near : List.Forall₂ (fun s x => s.low - s.step < x ∧ x < s.high + s.step) (scales pmax vmax tmax)
      [pDes, vDes, kp, kd, torque]) : Undisturbed pmax vmax tmax pDes vDes kp kd torque := by
  have proper := scales_proper position velocity strength
  have near := ((List.forall₂_and_left _ _).mpr ⟨proper, near⟩).imp
    fun s x inside => (Scale.near_iff inside.1.1 inside.1.2 x).mpr inside.2
  have codes := near.imp fun s x inside => And.intro ((s.code_nonneg_iff x).mpr inside.1) ((s.code_lt_iff x).mpr inside.2)
  unfold scales at near codes
  rcases near with _ | ⟨pos, _ | ⟨vel, _ | ⟨stiffness, _ | ⟨damping, _ | ⟨tor, _⟩⟩⟩⟩⟩
  rcases codes with _ | ⟨posCode, _ | ⟨velCode, _ | ⟨stiffnessCode, _ | ⟨dampingCode, _ | ⟨torCode, _⟩⟩⟩⟩⟩
  have alone (s : Scale) (x : Rat) (inside : s.Near x) : s.Holds x 0 := Or.inl ⟨inside, Nat.or_zero _⟩
  apply (undisturbed_iff pmax vmax tmax pDes vDes kp kd torque).mpr
  constructor
  case limits => exact ⟨position.ne', velocity.ne', strength.ne'⟩
  case converts =>
    simp only [mitCodes, scales, List.zipWith_cons_cons, List.zipWith_nil_right, List.forall_mem_cons]
    dsimp only at posCode velCode stiffnessCode dampingCode torCode
    refine ⟨by omega, by omega, by omega, by omega, by omega, by simp⟩
  case position => exact alone _ _ pos
  case velocity =>
    rw [spill_of_mem stiffnessCode.1 stiffnessCode.2]
    exact alone _ _ vel
  case kp => exact alone _ _ stiffness
  case kd =>
    rw [spill_of_mem torCode.1 torCode.2]
    exact alone _ _ damping
  case torque => exact alone _ _ tor

/-- A motor with the limits 12.5, 30 and 10. -/
def mitData : Config.ConfigurationParser where
  fields :=
    [("sn7_app_1_sdowrite_connection_lost_write_action", .uint8 0x01), ("sn7_app_1_sdowrite_control_period", .uint8 1),
     ("sn7_app_1_sdowrite_can_id", .uint16 1), ("sn7_app_1_sdowrite_master_id", .uint16 0),
     ("sn7_app_1_sdowrite_can_inst", .uint8 1), ("sn7_app_1_sdowrite_control_type", .uint8 1),
     ("sn7_app_1_sub_topic", .string "/ecat/cmd"), ("sn7_app_1_pub_topic", .string "/ecat/read"),
     ("sn7_app_1_conf_pmax", .float 0x41480000), ("sn7_app_1_conf_vmax", .float 0x41F00000),
     ("sn7_app_1_conf_tmax", .float 0x41200000)]

def mitTask : TaskWrapper where
  pdowriteOffset := 0
  pdoreadOffset := 0
  connectionLostReadAction := 0
  connectionLostWriteAction := 0x01
  body := .dmMotor 1 (floatValue 0x41480000) (floatValue 0x41F00000) (floatValue 0x41200000)

/-- At full speed backwards, a kp of 501 is decoded as almost 0, and the velocity target moves. -/
theorem mit_command_disturbed :
    ¬∀ data start (s s' : ArgStream) (task : TaskWrapper) controlType pmax vmax tmax,
      initSdo data start s = .ok (task, s') → task.body = .dmMotor controlType pmax vmax tmax →
        ∀ pDes vDes kp kd torque, Undisturbed pmax vmax tmax pDes vDes kp kd torque := by
  intro always
  have accepted : initSdo mitData "sn7_app_1_" ⟨List.replicate 8 0, 0⟩ =
      .ok (mitTask, ⟨[0x01, 1, 1, 0, 0, 0, 1, 1], 8⟩) := rfl
  have broken := (always _ _ _ _ _ _ _ _ _ accepted rfl 0 (-30) 501 0 0).fields
  exact absurd broken (by decide +kernel)

end EcatMaster.Tasks.DmMotor
