import Mathlib.Data.List.Forall2
import Mathlib.Data.Nat.Bitwise
import Mathlib.Data.Set.Function

/-! Bit fields of a number.

A list of widths cuts a number into consecutive fields, the lowest bits first. The
numbers below two to the sum of the widths and the lists of fields that fit the
widths determine each other. Bytes are fields of width eight, so a list of them is
one stream of bits, which other widths cut in another way.
-/

set_option autoImplicit false

namespace EcatMaster.Library

/-- `width` bits from bit `low` on. -/
def bitField (n low width : Nat) : Nat := (n >>> low) % 2 ^ width

theorem testBit_bitField (n low width i : Nat) :
    (bitField n low width).testBit i = (decide (i < width) && n.testBit (low + i)) := by
  rw [bitField, Nat.testBit_mod_two_pow, Nat.testBit_shiftRight]

/-- The fields of these widths, one after the other. -/
def bitFields : List Nat → Nat → List Nat
  | [], _ => []
  | width :: widths, n => n % 2 ^ width :: bitFields widths (n >>> width)

def joinFields : List Nat → List Nat → Nat
  | width :: widths, value :: values => 2 ^ width * joinFields widths values + value
  | _, _ => 0

/-- There is one value for each field, and it fits. -/
abbrev FieldsFit (widths values : List Nat) : Prop :=
  List.Forall₂ (fun width value => value < 2 ^ width) widths values

theorem bitFields_fit (widths : List Nat) (n : Nat) : FieldsFit widths (bitFields widths n) := by
  induction widths generalizing n with
  | nil => exact .nil
  | cons width widths ih => exact .cons (Nat.mod_lt _ (Nat.two_pow_pos width)) (ih _)

theorem joinFields_lt {widths values : List Nat} (fit : FieldsFit widths values) :
    joinFields widths values < 2 ^ widths.sum := by
  induction fit with
  | nil => exact Nat.one_pos
  | @cons width value widths values here fit ih =>
    rw [joinFields, List.sum_cons, Nat.pow_add]
    calc 2 ^ width * joinFields widths values + value
        < 2 ^ width * joinFields widths values + 2 ^ width := Nat.add_lt_add_left here _
      _ = 2 ^ width * (joinFields widths values + 1) := (Nat.mul_succ _ _).symm
      _ ≤ 2 ^ width * 2 ^ widths.sum := Nat.mul_le_mul_left _ ih

theorem joinFields_bitFields (widths : List Nat) (n : Nat) :
    joinFields widths (bitFields widths n) = n % 2 ^ widths.sum := by
  induction widths generalizing n with
  | nil => exact (Nat.mod_one n).symm
  | cons width widths ih =>
    rw [bitFields, joinFields, ih, List.sum_cons, Nat.pow_add, Nat.mod_mul, Nat.shiftRight_eq_div_pow,
      Nat.add_comm]

theorem bitFields_joinFields {widths values : List Nat} (fit : FieldsFit widths values) :
    bitFields widths (joinFields widths values) = values := by
  induction fit with
  | nil => rfl
  | @cons width value widths values here fit ih =>
    have low : (2 ^ width * joinFields widths values + value) % 2 ^ width = value := by
      rw [Nat.mul_add_mod, Nat.mod_eq_of_lt here]
    have high : (2 ^ width * joinFields widths values + value) >>> width = joinFields widths values := by
      rw [Nat.shiftRight_eq_div_pow, Nat.mul_add_div (Nat.two_pow_pos width), Nat.div_eq_of_lt here, Nat.add_zero]
    rw [joinFields, bitFields, low, high, ih]

theorem bitFields_eq_iff (widths : List Nat) (m n : Nat) :
    bitFields widths m = bitFields widths n ↔ m % 2 ^ widths.sum = n % 2 ^ widths.sum := by
  constructor
  · intro same
    rw [← joinFields_bitFields, same, joinFields_bitFields]
  · intro same
    rw [← joinFields_bitFields widths m, ← joinFields_bitFields widths n] at same
    rw [← bitFields_joinFields (bitFields_fit widths m), same, bitFields_joinFields (bitFields_fit widths n)]

theorem bitFields_bijOn (widths : List Nat) :
    Set.BijOn (bitFields widths) {n | n < 2 ^ widths.sum} {values | FieldsFit widths values} := by
  refine ⟨fun n _ => bitFields_fit widths n, ?_, ?_⟩
  · intro m below n below' same
    have covered := (bitFields_eq_iff widths m n).mp same
    rwa [Nat.mod_eq_of_lt below, Nat.mod_eq_of_lt below'] at covered
  · intro values fit
    exact ⟨joinFields widths values, joinFields_lt fit, bitFields_joinFields fit⟩

theorem fieldsFit_replicate (count width : Nat) (values : List Nat) :
    FieldsFit (List.replicate count width) values ↔ values.length = count ∧ ∀ value ∈ values, value < 2 ^ width := by
  induction count generalizing values with
  | zero =>
    constructor
    · rintro ⟨⟩
      exact ⟨rfl, nofun⟩
    · rintro ⟨none, _⟩
      rw [List.length_eq_zero_iff.mp none]
      exact .nil
  | succ count ih =>
    cases values with
    | nil => exact ⟨nofun, nofun⟩
    | cons value values =>
      have split : FieldsFit (width :: List.replicate count width) (value :: values) ↔
          value < 2 ^ width ∧ FieldsFit (List.replicate count width) values := List.forall₂_cons
      rw [List.replicate_succ, split, ih, List.length_cons, List.forall_mem_cons, Nat.add_right_cancel_iff]
      exact and_left_comm

/-- The fields of these widths from bit `low` on, each by its place. -/
def bitFieldsFrom : Nat → List Nat → Nat → List Nat
  | _, [], _ => []
  | low, width :: widths, n => bitField n low width :: bitFieldsFrom (low + width) widths n

theorem bitFields_shiftRight (widths : List Nat) (n low : Nat) :
    bitFields widths (n >>> low) = bitFieldsFrom low widths n := by
  induction widths generalizing low with
  | nil => rfl
  | cons width widths ih => rw [bitFields, bitFieldsFrom, ← Nat.shiftRight_add, ih, bitField]

theorem bitFields_eq_from (widths : List Nat) (n : Nat) : bitFields widths n = bitFieldsFrom 0 widths n :=
  bitFields_shiftRight widths n 0

theorem bitField_one (n low : Nat) : bitField n low 1 = (n.testBit low).toNat := by
  rw [bitField, Nat.toNat_testBit, Nat.shiftRight_eq_div_pow, Nat.pow_one]

theorem bitFieldsFrom_replicate (low count width n : Nat) :
    bitFieldsFrom low (List.replicate count width) n =
      (List.range count).map fun i => bitField n (low + width * i) width := by
  induction count generalizing low with
  | zero => rfl
  | succ count ih =>
    rw [List.replicate_succ, bitFieldsFrom, ih, List.range_succ_eq_map, List.map_cons, List.map_map]
    congr 1
    apply List.map_congr_left
    intro i _
    rw [Function.comp, Nat.mul_succ, Nat.add_comm (width * i), Nat.add_assoc]

/-- Fields of one width: the place of a field is the width times its index. -/
theorem bitFields_replicate (count width n : Nat) :
    bitFields (List.replicate count width) n = (List.range count).map fun i => bitField n (width * i) width := by
  rw [bitFields_eq_from, bitFieldsFrom_replicate]
  simp only [Nat.zero_add]

/-- Bit `j` of byte `b` is bit `8 * b + j` of the stream. -/
def streamOf : List UInt8 → Nat
  | [] => 0
  | byte :: bytes => 2 ^ 8 * streamOf bytes + byte.toNat

theorem streamOf_eq (bytes : List UInt8) :
    streamOf bytes = joinFields (List.replicate bytes.length 8) (bytes.map UInt8.toNat) := by
  induction bytes with
  | nil => rfl
  | cons byte bytes ih =>
    rw [streamOf, ih]
    rfl

theorem bytes_fit (bytes : List UInt8) :
    FieldsFit (List.replicate bytes.length 8) (bytes.map UInt8.toNat) := by
  induction bytes with
  | nil => exact .nil
  | cons byte bytes ih => exact .cons byte.toNat_lt ih

theorem testBit_streamOf (bytes : List UInt8) (i : Nat) :
    (streamOf bytes).testBit i = (bytes[i / 8]?.getD 0).toNat.testBit (i % 8) := by
  induction bytes generalizing i with
  | nil => simp [streamOf]
  | cons byte bytes ih =>
    rw [streamOf, Nat.testBit_two_pow_mul_add _ byte.toNat_lt]
    by_cases here : i < 8
    · rw [if_pos here, Nat.div_eq_of_lt here, Nat.mod_eq_of_lt here]
      rfl
    · have later : i / 8 = (i - 8) / 8 + 1 := by omega
      have place : i % 8 = (i - 8) % 8 := by omega
      rw [if_neg here, ih, later, place, List.getElem?_cons_succ]

def bytesOf : Nat → Nat → List UInt8
  | 0, _ => []
  | len + 1, n => UInt8.ofNat n :: bytesOf len (n >>> 8)

theorem length_bytesOf (len n : Nat) : (bytesOf len n).length = len := by
  induction len generalizing n with
  | zero => rfl
  | succ len ih => exact congrArg Nat.succ (ih _)

theorem map_bytesOf (len n : Nat) : (bytesOf len n).map UInt8.toNat = bitFields (List.replicate len 8) n := by
  induction len generalizing n with
  | zero => rfl
  | succ len ih => rw [bytesOf, List.map_cons, UInt8.toNat_ofNat', ih, List.replicate_succ, bitFields]

theorem streamOf_bytesOf (len n : Nat) : streamOf (bytesOf len n) = n % 2 ^ (List.replicate len 8).sum := by
  rw [streamOf_eq, length_bytesOf, map_bytesOf, joinFields_bitFields]

theorem streamOf_bijOn (len : Nat) :
    Set.BijOn streamOf {bytes | bytes.length = len} {n | n < 2 ^ (List.replicate len 8).sum} := by
  refine ⟨?_, ?_, ?_⟩
  · rintro bytes rfl
    change streamOf bytes < _
    rw [streamOf_eq]
    exact joinFields_lt (bytes_fit bytes)
  · rintro bytes rfl bytes' sized same
    have sized : bytes'.length = bytes.length := sized
    have cut := congrArg (bitFields (List.replicate bytes.length 8)) same
    rw [streamOf_eq, bitFields_joinFields (bytes_fit bytes), streamOf_eq, ← sized,
      bitFields_joinFields (bytes_fit bytes')] at cut
    exact (List.map_inj_right fun _ _ => UInt8.toNat_inj.mp).mp cut
  · intro n below
    refine ⟨bytesOf len n, length_bytesOf len n, ?_⟩
    rw [streamOf_bytesOf, Nat.mod_eq_of_lt below]

end EcatMaster.Library
