import EcatMaster.Library.Window

/-! Packed lists.

Of a list of items only some are present, and the parts of these lie one after the
other. With parts of one width the place of a part is the number of present items
before it.
-/

set_option autoImplicit false

namespace EcatMaster.Library

variable {I B : Type}

/-- The parts of the items that are present, one after the other. -/
def packed (present : I → Bool) (part : I → List B) (items : List I) : List B :=
  (items.filter present).flatMap part

section
variable {present : I → Bool} {part : I → List B}

theorem packed_cons (i : I) (items : List I) :
    packed present part (i :: items) = (if present i then part i else []) ++ packed present part items := by
  unfold packed
  split
  case isTrue here => rw [List.filter_cons_of_pos here, List.flatMap_cons]
  case isFalse absent => rw [List.filter_cons_of_neg (by simpa using absent), List.nil_append]

theorem packed_append (before after : List I) :
    packed present part (before ++ after) = packed present part before ++ packed present part after := by
  rw [packed, List.filter_append, List.flatMap_append]
  rfl

/-- A present item has its part after those of the present items before it. -/
theorem packed_slot {i : I} (here : present i = true) (before after : List I) :
    packed present part (before ++ i :: after) =
      packed present part before ++ (part i ++ packed present part after) := by
  rw [packed_append, packed_cons, if_pos here]

theorem length_packed {width : Nat} (each : ∀ i, (part i).length = width) (items : List I) :
    (packed present part items).length = width * (items.filter present).length := by
  induction items with
  | nil => rfl
  | cons i items ih =>
    rw [packed_cons, List.length_append, ih]
    by_cases here : present i = true
    · rw [if_pos here, each, List.filter_cons_of_pos here, List.length_cons, Nat.mul_succ, Nat.add_comm]
    · rw [if_neg here, List.filter_cons_of_neg (by simpa using here), List.length_nil, Nat.zero_add]

theorem packed_of_absent {items : List I} (absent : ∀ i ∈ items, present i = false → part i = []) :
    packed present part items = items.flatMap part := by
  induction items with
  | nil => rfl
  | cons i items ih =>
    obtain ⟨here, others⟩ := List.forall_mem_cons.mp absent
    rw [packed_cons, ih others, List.flatMap_cons]
    congr 1
    split
    case isTrue => rfl
    case isFalse missing => exact (here (by simpa using missing)).symm

variable {xs : List B} {off width : Nat} {i : I} {before after : List I}

/-- Where a packed list is stored, each part that fits is found in its place. -/
theorem window_overwrite_packed (each : ∀ i, (part i).length = width) (here : present i = true)
    (inside : off + width * (before.filter present).length + width ≤ xs.length) :
    window (overwrite xs off (packed present part (before ++ i :: after)))
      (off + width * (before.filter present).length) width = part i := by
  have place : off + (packed present part before).length = off + width * (before.filter present).length := by
    rw [length_packed each]
  rw [packed_slot here, overwrite_append, overwrite_append, place, each]
  rw [window_overwrite_apart]
  · have same := window_overwrite_same (overwrite xs off (packed present part before)) (part i)
      (off + width * (before.filter present).length) (Or.inr (by rwa [length_overwrite, each]))
    rwa [each] at same
  · unfold Apart
    omega

theorem window_packed (each : ∀ i, (part i).length = width) (here : present i = true)
    (holds : window xs off (packed present part (before ++ i :: after)).length =
      packed present part (before ++ i :: after)) :
    window xs (off + width * (before.filter present).length) (part i).length = part i := by
  rw [packed_slot here] at holds
  have later := window_append_left (window_append_right holds)
  rwa [length_packed each] at later

end

end EcatMaster.Library
