import Mathlib.Data.List.Basic
import Mathlib.Tactic.SplitIfs

/-! Windows of a list.

A list stands for a block of memory; `overwrite` is the loop that stores one
element after the other from a position on, and `window` reads such a run back.
An element that would land past the end of the block is dropped.
-/

set_option autoImplicit false

namespace EcatMaster.Library

variable {α β : Type}

def overwrite (xs : List α) (off : Nat) : List α → List α
  | [] => xs
  | y :: ys => overwrite (xs.set off y) (off + 1) ys

def window (xs : List α) (off len : Nat) : List α := (xs.drop off).take len

/-- No position lies in both windows. -/
def Apart (off₁ len₁ off₂ len₂ : Nat) : Prop :=
  len₁ = 0 ∨ len₂ = 0 ∨ off₁ + len₁ ≤ off₂ ∨ off₂ + len₂ ≤ off₁

instance (off₁ len₁ off₂ len₂ : Nat) : Decidable (Apart off₁ len₁ off₂ len₂) :=
  inferInstanceAs (Decidable (_ ∨ _ ∨ _ ∨ _))

/-- The window lies in a block of this length; an empty one lies in every block. -/
def Inside (off len total : Nat) : Prop := len = 0 ∨ off + len ≤ total

instance (off len total : Nat) : Decidable (Inside off len total) := inferInstanceAs (Decidable (_ ∨ _))

theorem Apart.symm {off₁ len₁ off₂ len₂ : Nat} (apart : Apart off₁ len₁ off₂ len₂) :
    Apart off₂ len₂ off₁ len₁ := by
  unfold Apart at *
  omega

@[simp] theorem overwrite_nil (xs : List α) (off : Nat) : overwrite xs off [] = xs := rfl

@[simp] theorem length_overwrite (xs ys : List α) (off : Nat) :
    (overwrite xs off ys).length = xs.length := by
  induction ys generalizing xs off with
  | nil => rfl
  | cons y ys ih => simp [overwrite, ih]

theorem overwrite_append (xs ys zs : List α) (off : Nat) :
    overwrite xs off (ys ++ zs) = overwrite (overwrite xs off ys) (off + ys.length) zs := by
  induction ys generalizing xs off with
  | nil => rfl
  | cons y ys ih =>
    simp only [List.cons_append, overwrite, ih, List.length_cons]
    congr 1
    omega

theorem map_overwrite (f : α → β) (xs ys : List α) (off : Nat) :
    (overwrite xs off ys).map f = overwrite (xs.map f) off (ys.map f) := by
  induction ys generalizing xs off with
  | nil => rfl
  | cons y ys ih => simp [overwrite, ih, List.map_set]

theorem take_overwrite (xs ys : List α) (off n : Nat) :
    (overwrite xs off ys).take n = overwrite (xs.take n) off ys := by
  induction ys generalizing xs off with
  | nil => rfl
  | cons y ys ih => simp [overwrite, ih, List.take_set]

theorem getElem?_overwrite_outside (xs ys : List α) (off i : Nat)
    (outside : i < off ∨ off + ys.length ≤ i) : (overwrite xs off ys)[i]? = xs[i]? := by
  induction ys generalizing xs off with
  | nil => rfl
  | cons y ys ih =>
    simp only [List.length_cons] at outside
    rw [overwrite, ih _ _ (by omega), List.getElem?_set_ne (by omega)]

theorem getElem?_overwrite_inside (xs ys : List α) (off i : Nat)
    (low : off ≤ i) (high : i < off + ys.length) (bound : i < xs.length) :
    (overwrite xs off ys)[i]? = ys[i - off]? := by
  induction ys generalizing xs off with
  | nil => simp only [List.length_nil] at high; omega
  | cons y ys ih =>
    simp only [List.length_cons] at high
    rw [overwrite]
    by_cases first : i = off
    · subst first
      rw [getElem?_overwrite_outside _ _ _ _ (Or.inl (Nat.lt_succ_self i)),
        List.getElem?_set_self bound, Nat.sub_self, List.getElem?_cons_zero]
    · rw [ih _ _ (by omega) (by omega) (by simpa using bound),
        show i - off = (i - (off + 1)) + 1 by omega, List.getElem?_cons_succ]

theorem getElem?_overwrite (xs ys : List α) (off i : Nat) :
    (overwrite xs off ys)[i]? =
      if off ≤ i ∧ i < off + ys.length ∧ i < xs.length then ys[i - off]? else xs[i]? := by
  split_ifs with inside
  · exact getElem?_overwrite_inside xs ys off i inside.1 inside.2.1 inside.2.2
  · by_cases bound : i < xs.length
    · exact getElem?_overwrite_outside xs ys off i (by omega)
    · rw [List.getElem?_eq_none (by simpa using bound), List.getElem?_eq_none (by simpa using bound)]

theorem overwrite_overwrite (xs ys zs : List α) (off : Nat) (same : ys.length = zs.length) :
    overwrite (overwrite xs off ys) off zs = overwrite xs off zs := by
  apply List.ext_getElem?
  intro i
  simp only [getElem?_overwrite, length_overwrite]
  split_ifs <;> first | rfl | omega

theorem overwrite_comm (xs ys zs : List α) (off₁ off₂ : Nat) (apart : Apart off₁ ys.length off₂ zs.length) :
    overwrite (overwrite xs off₁ ys) off₂ zs = overwrite (overwrite xs off₂ zs) off₁ ys := by
  apply List.ext_getElem?
  intro i
  unfold Apart at apart
  simp only [getElem?_overwrite, length_overwrite]
  split_ifs <;> first | rfl | omega

theorem overwrite_all (xs ys : List α) (covers : xs.length ≤ ys.length) :
    overwrite xs 0 ys = ys.take xs.length := by
  apply List.ext_getElem?
  intro i
  simp only [getElem?_overwrite, List.getElem?_take, Nat.sub_zero]
  split_ifs with inside bound bound
  · rfl
  · omega
  · omega
  · exact List.getElem?_eq_none (by omega)

theorem overwrite_front (xs ys : List α) (fits : ys.length ≤ xs.length) :
    overwrite xs 0 ys = ys ++ xs.drop ys.length := by
  apply List.ext_getElem?
  intro i
  rw [getElem?_overwrite, List.getElem?_append, List.getElem?_drop]
  split_ifs with inside
  · rw [Nat.sub_zero]
  · omega
  · omega
  · congr 1
    omega

theorem getElem?_window (xs : List α) (off len i : Nat) :
    (window xs off len)[i]? = if i < len then xs[off + i]? else none := by
  simp [window, List.getElem?_take, List.getElem?_drop]

theorem window_overwrite_same (xs ys : List α) (off : Nat) (inside : Inside off ys.length xs.length) :
    window (overwrite xs off ys) off ys.length = ys := by
  apply List.ext_getElem?
  intro i
  unfold Inside at inside
  rw [getElem?_window]
  split_ifs with bound
  · rw [getElem?_overwrite_inside _ _ _ _ (by omega) (by omega) (by omega), Nat.add_sub_cancel_left]
  · exact (List.getElem?_eq_none (by omega)).symm

theorem window_overwrite_apart (xs ys : List α) (off₁ off₂ len : Nat)
    (apart : Apart off₁ ys.length off₂ len) :
    window (overwrite xs off₁ ys) off₂ len = window xs off₂ len := by
  apply List.ext_getElem?
  intro i
  unfold Apart at apart
  rw [getElem?_window, getElem?_window]
  split_ifs with bound
  · exact getElem?_overwrite_outside _ _ _ _ (by omega)
  · rfl

theorem mem_overwrite {xs ys : List α} {off : Nat} {x : α} (member : x ∈ overwrite xs off ys) :
    x ∈ xs ∨ x ∈ ys := by
  induction ys generalizing xs off with
  | nil => exact Or.inl member
  | cons y ys ih =>
    rcases ih member with stored | later
    · rcases List.mem_or_eq_of_mem_set stored with old | same
      · exact Or.inl old
      · exact Or.inr (by simp [same])
    · exact Or.inr (List.mem_cons_of_mem y later)

theorem window_prefix (xs : List α) (off : Nat) {len longer : Nat} (inside : len ≤ longer) :
    (window xs off longer).take len = window xs off len := by
  simp only [window, List.take_take]
  rw [Nat.min_eq_left inside]

theorem window_append_left {xs ys zs : List α} {off : Nat}
    (holds : window xs off (ys ++ zs).length = ys ++ zs) : window xs off ys.length = ys := by
  rw [← window_prefix xs off (show ys.length ≤ (ys ++ zs).length by simp), holds, List.take_left]

theorem window_append_right {xs ys zs : List α} {off : Nat}
    (holds : window xs off (ys ++ zs).length = ys ++ zs) : window xs (off + ys.length) zs.length = zs := by
  have dropped := congrArg (List.drop ys.length) holds
  simpa [window, List.drop_take] using dropped

/-- A store that agrees with the content of a window, as far as both go, keeps it. -/
theorem window_overwrite_agrees (xs ys zs : List α) (off : Nat) (holds : window xs off zs.length = zs)
    (agrees : ys.take zs.length = zs.take ys.length) : window (overwrite xs off ys) off zs.length = zs := by
  apply List.ext_getElem?
  intro i
  have old := congrArg (fun content => content[i]?) holds
  have new := congrArg (fun content => content[i]?) agrees
  simp only [getElem?_window, List.getElem?_take] at old new ⊢
  split
  case isTrue inside =>
    rw [if_pos inside] at old new
    rw [getElem?_overwrite]
    split
    case isTrue stored =>
      rw [if_pos (by omega)] at new
      rw [Nat.add_sub_cancel_left]
      exact new
    case isFalse => exact old
  case isFalse outside => exact (List.getElem?_eq_none (by omega)).symm

/-- A store whose elements all lack a property has stored nothing into a block that has it
everywhere. -/
theorem overwrite_untouched {p : α → Prop} {xs ys : List α} {off : Nat} (others : ∀ y ∈ ys, ¬p y)
    (all : ∀ x ∈ overwrite xs off ys, p x) : overwrite xs off ys = xs := by
  apply List.ext_getElem?
  intro i
  have read := getElem?_overwrite xs ys off i
  rw [read]
  split_ifs with inside
  · have bound : i - off < ys.length := by omega
    rw [if_pos inside, List.getElem?_eq_getElem bound] at read
    -- An element that was stored here is one of the result, which has none of its kind.
    exact absurd (all _ (List.mem_of_getElem? read)) (others _ (List.getElem_mem bound))
  · rfl

def overwriteAll (xs : List α) (writes : List (Nat × List α)) : List α :=
  writes.foldl (fun xs write => overwrite xs write.1 write.2) xs

@[simp] theorem overwriteAll_nil (xs : List α) : overwriteAll xs [] = xs := rfl

@[simp] theorem overwriteAll_cons (xs : List α) (write : Nat × List α) (writes : List (Nat × List α)) :
    overwriteAll xs (write :: writes) = overwriteAll (overwrite xs write.1 write.2) writes := rfl

theorem overwriteAll_append (xs : List α) (first later : List (Nat × List α)) :
    overwriteAll xs (first ++ later) = overwriteAll (overwriteAll xs first) later :=
  List.foldl_append

@[simp] theorem length_overwriteAll (xs : List α) (writes : List (Nat × List α)) :
    (overwriteAll xs writes).length = xs.length := by
  induction writes generalizing xs with
  | nil => rfl
  | cons write writes ih => rw [overwriteAll_cons, ih, length_overwrite]

theorem map_overwriteAll (f : α → β) (xs : List α) (writes : List (Nat × List α)) :
    (overwriteAll xs writes).map f =
      overwriteAll (xs.map f) (writes.map fun write => (write.1, write.2.map f)) := by
  induction writes generalizing xs with
  | nil => rfl
  | cons write writes ih => rw [overwriteAll_cons, ih, map_overwrite, List.map_cons, overwriteAll_cons]

theorem take_overwriteAll (xs : List α) (writes : List (Nat × List α)) (n : Nat) :
    (overwriteAll xs writes).take n = overwriteAll (xs.take n) writes := by
  induction writes generalizing xs with
  | nil => rfl
  | cons write writes ih => rw [overwriteAll_cons, ih, take_overwrite, overwriteAll_cons]

theorem mem_overwriteAll {xs : List α} {writes : List (Nat × List α)} {x : α}
    (member : x ∈ overwriteAll xs writes) : x ∈ xs ∨ ∃ write ∈ writes, x ∈ write.2 := by
  induction writes generalizing xs with
  | nil => exact Or.inl member
  | cons write writes ih =>
    rcases ih member with stored | ⟨later, within, held⟩
    · rcases mem_overwrite stored with old | written
      · exact Or.inl old
      · exact Or.inr ⟨write, List.mem_cons_self, written⟩
    · exact Or.inr ⟨later, List.mem_cons_of_mem write within, held⟩

theorem overwriteAll_untouched {p : α → Prop} {xs : List α} {writes : List (Nat × List α)}
    (others : ∀ write ∈ writes, ∀ y ∈ write.2, ¬p y) (all : ∀ x ∈ overwriteAll xs writes, p x) :
    overwriteAll xs writes = xs := by
  induction writes generalizing xs with
  | nil => rfl
  | cons write writes ih =>
    have later := ih (fun w within => others w (List.mem_cons_of_mem write within)) all
    rw [overwriteAll_cons] at all ⊢
    rw [later] at all ⊢
    exact overwrite_untouched (others write List.mem_cons_self) all

theorem window_overwriteAll_apart (xs : List α) (writes : List (Nat × List α)) (off len : Nat)
    (apart : ∀ write ∈ writes, Apart write.1 write.2.length off len) :
    window (overwriteAll xs writes) off len = window xs off len := by
  induction writes generalizing xs with
  | nil => rfl
  | cons write writes ih =>
    rw [overwriteAll_cons, ih _ fun later within => apart later (List.mem_cons_of_mem write within)]
    exact window_overwrite_apart _ _ _ _ _ (apart write List.mem_cons_self)

theorem getElem?_overwriteAll_outside (xs : List α) (writes : List (Nat × List α)) (i : Nat)
    (outside : ∀ write ∈ writes, i < write.1 ∨ write.1 + write.2.length ≤ i) :
    (overwriteAll xs writes)[i]? = xs[i]? := by
  induction writes generalizing xs with
  | nil => rfl
  | cons write writes ih =>
    rw [overwriteAll_cons, ih _ fun later within => outside later (List.mem_cons_of_mem write within)]
    exact getElem?_overwrite_outside _ _ _ _ (outside write List.mem_cons_self)

theorem window_overwrite_congr {xs xs' : List α} (ys : List α) {off len : Nat}
    (same : window xs off len = window xs' off len) :
    window (overwrite xs off ys) off len = window (overwrite xs' off ys) off len := by
  apply List.ext_getElem?
  intro i
  have cell := congrArg (fun content => content[i]?) same
  simp only [getElem?_window] at cell ⊢
  split_ifs at cell ⊢ with inside
  · have bound : off + i < xs.length ↔ off + i < xs'.length := by
      rw [← not_iff_not, Nat.not_lt, Nat.not_lt, ← List.getElem?_eq_none_iff, cell, List.getElem?_eq_none_iff]
    simp only [getElem?_overwrite, bound, cell]
  · rfl

/-- Of a sequence of stores a window keeps the one that is not apart from it. -/
theorem window_overwriteAll_member (xs : List α) {before after : List (Nat × List α)} {off len : Nat} (ys : List α)
    (others : ∀ write ∈ before ++ after, Apart write.1 write.2.length off len) :
    window (overwriteAll xs (before ++ (off, ys) :: after)) off len = window (overwrite xs off ys) off len := by
  rw [overwriteAll_append, overwriteAll_cons,
    window_overwriteAll_apart _ _ _ _ fun write within => others write (List.mem_append_right _ within)]
  apply window_overwrite_congr
  exact window_overwriteAll_apart _ _ _ _ fun write within => others write (List.mem_append_left _ within)

/-- The marks are set at exactly the entries without the property. -/
def Marks (p : α → Prop) (marks : Nat → Bool) (xs : List α) : Prop := ∀ i x, xs[i]? = some x → (p x ↔ marks i = false)

/-- The marks that are left after these stores. -/
def covered (writes : List (Nat × List α)) (marks : Nat → Bool) (i : Nat) : Bool :=
  marks i && !writes.any fun write => write.1 ≤ i && i < write.1 + write.2.length

theorem marks_all {p : α → Prop} {xs : List α} {set : Bool} (all : ∀ x ∈ xs, p x ↔ set = false) :
    Marks p (fun _ => set) xs :=
  fun _ x found => all x (List.mem_of_getElem? found)

theorem Marks.overwriteAll {p : α → Prop} {marks : Nat → Bool} {xs : List α} {writes : List (Nat × List α)}
    (holds : Marks p marks xs) (stores : ∀ write ∈ writes, ∀ x ∈ write.2, p x) :
    Marks p (covered writes marks) (overwriteAll xs writes) := by
  induction writes generalizing xs marks with
  | nil =>
    intro i x found
    simpa [covered] using holds i x found
  | cons write writes ih =>
    have first : Marks p (covered [write] marks) (overwrite xs write.1 write.2) := by
      intro i x found
      rw [getElem?_overwrite] at found
      split_ifs at found with inside
      · have stored := stores write List.mem_cons_self x (List.mem_of_getElem? found)
        simp [covered, inside, stored]
      · have bound := (List.getElem?_eq_some_iff.mp found).1
        have beside : ¬(write.1 ≤ i ∧ i < write.1 + write.2.length) := fun within => inside ⟨within.1, within.2, bound⟩
        rw [holds i x found]
        simp [covered, beside]
    have later := ih first fun other within => stores other (List.mem_cons_of_mem write within)
    have joined : covered writes (covered [write] marks) = covered (write :: writes) marks := by
      funext i
      simp [covered, Bool.and_assoc]
    rwa [joined] at later

end EcatMaster.Library
