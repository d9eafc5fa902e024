import EcatMaster.Library.Runs
import EcatMaster.Library.Window

/-! A register in a shared buffer.

A window of a buffer that is also backed up is a register with a live and a saved
value. A store to the buffer stays out of the window, begins with it, or reaches into
it from the side; the register sees each of them as one operation on its own value.
-/

set_option autoImplicit false

namespace EcatMaster.Library

variable {α : Type}

/-- What a store from `off` on changes in the value of a window that begins at `start`. -/
def overlay (start off : Nat) (ys value : List α) : List α :=
  value.mapIdx fun k cell => if start + k < off then cell else ys[start + k - off]?.getD cell

theorem getElem?_overlay (start off : Nat) (ys value : List α) (k : Nat) :
    (overlay start off ys value)[k]? =
      value[k]?.map fun cell => if start + k < off then cell else ys[start + k - off]?.getD cell := by
  rw [overlay, List.getElem?_mapIdx]

theorem window_overwrite (xs ys : List α) (start off len : Nat) :
    window (overwrite xs off ys) start len = overlay start off ys (window xs start len) := by
  apply List.ext_getElem?
  intro k
  rw [getElem?_overlay, getElem?_window, getElem?_window]
  by_cases inside : k < len
  case neg => simp [inside]
  case pos =>
    simp only [inside, if_true, getElem?_overwrite]
    cases cell : xs[start + k]? with
    | none =>
      rw [if_neg fun within => absurd (List.getElem?_eq_none_iff.mp cell) (Nat.not_le.mpr within.2.2)]
      rfl
    | some x =>
      have bound := (List.getElem?_eq_some_iff.mp cell).1
      by_cases before : start + k < off
      · simp [before, Nat.not_le.mpr before]
      · by_cases within : start + k < off + ys.length
        · have present : start + k - off < ys.length := by omega
          simp [before, within, bound, Nat.not_lt.mp before, List.getElem?_eq_getElem present]
        · have absent : ys.length ≤ start + k - off := by omega
          simp [before, within, List.getElem?_eq_none absent]

theorem overlay_own (off : Nat) (ys value : List α) : overlay off off ys value = overlay 0 0 ys value := by
  have behind : ∀ k, ¬off + k < off := fun k => by omega
  simp [overlay, behind]

@[simp] theorem overlay_nil (start off : Nat) (value : List α) : overlay start off [] value = value := by
  apply List.ext_getElem?
  intro k
  rw [getElem?_overlay]
  cases value[k]? <;> simp

theorem take_overlay {ys value : List α} (fits : ys.length ≤ value.length) :
    (overlay 0 0 ys value).take ys.length = ys := by
  apply List.ext_getElem?
  intro k
  rw [List.getElem?_take, getElem?_overlay]
  by_cases inside : k < ys.length
  · have bound : k < value.length := by omega
    rw [if_pos inside, List.getElem?_eq_getElem inside, List.getElem?_eq_getElem bound]
    simp [List.getElem?_eq_getElem inside]
  · rw [if_neg inside, List.getElem?_eq_none (Nat.not_lt.mp inside)]

theorem window_take (xs : List α) {start len n : Nat} (inside : start + len ≤ n) :
    window (xs.take n) start len = window xs start len := by
  rw [window, window, List.drop_take, List.take_take, Nat.min_eq_left (by omega)]

structure Register (α : Type) where
  live : List α
  saved : List α
  deriving DecidableEq

namespace Register

inductive Operation (α : Type) where
  /-- A store that begins with the register. -/
  | store (bytes : List α)
  /-- A store to the start of the buffer, where the register begins at `start`. -/
  | spill (start : Nat) (bytes : List α)
  | clear (cell : α)
  | save
  | restore
  deriving DecidableEq

def apply (r : Register α) : Operation α → Register α
  | .store bytes => { r with live := overlay 0 0 bytes r.live }
  | .spill start bytes => { r with live := overlay start 0 bytes r.live }
  | .clear cell => { r with live := r.live.map fun _ => cell }
  | .save => { r with saved := r.live }
  | .restore => { r with live := r.saved }

def Operation.Unsaved : Operation α → Prop
  | .save => False
  | _ => True

theorem saved_unsaved (r : Register α) {ops : List (Operation α)} (unsaved : ∀ op ∈ ops, op.Unsaved) :
    (exec apply r ops).saved = r.saved := by
  induction ops generalizing r with
  | nil => rfl
  | cons op ops ih =>
    obtain ⟨here, others⟩ := List.forall_mem_cons.mp unsaved
    cases op with
    | save => exact here.elim
    | _ => exact ih _ others

end Register

end EcatMaster.Library
