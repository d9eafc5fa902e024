import Mathlib.Data.List.Induction
import EcatMaster.Library.Runs

/-! Stop-and-wait transfer of a list.

The sender offers item after item under its number, counted from 1, until the
receiver has sent back the number and the item. The channel may delay, repeat or
lose what is offered; the sender only compares.
-/

set_option autoImplicit false

namespace EcatMaster.Library

structure Sender where
  index : Nat
  done : Bool
  deriving DecidableEq

namespace Sender
variable {α : Type}

def start : Sender := ⟨1, false⟩

/-- The number and the item that the sender waits for. -/
def Awaits (items : List α) (s : Sender) (echo : Nat × α) : Prop :=
  echo.1 = s.index ∧ items[s.index - 1]? = some echo.2

instance [DecidableEq α] (items : List α) (s : Sender) (echo : Nat × α) : Decidable (s.Awaits items echo) :=
  inferInstanceAs (Decidable (_ ∧ _))

-- Any other echo is ignored, and the current item stays on offer.
def receive [DecidableEq α] (items : List α) (s : Sender) (echo : Nat × α) : Sender :=
  if s.Awaits items echo then
    if s.index = items.length then { s with done := true } else { s with index := s.index + 1 }
  else s

structure InRange (items : List α) (s : Sender) : Prop where
  low : 1 ≤ s.index
  high : s.index ≤ items.length
  last : s.done = true → s.index = items.length

theorem start_inRange {items : List α} (nonempty : 1 ≤ items.length) : start.InRange items :=
  ⟨Nat.le_refl 1, nonempty, fun done => absurd done (by decide)⟩

def frames (items : List α) : List (Nat × α) := items.mapIdx fun i item => (i + 1, item)

theorem frames_take_succ {items : List α} {k : Nat} {item : α} (found : items[k]? = some item) :
    (frames items).take (k + 1) = (frames items).take k ++ [(k + 1, item)] := by
  rw [List.take_add_one, frames, List.getElem?_mapIdx, found]
  rfl

variable [DecidableEq α]

theorem receive_inRange {items : List α} {s : Sender} (echo : Nat × α) (range : s.InRange items) :
    (s.receive items echo).InRange items := by
  obtain ⟨low, high, last⟩ := range
  unfold receive
  split
  · split
    case isTrue final => exact ⟨low, high, fun _ => final⟩
    case isFalse more =>
      refine ⟨Nat.le_succ_of_le low, by simp only; omega, fun done => ?_⟩
      exact absurd (last done) more
  · exact ⟨low, high, last⟩

theorem receive_index (items : List α) (s : Sender) (echo : Nat × α) :
    s.index ≤ (s.receive items echo).index ∧ (s.receive items echo).index ≤ s.index + 1 := by
  unfold receive
  split
  · split <;> simp
  · simp

theorem receive_done {items : List α} {s : Sender} (echo : Nat × α) (done : s.done = true) :
    (s.receive items echo).done = true := by
  unfold receive
  split
  · split
    · rfl
    · exact done
  · exact done

theorem exec_done {items : List α} {s : Sender} (echoes : List (Nat × α)) (done : s.done = true) :
    (exec (receive items) s echoes).done = true := by
  induction echoes generalizing s with
  | nil => exact done
  | cons echo echoes ih => exact ih (receive_done echo done)

-- The current item counts only at the end; before, it is offered but not confirmed.
def acknowledged (s : Sender) : Nat := if s.done then s.index else s.index - 1

/-- Everything acknowledged has been sent back, in the order of the numbers. -/
theorem acknowledged_sublist {items : List α} (nonempty : 1 ≤ items.length) (echoes : List (Nat × α)) :
    ((frames items).take (exec (receive items) start echoes).acknowledged).Sublist echoes := by
  induction echoes using List.reverseRecOn with
  | nil => exact List.nil_sublist []
  | append_singleton echoes echo ih =>
    have range : (exec (receive items) start echoes).InRange items :=
      exec_invariant (start_inRange nonempty) fun _ echo range => receive_inRange echo range
    rw [exec_append]
    simp only [exec]
    generalize exec (receive items) start echoes = s at ih range
    by_cases waited : s.Awaits items echo
    · cases done : s.done with
      | true =>
        -- The last item was acknowledged before; its repetition changes nothing.
        have same : (s.receive items echo).acknowledged = s.acknowledged := by
          simp [receive, waited, range.last done, acknowledged, done]
        rw [same]
        exact ih.trans (List.sublist_append_left _ _)
      | false =>
        have one : (s.receive items echo).acknowledged = s.acknowledged + 1 := by
          have low := range.low
          unfold receive acknowledged
          by_cases final : s.index = items.length
          · simp [waited, final, done]
            omega
          · simp [waited, final, done]
            omega
        have count : s.acknowledged = s.index - 1 := by simp [acknowledged, done]
        have number : s.index - 1 + 1 = echo.1 := by
          rw [waited.1]
          exact Nat.sub_add_cancel range.low
        rw [one, count, frames_take_succ waited.2, number]
        rw [count] at ih
        exact ih.append (List.Sublist.refl [echo])
    · rw [show s.receive items echo = s from if_neg waited]
      exact ih.trans (List.sublist_append_left _ _)

/-- The receiver sends back at once what the sender waits for. -/
def Prompt (items : List α) (s : Sender) (echo : Nat × α) : Prop := s.done = false → s.Awaits items echo

theorem exec_prompt {items : List α} {s : Sender} (range : s.InRange items) (waiting : s.done = false)
    {echoes : List (Nat × α)} (prompt : Along (receive items) (Prompt items) s echoes) :
    (exec (receive items) s echoes).done = true ↔ items.length + 1 ≤ s.index + echoes.length := by
  -- Each echo moves the index by one, so the sum on the right stays the same until the end.
  induction echoes generalizing s with
  | nil =>
    have high := range.high
    simp only [exec, waiting, List.length_nil]
    constructor
    · intro done
      cases done
    · intro enough
      omega
  | cons echo echoes ih =>
    obtain ⟨here, later⟩ := prompt
    have waited := here waiting
    simp only [exec, List.length_cons]
    by_cases final : s.index = items.length
    · have done : (s.receive items echo).done = true := by simp [receive, waited, final]
      simp only [exec_done echoes done, true_iff]
      omega
    · have moved : s.receive items echo = { s with index := s.index + 1 } := by
        simp [receive, waited, final]
      rw [ih (receive_inRange echo range) (by rw [moved]; exact waiting) later, moved]
      simp only
      omega

theorem exec_prompt_start {items : List α} (nonempty : 1 ≤ items.length) {first : Nat × α}
    {echoes : List (Nat × α)} (idle : first.1 = 0)
    (prompt : Along (receive items) (Prompt items) start echoes) :
    (exec (receive items) start (first :: echoes)).done = true ↔
      items.length + 1 ≤ (first :: echoes).length := by
  have ignored : start.receive items first = start :=
    if_neg fun waited => absurd (idle.symm.trans waited.1) (by decide)
  rw [exec, ignored, exec_prompt (start_inRange nonempty) rfl prompt, List.length_cons]
  simp only [start]
  omega

end Sender

end EcatMaster.Library
