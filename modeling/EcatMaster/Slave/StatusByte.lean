import EcatMaster.Slave.Equations

/-! The status byte of the output frames.

One byte is the command code of the master and the counter that the latency
measurement runs through the slave. It is written by `init`, by the handshake
and by `process_pdo`.
-/

set_option autoImplicit false

namespace EcatMaster.Slave
open Library Config Tasks

variable {β : Type} [Cell β]

namespace SlaveDevice

/-- The devices of a program that has called nothing but `init` and `init_task_list`. -/
inductive Started (data : ConfigurationParser) : SlaveDevice β → Prop where
  | new : Started data new
  | init {d : SlaveDevice β} (call : InitCall) : Started data d → Started data (d.init data call).2
  | initTaskList {d d' : SlaveDevice β} {done : Bool} :
      Started data d → initTaskList data d = .ok (done, d') → Started data d'

/-- Outside the two command codes the byte stays in the range of the counter. -/
def StatusRange (d : SlaveDevice β) : Prop :=
  d.masterStatus = 0 ∧ d.isEcatConfDone = false ∨ 2 ≤ d.masterStatus ∧ d.masterStatus ≤ 250

theorem nextMasterStatus_cases (status : UInt8) :
    nextMasterStatus status = MASTER_READY + 2 ∨
      (nextMasterStatus status).toNat = status.toNat + 1 ∧ (nextMasterStatus status).toNat ≤ 250 := by
  unfold nextMasterStatus
  split
  case isTrue wraps => exact Or.inl rfl
  case isFalse below =>
    have bound : status.toNat < 250 := by simpa [UInt8.le_iff_toNat_le] using below
    have exact : (status + 1).toNat = status.toNat + 1 := by
      rw [UInt8.toNat_add]
      exact Nat.mod_eq_of_lt (by simp; omega)
    exact Or.inr ⟨exact, by omega⟩

theorem nextMasterStatus_range {status : UInt8} (low : 2 ≤ status) :
    2 ≤ nextMasterStatus status ∧ nextMasterStatus status ≤ 250 := by
  rw [UInt8.le_iff_toNat_le] at low
  -- The counter starts again above the command codes.
  rcases nextMasterStatus_cases status with wrapped | ⟨counted, bound⟩
  · rw [wrapped]
    decide
  · simp only [UInt8.le_iff_toNat_le, UInt8.reduceToNat] at low ⊢
    omega

theorem ready_of_next {status : UInt8} (ready : MASTER_READY ≤ nextMasterStatus status)
    (moved : nextMasterStatus status ≠ MASTER_READY) : MASTER_READY ≤ status := by
  unfold nextMasterStatus at ready moved
  split at ready
  case isTrue wraps => exact UInt8.le_trans (by decide) wraps
  case isFalse below =>
    rw [if_neg below] at moved
    have bound : status.toNat < 250 := by simpa [UInt8.le_iff_toNat_le] using below
    have exact : (status + 1).toNat = status.toNat + 1 := by
      rw [UInt8.toNat_add]
      exact Nat.mod_eq_of_lt (by simp; omega)
    rw [UInt8.le_iff_toNat_le, exact] at ready
    rw [Ne, ← UInt8.toNat_inj, exact] at moved
    rw [UInt8.le_iff_toNat_le]
    omega

theorem masterStatus_cases (data : ConfigurationParser) (d : SlaveDevice β) (s : Step) :
    ((next data d s).masterStatus = d.masterStatus ∧
      (next data d s).isEcatConfDone = d.isEcatConfDone) ∨
    (∃ currentTime, s = .process currentTime ∧ d.isEcatConfDone = true ∧
      (next data d s).masterStatus = d.statusAfter) ∨
    (∃ call, s = .init call ∧
      ((next data d s).masterStatus = MASTER_READY ∨ (next data d s).masterStatus = MASTER_SENDING_ARGUMENTS)) := by
  rcases process_or_init s with ⟨currentTime, rfl⟩ | ⟨call, rfl⟩ | ⟨noProcess, noInit⟩
  · cases configured : d.isConfigured with
    | false =>
      rw [next_process_skipped configured]
      exact Or.inl ⟨rfl, rfl⟩
    | true =>
      rw [next_process configured]
      refine Or.inr (Or.inl ⟨currentTime, rfl, ?_, rfl⟩)
      exact (Bool.and_eq_true_iff.mp configured).2
  · simp only [next, step]
    rcases init_cases data call d with ⟨_, outcome⟩ | ⟨_, passed, outcome⟩ | ⟨_, sdoLen, _, outcome⟩
    · rw [outcome]
      exact Or.inl ⟨rfl, rfl⟩
    · rw [outcome]
      exact Or.inl ⟨rfl, rfl⟩
    · rw [outcome]
      refine Or.inr (Or.inr ⟨call, rfl, ?_⟩)
      by_cases empty : sdoLen = 0 <;> simp [empty]
  · exact Or.inl ⟨(next_quiet data d noProcess noInit).1, (next_kept data d noInit).isEcatConfDone⟩

omit [Cell β] in
theorem statusAfter_range {d : SlaveDevice β} (low : 2 ≤ d.masterStatus) (high : d.masterStatus ≤ 250) :
    2 ≤ d.statusAfter ∧ d.statusAfter ≤ 250 := by
  have start : 2 ≤ d.statusBefore ∧ d.statusBefore ≤ 250 := by
    unfold statusBefore
    split
    · decide
    · exact ⟨low, high⟩
  unfold statusAfter
  split
  · exact nextMasterStatus_range start.1
  · exact start

theorem next_statusRange (data : ConfigurationParser) {d : SlaveDevice β} (s : Step) (range : d.StatusRange) :
    (next data d s).StatusRange := by
  rcases masterStatus_cases data d s with ⟨same, sameConf⟩ | ⟨_, _, configured, status⟩ | ⟨_, _, ready | sending⟩
  · rwa [StatusRange, same, sameConf]
  · rcases range with ⟨_, unconfigured⟩ | ⟨low, high⟩
    · exact absurd configured (by simp [unconfigured])
    · rw [StatusRange, status]
      exact Or.inr (statusAfter_range low high)
  · exact Or.inr (by rw [ready]; decide)
  · exact Or.inr (by rw [sending]; decide)

omit [Cell β] in
theorem sending_or_ready {d : SlaveDevice β} (range : d.StatusRange) (configured : d.isConfigured = true) :
    d.masterStatus = MASTER_SENDING_ARGUMENTS ∨ MASTER_READY ≤ d.masterStatus := by
  rcases range with ⟨_, unconfigured⟩ | ⟨low, _⟩
  · simp [isConfigured, unconfigured] at configured
  · have codes : MASTER_SENDING_ARGUMENTS.toNat = 2 ∧ MASTER_READY.toNat = 3 ∧ (2 : UInt8).toNat = 2 := by decide
    rw [UInt8.le_iff_toNat_le] at low ⊢
    rw [← UInt8.toNat_inj]
    omega

theorem started_statusRange {data : ConfigurationParser} {d : SlaveDevice β} (started : Started data d) :
    d.StatusRange := by
  induction started with
  | new => exact Or.inl ⟨rfl, rfl⟩
  | init call _ range => exact next_statusRange data (.init call) range
  | initTaskList _ returned range =>
    rcases initTaskList_cases returned with ⟨_, _, _, rfl⟩ | ⟨_, _, _, _, _, _, _, _, rfl⟩ <;> exact range

theorem configured_started {data : ConfigurationParser} {d : SlaveDevice β} (configured : Configured data d) :
    Started data d := by
  obtain ⟨call, opened, accepted, returned⟩ := configured
  have first : Started data (init data call (new : SlaveDevice β)).2 := .init call .new
  rw [accepted] at first
  exact .initTaskList first returned

theorem configured_statusRange {data : ConfigurationParser} {d : SlaveDevice β}
    (configured : Configured data d) : d.StatusRange :=
  started_statusRange (configured_started configured)

/-- The conditions on the byte at one step: what a frame carries, how the byte moves, and
who brings it back to argument mode. -/
structure StatusSafe (data : ConfigurationParser) (d : SlaveDevice β) (s : Step) : Prop where
  frame : ∀ frame, Event.frame frame ∈ (d.step data s).2 →
    frame.status ≠ MASTER_REQUEST_REBOOT ∧
      (frame.status = 0 ∧ d.isEcatConfDone = false ∨ 2 ≤ frame.status ∧ frame.status ≤ 250)
  counted : ∀ currentTime, s = .process currentTime →
    (next data d s).masterStatus = d.masterStatus ∨ (next data d s).masterStatus = MASTER_READY ∨
      (next data d s).masterStatus = MASTER_READY + 2 ∨
      (next data d s).masterStatus.toNat = d.masterStatus.toNat + 1
  reopened : MASTER_READY ≤ d.masterStatus →
    (next data d s).masterStatus = MASTER_SENDING_ARGUMENTS → ∃ call, s = .init call

omit [Cell β] in
theorem statusAfter_cases (d : SlaveDevice β) :
    d.statusAfter = d.masterStatus ∨ d.statusAfter = MASTER_READY ∨ d.statusAfter = MASTER_READY + 2 ∨
      d.statusAfter.toNat = d.masterStatus.toNat + 1 := by
  cases taken : d.handshakes with
  | true => exact Or.inr (Or.inl (handshakes_statusAfter taken))
  | false =>
    unfold statusAfter statusBefore
    simp only [taken, Bool.false_eq_true, if_false]
    split
    · rcases nextMasterStatus_cases d.masterStatus with wrapped | ⟨counted, _⟩
      · exact Or.inr (Or.inr (Or.inl wrapped))
      · exact Or.inr (Or.inr (Or.inr counted))
    · exact Or.inl rfl

omit [Cell β] in
theorem statusAfter_ready {d : SlaveDevice β}
    (ready : MASTER_READY ≤ d.masterStatus) : MASTER_READY ≤ d.statusAfter := by
  rcases d.statusAfter_cases with same | same | same | same
  · rwa [same]
  · rw [same]
    exact UInt8.le_refl _
  · rw [same]
    decide
  · rw [UInt8.le_iff_toNat_le] at ready ⊢
    omega

theorem statusSafe (data : ConfigurationParser) {d : SlaveDevice β} (s : Step) (range : d.StatusRange) :
    StatusSafe data d s where
  frame := by
    intro frame emitted
    obtain ⟨_, rfl⟩ := frame_emitted emitted
    rw [show d.transferToSlave.status = d.masterStatus from rfl]
    refine ⟨?_, range⟩
    rcases range with ⟨zero, _⟩ | ⟨low, _⟩
    · rw [zero]
      decide
    · intro reboot
      rw [reboot] at low
      exact absurd low (by decide)
  counted := by
    rintro currentTime rfl
    rcases masterStatus_cases data d (.process currentTime) with ⟨same, _⟩ | ⟨_, _, _, status⟩ | ⟨_, other, _⟩
    · exact Or.inl same
    · rw [status]
      exact d.statusAfter_cases
    · cases other
  reopened := by
    intro ready reopened
    rcases masterStatus_cases data d s with ⟨same, _⟩ | ⟨_, _, _, status⟩ | ⟨call, same, _⟩
    · exact absurd ready (not_ready_of_sending (same.symm.trans reopened))
    · exact absurd (statusAfter_ready ready) (not_ready_of_sending (status.symm.trans reopened))
    · exact ⟨call, same⟩

/-- The byte is safe along every run of a started program. -/
theorem statusSafe_along (data : ConfigurationParser) (d : SlaveDevice β) (started : Started data d)
    (run : List Step) : Along (next data) (StatusSafe data) d run :=
  along_of_invariant (started_statusRange started) (fun _ s range => next_statusRange data s range)
    (fun _ s range => statusSafe data s range)

/-- The receiver gets its two arguments, confirms, and sends each number of the counter back until the
counter has come round. -/
def countedRound : List Step :=
  let arguments : List Inputs := [⟨SLAVE_INITIALIZING, [0, 0, 0]⟩, ⟨SLAVE_INITIALIZING, [1, 0, 1]⟩, ⟨SLAVE_READY, [2, 0, 1]⟩]
  let numbers := (List.range 248).map fun i => (⟨UInt8.ofNat (i + 3), []⟩ : Inputs)
  (arguments ++ numbers).flatMap fun inputs => [.receiveFromSlave inputs, .process 0, .transferToSlave]

theorem statusSafe_along_countedRound :
    (exec (next receiverData) (setUp receiverData boardCall : SlaveDevice UInt8) (countedRound.take 9)).masterStatus =
      MASTER_READY ∧
    (exec (next receiverData) (setUp receiverData boardCall : SlaveDevice UInt8) (countedRound.take 750)).masterStatus = 250 ∧
    (exec (next receiverData) (setUp receiverData boardCall : SlaveDevice UInt8) countedRound).masterStatus = 5 ∧
    Along (next receiverData) (StatusSafe receiverData) (setUp receiverData boardCall : SlaveDevice UInt8) countedRound :=
  ⟨by decide +kernel, by decide +kernel, by decide +kernel,
    statusSafe_along receiverData _ (configured_started receiver_bytes_configured) countedRound⟩

end SlaveDevice

end EcatMaster.Slave
