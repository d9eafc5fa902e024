import EcatMaster.Slave.StatusByte

/-! The first configuration, cycle by cycle.

The state checker is silent and no exit is requested, so a run is a list of data
cycles with callbacks. The slave may send any status byte below
`SLAVE_CONFIRM_READY` and any payload at any time.
-/

set_option autoImplicit false

namespace EcatMaster.Slave
open Library Config Tasks

namespace SlaveDevice
variable {β : Type} [Cell β]

theorem exec_commands (data : ConfigurationParser) (d : SlaveDevice β) (commands : List (Nat × CommandMessage)) :
    ∃ buf, exec (next data) d (commandSteps commands) = { d with masterToSlaveBuf := buf } := by
  induction commands generalizing d with
  | nil => exact ⟨d.masterToSlaveBuf, rfl⟩
  | cons command commands ih =>
    obtain ⟨buf, rest⟩ := ih (next data d (.onCommand command.1 command.2))
    rw [next_onCommand] at rest
    refine ⟨buf, ?_⟩
    rw [commandSteps, List.map_cons, exec, next_onCommand]
    exact rest

theorem emitted_commands (data : ConfigurationParser) (d : SlaveDevice β) (commands : List (Nat × CommandMessage)) :
    emitted data d (commandSteps commands) = [] := by
  induction commands generalizing d with
  | nil => rfl
  | cons command commands ih => exact ih _

theorem cycle_eq (data : ConfigurationParser) (d : SlaveDevice β) (c : Cycle) :
    ∃ (p : SlaveDevice β) (buf after : ByteVec β),
      p = { d with
        slaveStatus := c.inputs.status
        slaveToMasterBuf := d.slaveToMasterBuf.copyIn 0 (c.inputs.data.take d.slaveToMasterBufLen.toNat)
        masterToSlaveBuf := buf } ∧
      exec (next data) d c.steps = { (p.process c.currentTime).1 with masterToSlaveBuf := after } ∧
      emitted data d c.steps = (p.process c.currentTime).2 ++
        [.frame ({ (p.process c.currentTime).1 with masterToSlaveBuf := after } : SlaveDevice β).transferToSlave] := by
  obtain ⟨buf₁, first⟩ := exec_commands data d c.beforeReceive
  obtain ⟨buf₂, second⟩ := exec_commands data
    (next data { d with masterToSlaveBuf := buf₁ } (.receiveFromSlave c.inputs)) c.beforeProcess
  let p : SlaveDevice β := { d with
    slaveStatus := c.inputs.status
    slaveToMasterBuf := d.slaveToMasterBuf.copyIn 0 (c.inputs.data.take d.slaveToMasterBufLen.toNat)
    masterToSlaveBuf := buf₂ }
  have received : exec (next data) (next data { d with masterToSlaveBuf := buf₁ } (.receiveFromSlave c.inputs))
      (commandSteps c.beforeProcess) = p := second
  obtain ⟨after, third⟩ := exec_commands data (next data p (.process c.currentTime)) c.beforeTransfer
  refine ⟨p, buf₂, after, rfl, ?_, ?_⟩
  · rw [Cycle.steps, exec_append, first, exec, exec_append, received, exec, exec_append, third]
    rfl
  · simp only [Cycle.steps, emitted_append, first, emitted, received, third, emitted_commands,
      List.nil_append, List.append_nil]
    rfl

end SlaveDevice

/-- A device with what has happened in its earlier cycles: has a frame with `MASTER_READY`
been transferred, and has the master left argument mode. -/
structure Watched (β : Type) where
  device : SlaveDevice β
  confirmable : Bool
  left : Bool

namespace Watched
open SlaveDevice
variable {β : Type} [Cell β]

omit [Cell β] in
def start (d : SlaveDevice β) : Watched β := ⟨d, false, false⟩

def carriesReady : Event → Bool
  | .frame frame => frame.status == MASTER_READY
  | _ => false

def after (data : ConfigurationParser) (w : Watched β) (c : Cycle) : SlaveDevice β :=
  exec (SlaveDevice.next data) w.device c.steps

def events (data : ConfigurationParser) (w : Watched β) (c : Cycle) : List Event :=
  emitted data w.device c.steps

def leaves (data : ConfigurationParser) (w : Watched β) (c : Cycle) : Bool :=
  w.device.masterStatus == MASTER_SENDING_ARGUMENTS && (w.after data c).masterStatus != MASTER_SENDING_ARGUMENTS

def next (data : ConfigurationParser) (w : Watched β) (c : Cycle) : Watched β where
  device := w.after data c
  confirmable := w.confirmable || (w.events data c).any carriesReady
  left := w.left || w.leaves data c

theorem exec_device (data : ConfigurationParser) (w : Watched β) (run : List Cycle) :
    (exec (next data) w run).device = exec (SlaveDevice.next data) w.device
    (labels (next data) (fun _ c => c.steps) w run) :=
  exec_component (fun _ _ => rfl) w run

omit [Cell β] in
/-- The slave confirms only after it has been sent `MASTER_READY`. -/
def LateConfirm (w : Watched β) (c : Cycle) : Prop :=
  SLAVE_CONFIRM_READY ≤ c.inputs.status → w.confirmable = true

omit [Cell β] in
instance (w : Watched β) (c : Cycle) : Decidable (w.LateConfirm c) := inferInstanceAs (Decidable (_ → _))

/-- The hand-over in one cycle of the first configuration. -/
structure HandsOver (data : ConfigurationParser) (w : Watched β) (c : Cycle) : Prop where
  leaves : w.leaves data c = true →
    (w.after data c).isArgSent = true ∧ (w.after data c).masterStatus = MASTER_READY
  writes : (w.events data c).count .writeInitValues = if w.leaves data c then 1 else 0
  restores : Event.recoverMasterToSlaveBuf ∉ w.events data c
  ready : w.device.isReady = false → (w.after data c).isReady = true → w.left = true
  reads : ∀ task stamp, Event.read task stamp ∈ w.events data c → w.left = true

inductive Phase (w : Watched β) : Prop where
  | sending (left : w.left = false) (confirmable : w.confirmable = false)
      (status : w.device.masterStatus = MASTER_SENDING_ARGUMENTS) (waiting : w.device.isReady = false)
  | working (left : w.left = true) (sent : w.device.isArgSent = true)
      (status : MASTER_READY ≤ w.device.masterStatus)
      (waiting : w.device.isReady = false → w.device.masterStatus = MASTER_READY)

structure FirstRun (w : Watched β) : Prop where
  configured : w.device.isConfigured = true
  first : w.device.reconnectedTimes = 0
  phase : Phase w

/-- The three status changes of a cycle, with its events: nothing, a handshake, or the counter. -/
theorem cycle_cases (data : ConfigurationParser) {w : Watched β} {c : Cycle}
    (configured : w.device.isConfigured = true) :
    ∃ (p : SlaveDevice β) (frame : Frame),
      (p.slaveStatus = c.inputs.status ∧ p.masterStatus = w.device.masterStatus ∧ p.isReady = w.device.isReady ∧
        p.isArgSent = w.device.isArgSent ∧ p.reconnectedTimes = w.device.reconnectedTimes) ∧
      ((w.after data c).isConfigured = true ∧
        (w.after data c).reconnectedTimes = w.device.reconnectedTimes ∧
        (w.after data c).masterStatus = p.statusAfter ∧ (w.after data c).isReady = p.readyAfter ∧
        (w.after data c).isArgSent = p.argSentAfter) ∧
      frame.status = p.statusAfter ∧
      w.events data c = ((if p.handshakes then p.restoreEvents ++ [.masterReady .handshake] else [])
        ++ if p.readyAfter then p.pdoEvents c.currentTime else []) ++ [.frame frame] := by
  obtain ⟨p, buf, after, same, device, events⟩ := cycle_eq data w.device c
  have processed : p.isConfigured = true := by
    rw [same]
    exact configured
  rw [process_eq _ _ processed] at device events
  refine ⟨p, _, ?_, ?_, rfl, events⟩
  · rw [same]
    exact ⟨rfl, rfl, rfl, rfl, rfl⟩
  · rw [Watched.after, device]
    exact ⟨processed, by rw [same], rfl, rfl, rfl⟩

theorem cycle_sending {data : ConfigurationParser} {w : Watched β} {c : Cycle} (run : FirstRun w)
    (left : w.left = false) (confirmable : w.confirmable = false)
    (status : w.device.masterStatus = MASTER_SENDING_ARGUMENTS) (waiting : w.device.isReady = false)
    (late : w.LateConfirm c) : HandsOver data w c ∧ FirstRun (w.next data c) := by
  obtain ⟨p, frame, ⟨input, sameStatus, sameReady, _, sameTimes⟩, ⟨configured, times, statusAfter, ready, sent⟩,
    frameStatus, events⟩ := cycle_cases data run.configured (c := c)
  -- No frame with `MASTER_READY` has been transferred, so the slave cannot confirm it yet.
  have early : p.slaveStatus ≠ SLAVE_CONFIRM_READY := by
    intro confirmed
    have confirmable' := late (by rw [← input, confirmed]; exact UInt8.le_refl _)
    rw [confirmable] at confirmable'
    cases confirmable'
  have idle : p.readyAfter = false := by simp [readyAfter, sameReady, waiting, early]
  have uncounted : p.counts = false := by simp [counts, idle]
  have restores : p.restoreEvents = [.writeInitValues] := by
    rw [restoreEvents, sameStatus, status, sameTimes, run.first]
    rfl
  cases taken : p.handshakes with
  | true =>
    have argSent : p.argSentAfter = true := by
      simp only [handshakes, Bool.and_eq_true] at taken
      exact taken.1.2
    rw [handshakes_statusAfter taken] at statusAfter frameStatus
    have leaving : w.leaves data c = true := by rw [leaves, status, statusAfter]; rfl
    rw [taken, idle, if_pos rfl, restores, if_neg Bool.false_ne_true] at events
    refine ⟨⟨fun _ => ⟨sent.trans argSent, statusAfter⟩, ?_, ?_, ?_, ?_⟩, ⟨configured, times.trans run.first, ?_⟩⟩
    · rw [events, leaving]
      rfl
    · rw [events]
      simp
    · rw [ready, idle]
      exact fun _ working => absurd working (by decide)
    · rw [events]
      simp
    · refine .working ?_ (sent.trans argSent) ?_ fun _ => statusAfter
      · simp [Watched.next, leaving]
      · rw [Watched.next, statusAfter]
        exact UInt8.le_refl _
  | false =>
    have stays : p.statusAfter = MASTER_SENDING_ARGUMENTS := by
      simp [SlaveDevice.statusAfter, uncounted, statusBefore, taken, sameStatus, status]
    rw [stays] at statusAfter frameStatus
    have staying : w.leaves data c = false := by rw [leaves, statusAfter]; simp
    rw [taken, idle, if_neg Bool.false_ne_true, if_neg Bool.false_ne_true] at events
    refine ⟨⟨fun leaving => absurd leaving (by simp [staying]), ?_, ?_, ?_, ?_⟩,
      ⟨configured, times.trans run.first, ?_⟩⟩
    · rw [events, staying]
      rfl
    · rw [events]
      simp
    · rw [ready, idle]
      exact fun _ working => absurd working (by decide)
    · rw [events]
      simp
    · refine .sending ?_ ?_ statusAfter (ready.trans idle)
      · simp [Watched.next, left, staying]
      · simp [Watched.next, confirmable, events, carriesReady, frameStatus]
        decide

theorem cycle_working {data : ConfigurationParser} {w : Watched β} {c : Cycle} (run : FirstRun w)
    (left : w.left = true) (sent : w.device.isArgSent = true) (status : MASTER_READY ≤ w.device.masterStatus)
    (waiting : w.device.isReady = false → w.device.masterStatus = MASTER_READY) :
    HandsOver data w c ∧ FirstRun (w.next data c) := by
  obtain ⟨p, frame, ⟨input, sameStatus, sameReady, sameSent, sameTimes⟩,
    ⟨configured, times, statusAfter, ready, sentAfter⟩, frameStatus, events⟩ :=
    cycle_cases data run.configured (c := c)
  have other : w.device.masterStatus ≠ MASTER_SENDING_ARGUMENTS := fun sending => not_ready_of_sending sending status
  have staying : w.leaves data c = false := by simp [leaves, other]
  -- A handshake is repeated until the slave confirms; it finds the byte ready and restores nothing.
  have restores : p.handshakes = true → p.restoreEvents = [] := by
    intro taken
    have idle := handshakes_waiting taken
    simp only [readyAfter, Bool.or_eq_false_iff, sameReady] at idle
    rw [restoreEvents, sameStatus, waiting idle.1, if_pos rfl]
  have quiet : ∀ event ∈ w.events data c, event ≠ .writeInitValues ∧ event ≠ .recoverMasterToSlaveBuf := by
    intro event member
    rw [events] at member
    rcases List.mem_append.mp member with processed | framed
    · rcases List.mem_append.mp processed with handshake | pdo
      · split at handshake
        case isTrue taken =>
          rw [restores taken, List.nil_append, List.mem_singleton] at handshake
          simp [handshake]
        case isFalse => cases handshake
      · split at pdo
        · rcases mem_pdoEvents pdo with same | ⟨_, same⟩ | same | ⟨_, _, same⟩ <;> simp [same]
        · cases pdo
    · simp [List.mem_singleton.mp framed]
  refine ⟨⟨fun leaving => absurd leaving (by simp [staying]), ?_, ?_, fun _ _ => left, fun _ _ _ => left⟩,
    ⟨configured, times.trans run.first, ?_⟩⟩
  · rw [staying]
    exact List.count_eq_zero.mpr fun member => (quiet _ member).1 rfl
  · exact fun member => (quiet _ member).2 rfl
  · refine .working ?_ ?_ ?_ ?_
    · simp [Watched.next, left]
    · simp [Watched.next, sentAfter, argSentAfter, sameSent, sent]
    · rw [Watched.next, statusAfter]
      exact statusAfter_ready (by rwa [sameStatus])
    · rw [Watched.next, statusAfter, ready]
      intro idle
      have before := idle
      simp only [readyAfter, Bool.or_eq_false_iff] at before
      have resting : p.counts = false := by simp [counts, idle]
      simp only [SlaveDevice.statusAfter, resting, Bool.false_eq_true, if_false, statusBefore]
      split
      · rfl
      · exact sameStatus.trans (waiting (sameReady.symm.trans before.1))

theorem start_firstRun {data : ConfigurationParser} {d : SlaveDevice β} (configured : Configured data d)
    (positive : 0 < d.argBufLen) : FirstRun (start d) := by
  obtain ⟨call, sn, sdoLen, argBuf, taskList, _, _, rfl⟩ := configured_eq configured
  refine ⟨rfl, rfl, .sending rfl rfl ?_ rfl⟩
  have nonempty : sdoLen ≠ 0 := fun same => UInt16.lt_irrefl 0 (same ▸ positive)
  exact if_neg nonempty

/-- Both argument bytes are sent back, the slave asks for the hand-over and confirms it. -/
def promptCycles : List Cycle :=
  [⟨[], ⟨1, [0, 0, 0]⟩, [], 0, []⟩, ⟨[], ⟨1, [1, 0, 1]⟩, [], 1, []⟩, ⟨[], ⟨1, [2, 0, 1]⟩, [], 2, []⟩,
   ⟨[], ⟨2, [2, 0, 1]⟩, [], 3, []⟩, ⟨[], ⟨3, [0, 0, 0]⟩, [], 4, []⟩]

end Watched

end EcatMaster.Slave
