import EcatMaster.Slave.Checker

/-! A slave that restarts.

The checker finds it in INIT, has it configured again and resets its flags. The next visit
finds it in SAFE_OP, and its arguments are sent from the first one on. What the slave
answers follows from the state that it is really in.
-/

set_option autoImplicit false

namespace EcatMaster.Slave
open Library Config Tasks SlaveDevice

namespace SlaveDevice
variable {data : ConfigurationParser} {d : SlaveDevice UInt8}

structure Asked (d : SlaveDevice UInt8) : Prop where
  isEcatConfDone : d.isEcatConfDone = true
  status : d.masterStatus = MASTER_SENDING_ARGUMENTS

structure Halted (d : SlaveDevice UInt8) : Prop where
  asked : Asked d
  waiting : d.isReady = false
  skipped : d.isConfRosDone = false

structure Resends (d : SlaveDevice UInt8) : Prop where
  configured : d.isConfigured = true
  status : d.masterStatus = MASTER_SENDING_ARGUMENTS
  waiting : d.isReady = false
  unsent : d.isArgSent = false
  first : d.sendingArgBufIdx = 1

theorem statusAfter_asked (asked : Asked d) (unready : d.slaveStatus ≠ SLAVE_READY) :
    d.statusAfter = MASTER_SENDING_ARGUMENTS := by
  have waits : d.handshakes = false := by simp [handshakes, unready]
  have before : d.statusBefore = MASTER_SENDING_ARGUMENTS := by simp [statusBefore, waits, asked.status]
  -- The status byte is the same number as `SLAVE_READY`, so it is not counted as an echo.
  have silent : d.counts = false := by
    rw [counts, before, Bool.and_eq_false_iff]
    exact Or.inr (beq_eq_false_iff_ne.mpr unready)
  simp [statusAfter, silent, before]

theorem next_unready (unready : d.slaveStatus ≠ SLAVE_READY) {s : Step}
    (reads : ∀ inputs, s = .receiveFromSlave inputs → inputs.status ≠ SLAVE_READY) :
    (next data d s).slaveStatus ≠ SLAVE_READY := by
  have cleared : SLAVE_INITIALIZING ≠ SLAVE_READY := by decide
  cases s with
  | receiveFromSlave inputs => exact reads inputs rfl
  | process currentTime =>
    cases configured : d.isConfigured with
    | false => rwa [next_process_skipped configured]
    | true => rwa [next_process configured]
  | exitReset => rwa [next_exitReset]
  | init call =>
    rw [next, step]
    rcases init_cases data call d with ⟨_, outcome⟩ | ⟨_, _, outcome⟩ | ⟨_, _, _, outcome⟩ <;> rwa [outcome]
  | resetState => exact cleared
  | connectionLost => rwa [next_connectionLost]
  | onCommand task msg => rwa [next_onCommand]
  | transferToSlave | preRecover | recoverState => exact unready

theorem asked_process (asked : Asked d) (unready : d.slaveStatus ≠ SLAVE_READY) (currentTime : Int) :
    Asked (next data d (.process currentTime)) := by
  cases configured : d.isConfigured with
  | false => rwa [next_process_skipped configured]
  | true =>
    rw [next_process configured]
    exact ⟨asked.isEcatConfDone, statusAfter_asked asked unready⟩

theorem asked_init {call : InitCall} (returned : (d.init data call).1 = true)
    (arguments : sdoLenOf data (d.readSn call) ≠ .ok 0) :
    Asked (next data d (.init call)) ∧ (next data d (.init call)).isRecoverRejected = false := by
  rw [next, step]
  rcases init_cases data call d with ⟨_, outcome⟩ | ⟨_, _, outcome⟩ | ⟨_, sdoLen, found, outcome⟩
  · rw [outcome] at returned
    cases returned
  · rw [outcome] at returned
    cases returned
  · have more : sdoLen ≠ 0 := by
      rintro rfl
      exact arguments found
    rw [outcome]
    exact ⟨⟨rfl, if_neg more⟩, rfl⟩

theorem halted_reset (asked : Asked d) : Halted (next data d .resetState) :=
  ⟨⟨asked.isEcatConfDone, asked.status⟩, rfl, rfl⟩

theorem resends_preRecover (halted : Halted d) : Resends (next data d .preRecover) where
  configured := by simp [isConfigured, next, step, preRecover, halted.asked.isEcatConfDone]
  status := halted.asked.status
  waiting := halted.waiting
  unsent := rfl
  first := rfl

end SlaveDevice

namespace Station
variable {data : ConfigurationParser} {s : Station UInt8} {state : UInt16} {m : Move} {answer : Answer}

/-- The state of the slave after a section of the checker: SOEM has configured it for SAFE_OP. -/
def stateAfter (s : Station UInt8) (state : UInt16) : Move → UInt16
  | .check answer => if s.phase = .reconfig ∧ answer.succeeds = true then EC_STATE_SAFE_OP else state
  | _ => state

/-- The answers of a slave in this state whose board is accepted and has arguments. -/
def Obeys (data : ConfigurationParser) (s : Station UInt8) (state : UInt16) : Move → Prop
  | .receiveFromSlave inputs => inputs.status ≠ SLAVE_READY
  | .check answer =>
    match s.phase with
    | .idle => answer.state = state
    | .branch => s.branch = .restarted → answer.succeeds = true
    | .reconfig => answer.succeeds = true ∧ ∃ call ∈ answer.call, (s.device.init data call).1 = true ∧
        sdoLenOf data (s.device.readSn call) ≠ .ok 0
    | .reset | .tail => True
  | _ => True

instance (data : ConfigurationParser) (s : Station UInt8) (state : UInt16) :
    (m : Move) → Decidable (s.Obeys data state m)
  | .receiveFromSlave _ => inferInstanceAs (Decidable (¬_))
  | .check answer =>
    match phase : s.phase with
    | .idle => decidable_of_iff (answer.state = state) (by rw [Obeys, phase])
    | .branch => decidable_of_iff (s.branch = .restarted → answer.succeeds = true) (by rw [Obeys, phase])
    | .reconfig => decidable_of_iff (answer.succeeds = true ∧ ∃ call ∈ answer.call,
        (s.device.init data call).1 = true ∧ sdoLenOf data (s.device.readSn call) ≠ .ok 0) (by rw [Obeys, phase])
    | .reset | .tail => .isTrue (by rw [Obeys, phase]; trivial)
  | .process _ | .exitReset | .transferToSlave | .onCommand _ _ => .isTrue trivial

/-- The visit that is under way has not found the slave. -/
inductive Missed (s : Station UInt8) : Prop where
  | idle (phase : s.phase = .idle)
  | branch (phase : s.phase = .branch) (state : s.state = EC_STATE_NONE)
  | tail (phase : s.phase = .tail)

/-- From the visit that finds the slave in INIT to the next one, in which it is in SAFE_OP. -/
inductive Course (s : Station UInt8) : UInt16 → Prop where
  | found (phase : s.phase = .branch) (state : s.state = EC_STATE_INIT) : Course s EC_STATE_INIT
  | reconfig (phase : s.phase = .reconfig) : Course s EC_STATE_INIT
  | reset (phase : s.phase = .reset) (present : s.isLost = false) (accepted : s.device.isRecoverRejected = false)
      (asked : Asked s.device) : Course s EC_STATE_SAFE_OP
  | rests (phase : s.phase = .tail ∨ s.phase = .idle) (present : s.isLost = false)
      (accepted : s.device.isRecoverRejected = false) (halted : Halted s.device) : Course s EC_STATE_SAFE_OP
  | again (phase : s.phase = .branch) (state : s.state = EC_STATE_SAFE_OP)
      (accepted : s.device.isRecoverRejected = false) (halted : Halted s.device) : Course s EC_STATE_SAFE_OP

theorem unready_next (unready : s.device.slaveStatus ≠ SLAVE_READY) (obeys : s.Obeys data state m) :
    (s.next data m).device.slaveStatus ≠ SLAVE_READY := by
  rw [next_device, deviceAfter]
  cases taken : s.stepOf m with
  | none => exact unready
  | some step =>
    refine next_unready unready ?_
    rintro inputs rfl
    cases m with
    | receiveFromSlave inputs' =>
      cases taken
      exact obeys
    | check answer =>
      rw [stepOf, checked] at taken
      split at taken
      case h_1 => cases taken
      case h_2 => split at taken <;> cases taken
      case h_3 =>
        cases called : answer.call with
        | none =>
          rw [called] at taken
          cases taken
        | some call =>
          rw [called] at taken
          cases taken
      case h_4 => cases taken
      case h_5 =>
        split_ifs at taken
        cases taken
    | _ => cases taken

structure Between (d d' : SlaveDevice UInt8) : Prop where
  accepted : d'.isRecoverRejected = d.isRecoverRejected
  asked : Asked d → Asked d'
  halted : Halted d → Halted d'

theorem between_buffers {d d' : SlaveDevice UInt8} (accepted : d'.isRecoverRejected = d.isRecoverRejected)
    (same : d'.isEcatConfDone = d.isEcatConfDone ∧ d'.masterStatus = d.masterStatus ∧ d'.isReady = d.isReady ∧
      d'.isConfRosDone = d.isConfRosDone) : Between d d' where
  accepted := accepted
  asked := fun ⟨isEcatConfDone, status⟩ => ⟨same.1.trans isEcatConfDone, same.2.1.trans status⟩
  halted := fun ⟨⟨isEcatConfDone, status⟩, waiting, skipped⟩ =>
    ⟨⟨same.1.trans isEcatConfDone, same.2.1.trans status⟩, same.2.2.1.trans waiting, same.2.2.2.trans skipped⟩

theorem between_other (data : ConfigurationParser) (other : ∀ answer, m ≠ .check answer)
    (unready : s.device.slaveStatus ≠ SLAVE_READY) :
    Between s.device (s.next data m).device := by
  rw [next_device, deviceAfter]
  cases m with
  | check answer => exact absurd rfl (other answer)
  | receiveFromSlave inputs => exact between_buffers rfl ⟨rfl, rfl, rfl, rfl⟩
  | transferToSlave => exact between_buffers rfl ⟨rfl, rfl, rfl, rfl⟩
  | exitReset =>
    rw [stepOf, nextOf, next_exitReset]
    exact between_buffers rfl ⟨rfl, rfl, rfl, rfl⟩
  | onCommand task msg =>
    rw [stepOf, nextOf, next_onCommand]
    exact between_buffers rfl ⟨rfl, rfl, rfl, rfl⟩
  | process currentTime =>
    rw [stepOf, nextOf]
    refine ⟨?_, fun asked => asked_process asked unready currentTime, fun halted => ?_⟩
    · cases configured : s.device.isConfigured with
      | false => rw [next_process_skipped configured]
      | true => rw [next_process configured]
    · have skipped : s.device.isConfigured = false := by simp [isConfigured, halted.skipped]
      rwa [next_process_skipped skipped]

theorem missed_other (other : ∀ answer, m ≠ .check answer) (missed : Missed s) : Missed (s.next data m) := by
  have same : (s.next data m).phase = s.phase ∧ (s.next data m).state = s.state := by
    cases m with
    | check answer => exact absurd rfl (other answer)
    | _ => exact ⟨rfl, rfl⟩
  cases missed with
  | idle phase => exact .idle (same.1.trans phase)
  | branch phase state => exact .branch (same.1.trans phase) (same.2.trans state)
  | tail phase => exact .tail (same.1.trans phase)

theorem course_other (other : ∀ answer, m ≠ .check answer) (unready : s.device.slaveStatus ≠ SLAVE_READY)
    (course : Course s state) : Course (s.next data m) state := by
  have kept := between_other data other unready
  have same : (s.next data m).phase = s.phase ∧ (s.next data m).state = s.state ∧ (s.next data m).isLost = s.isLost := by
    cases m with
    | check answer => exact absurd rfl (other answer)
    | _ => exact ⟨rfl, rfl, rfl⟩
  obtain ⟨samePhase, sameState, sameLost⟩ := same
  cases course with
  | found phase state => exact .found (samePhase.trans phase) (sameState.trans state)
  | reconfig phase => exact .reconfig (samePhase.trans phase)
  | reset phase present accepted asked =>
    exact .reset (samePhase.trans phase) (sameLost.trans present) (kept.accepted.trans accepted) (kept.asked asked)
  | rests phase present accepted halted =>
    exact .rests (samePhase ▸ phase) (sameLost.trans present) (kept.accepted.trans accepted) (kept.halted halted)
  | again phase state accepted halted =>
    exact .again (samePhase.trans phase) (sameState.trans state) (kept.accepted.trans accepted) (kept.halted halted)

theorem branch_none (gone : s.state = EC_STATE_NONE) : s.branch = .lost ∨ s.branch = .nothing := by
  cases lost : s.isLost <;>
    simp [branch, gone, lost, EC_STATE_NONE, EC_STATE_OPERATIONAL, EC_STATE_SAFE_OP, EC_STATE_INIT]

theorem branch_init (restarted : s.state = EC_STATE_INIT) : s.branch = .restarted := by
  simp [branch, restarted, EC_STATE_OPERATIONAL, EC_STATE_SAFE_OP, EC_STATE_INIT]

theorem branch_safeOp (back : s.state = EC_STATE_SAFE_OP) (accepted : s.device.isRecoverRejected = false) :
    s.branch = .backToSafeOp := by
  simp [branch, back, accepted, EC_STATE_OPERATIONAL, EC_STATE_SAFE_OP]

theorem missed_check (data : ConfigurationParser) (state : UInt16) (answer : Answer) (missed : Missed s)
    (under : s.phase ≠ .idle) :
    Missed (s.next data (.check answer)) ∧ s.stateAfter state (.check answer) = state := by
  cases missed with
  | idle phase => exact absurd phase under
  | tail phase =>
    refine ⟨.idle ?_, if_neg (by simp [phase])⟩
    rw [Station.next, advance, phase]
  | branch phase gone =>
    refine ⟨.tail ?_, if_neg (by simp [phase])⟩
    rw [Station.next, advance, phase]
    rcases branch_none gone with lost | nothing
    · rw [lost]
    · rw [nothing]

theorem course_rests (course : Course s state) (rests : s.phase = .idle) :
    state = EC_STATE_SAFE_OP ∧ s.device.isRecoverRejected = false ∧ Halted s.device := by
  cases course with
  | rests _ _ accepted halted => exact ⟨rfl, accepted, halted⟩
  | found phase | reconfig phase | reset phase | again phase => cases rests.symm.trans phase

theorem next_idle (phase : s.phase = .idle) (obeys : s.Obeys data state (.check answer)) :
    (s.next data (.check answer)).device = s.device ∧ (s.next data (.check answer)).phase = .branch ∧
      (s.next data (.check answer)).state = state ∧ s.stateAfter state (.check answer) = state := by
  rw [Obeys, phase] at obeys
  simp [Station.next, deviceAfter, stepOf, checked, nextOf, advance, phase, obeys, stateAfter]

theorem resends_check (phase : s.phase = .branch) (back : s.state = EC_STATE_SAFE_OP)
    (accepted : s.device.isRecoverRejected = false) (halted : Halted s.device) :
    Resends (s.next data (.check answer)).device := by
  have opened := branch_safeOp back accepted
  rw [next_device, deviceAfter, stepOf, checked, phase]
  simp only [opened, nextOf]
  exact resends_preRecover halted

theorem course_check (course : Course s state) (under : s.phase ≠ .idle) (obeys : s.Obeys data state (.check answer)) :
    Resends (s.next data (.check answer)).device ∨
      Course (s.next data (.check answer)) (s.stateAfter state (.check answer)) := by
  cases course with
  | found phase restarted =>
    have opened := branch_init restarted
    rw [Obeys, phase] at obeys
    refine Or.inr ?_
    rw [stateAfter, if_neg (by simp [phase])]
    refine .reconfig ?_
    simp [Station.next, advance, phase, opened, obeys opened]
  | reconfig phase =>
    rw [Obeys, phase] at obeys
    obtain ⟨succeeds, call, called, accepted, arguments⟩ := obeys
    obtain ⟨asked, taken⟩ := asked_init accepted arguments
    have device : s.deviceAfter data (.check answer) = SlaveDevice.next data s.device (.init call) := by
      simp [deviceAfter, stepOf, checked, phase, Option.mem_def.mp called, nextOf]
    refine Or.inr ?_
    rw [stateAfter, if_pos ⟨phase, succeeds⟩]
    refine .reset ?_ ?_ ?_ ?_
    · simp [Station.next, advance, phase, succeeds, device, taken]
    · simp [Station.next, advance, phase, succeeds, device, taken]
    · rwa [next_device, device]
    · rwa [next_device, device]
  | reset phase present accepted asked =>
    refine Or.inr ?_
    rw [stateAfter, if_neg (by simp [phase])]
    have device : s.deviceAfter data (.check answer) = SlaveDevice.next data s.device .resetState := by
      simp [deviceAfter, stepOf, checked, phase, nextOf]
    refine .rests (Or.inl ?_) ?_ ?_ ?_
    · simp [Station.next, advance, phase]
    · simpa [Station.next, advance, phase] using present
    · rw [next_device, device]
      exact accepted
    · rw [next_device, device]
      exact halted_reset asked
  | rests phase present accepted halted =>
    have last := phase.resolve_right under
    refine Or.inr ?_
    rw [stateAfter, if_neg (by simp [last])]
    -- A slave that is not lost is not marked as recovered.
    have device : s.deviceAfter data (.check answer) = s.device := by
      simp [deviceAfter, stepOf, checked, last, recovers, present, nextOf]
    refine .rests (Or.inr ?_) ?_ ?_ ?_
    · simp [Station.next, advance, last]
    · simp [Station.next, advance, last, present]
    · rwa [next_device, device]
    · rwa [next_device, device]
  | again phase back accepted halted => exact Or.inl (resends_check phase back accepted halted)

end Station

end EcatMaster.Slave
