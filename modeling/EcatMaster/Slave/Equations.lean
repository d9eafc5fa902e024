import EcatMaster.Slave.Step

/-! What each operation does, as one record update.

The definitions follow the branches of the source; here every operation is the
device with the fields that it may change, so that what it does not touch is
read off by projection.
-/

set_option autoImplicit false

namespace EcatMaster.Slave
open Library Config Tasks TaskBody

namespace SlaveDevice
variable {β : Type}

section Cells
variable [Cell β]

/-- The window that `init_value` of the task stores. -/
def initWrite (task : TaskWrapper) : Nat × List β :=
  (task.pdowriteOffset.toNat, task.body.initBytes.map (Cell.store .initValue))

/-- The window that the callback for this message stores, if there is one. -/
def commandWrite (task : TaskWrapper) (msg : CommandMessage) : Option (Nat × List β) :=
  (task.body.onCommand (β := β) msg).map fun _ =>
    (task.pdowriteOffset.toNat, (task.body.commandBytes msg).map (Cell.store .command))

theorem initValueOf_eq (task : TaskWrapper) (v : ByteVec β) :
    initValueOf task v = v.copyIn (initWrite (β := β) task).1 (initWrite task).2 := by
  unfold initValueOf ByteVec.copyIn initWrite
  congr 1
  exact task.store_eq _ (initValue_writes task.body) v.storage

theorem onCommandOf_eq (task : TaskWrapper) (msg : CommandMessage) (v : ByteVec β) :
    onCommandOf task msg v = v.copyAll (commandWrite task msg).toList := by
  unfold onCommandOf commandWrite
  split
  case h_1 unsubscribed =>
    rw [unsubscribed]
    rfl
  case h_2 handler subscribed =>
    have stored := task.store_eq (Cell.store .command) (onCommand_writes task.body msg subscribed) v.storage
    simp only [subscribed, Option.map_some, Option.toList_some, stored]
    rfl

theorem foldl_initValueOf (tasks : List TaskWrapper) (chosen : TaskWrapper → Prop) [DecidablePred chosen]
    (v : ByteVec β) :
    tasks.foldl (fun buf task => if chosen task then initValueOf task buf else buf) v =
      v.copyAll ((tasks.filter chosen).map initWrite) := by
  induction tasks generalizing v with
  | nil => rfl
  | cons task tasks ih =>
    rw [List.foldl_cons, ih, List.filter_cons]
    by_cases taken : chosen task
    · simp only [taken, if_true, decide_true, List.map_cons, ByteVec.copyAll_cons, initValueOf_eq]
    · simp only [taken, if_false, decide_false, Bool.false_eq_true]

def subscriberWrites (d : SlaveDevice β) : List (Nat × List β) :=
  (d.taskList.filter fun task => task.body.hasSubscribers).map initWrite

def lostWrites (d : SlaveDevice β) : List (Nat × List β) :=
  (d.taskList.filter fun task => task.connectionLostWriteAction = 0x02).map initWrite

def zeroFill (d : SlaveDevice β) : List β :=
  List.replicate d.masterToSlaveBufLen.toNat (Cell.store .zeroFill 0)

def initialised (d : SlaveDevice β) (v : ByteVec β) : ByteVec β :=
  (v.copyIn 0 d.zeroFill).copyAll d.subscriberWrites

theorem writeInitValues_eq (d : SlaveDevice β) :
    d.writeInitValues = { d with masterToSlaveBuf := d.initialised d.masterToSlaveBuf } := by
  unfold writeInitValues initialised
  simp only [foldl_initValueOf, Bool.decide_eq_true, subscriberWrites, zeroFill]

def lostBuffer (d : SlaveDevice β) : ByteVec β := d.masterToSlaveBuf.copyAll d.lostWrites

/-- The backup that is taken of it. -/
def lostBackup (d : SlaveDevice β) : ByteVec β :=
  (d.masterToSlaveBufBackup.clear.resize d.masterToSlaveBufLen.toNat (Cell.store .allocation 0)).copyIn 0
    (d.lostBuffer.storage.take d.masterToSlaveBufLen.toNat)

theorem connectionLost_eq (d : SlaveDevice β) :
    d.connectionLost.1 =
      { d with
        isReady := false
        isConfRosDone := false
        slaveStatus := SLAVE_INITIALIZING
        masterToSlaveBuf := d.lostBuffer
        masterToSlaveBufBackup := d.lostBackup } := by
  unfold connectionLost onConnectionLost resetState backupMasterToSlaveBuf lostBackup lostBuffer
  simp only [foldl_initValueOf, lostWrites]
  rfl

def messageWrites (d : SlaveDevice β) (task : Nat) (msg : CommandMessage) : List (Nat × List β) :=
  (d.taskList[task]?.bind (commandWrite · msg)).toList

theorem onCommand_eq (d : SlaveDevice β) (task : Nat) (msg : CommandMessage) :
    d.onCommand task msg =
      { d with masterToSlaveBuf := d.masterToSlaveBuf.copyAll (d.messageWrites task msg) } := by
  unfold onCommand messageWrites
  cases d.taskList[task]? with
  | none => rfl
  | some wrapper => simp only [onCommandOf_eq, Option.bind_some]

end Cells

theorem recoverMasterToSlaveBuf_eq (d : SlaveDevice β) :
    d.recoverMasterToSlaveBuf =
      { d with masterToSlaveBuf :=
          if d.masterToSlaveBufBackup.size = d.masterToSlaveBufLen.toNat then
            d.masterToSlaveBuf.copyIn 0 d.backupArea
          else d.masterToSlaveBuf } := by
  unfold recoverMasterToSlaveBuf
  by_cases same : d.masterToSlaveBufBackup.size = d.masterToSlaveBufLen.toNat <;> simp [same]

theorem confirmReady_eq (d : SlaveDevice β) :
    d.confirmReady = { d with isReady := d.isReady || d.slaveStatus == SLAVE_CONFIRM_READY } := by
  unfold confirmReady
  split
  case isTrue confirmed => simp [confirmed]
  case isFalse same =>
    rw [show (d.isReady || d.slaveStatus == SLAVE_CONFIRM_READY) = d.isReady by
      cases ready : d.isReady <;> simp_all]

def lastEchoed (d : SlaveDevice β) : Bool := d.echoed && d.sendingArgBufIdx == d.argBufLen

def nextArgIdx (d : SlaveDevice β) : UInt16 :=
  if d.echoed && d.sendingArgBufIdx != d.argBufLen then d.sendingArgBufIdx + 1 else d.sendingArgBufIdx

theorem nextArgIdx_within {d : SlaveDevice β} (low : 1 ≤ d.sendingArgBufIdx.toNat)
    (high : d.sendingArgBufIdx.toNat ≤ d.argBufLen.toNat) :
    1 ≤ d.nextArgIdx.toNat ∧ d.nextArgIdx.toNat ≤ d.argBufLen.toNat := by
  have bound := d.argBufLen.toNat_lt
  unfold nextArgIdx
  split
  case isTrue moves =>
    simp only [Bool.and_eq_true, bne_iff_ne, ne_eq, ← UInt16.toNat_inj] at moves
    have exact : (d.sendingArgBufIdx + 1).toNat = d.sendingArgBufIdx.toNat + 1 := by
      rw [UInt16.toNat_add]
      exact Nat.mod_eq_of_lt (by simp; omega)
    omega
  case isFalse stays => exact ⟨low, high⟩

theorem acceptEcho_eq (d : SlaveDevice β) :
    d.acceptEcho = { d with isArgSent := d.isArgSent || d.lastEchoed, sendingArgBufIdx := d.nextArgIdx } := by
  unfold acceptEcho lastEchoed nextArgIdx
  cases d.echoed with
  | false => simp
  | true =>
    by_cases last : d.sendingArgBufIdx = d.argBufLen <;> simp [last]

section Cells
variable [Cell β]

def argWrites (d : SlaveDevice β) : List (Nat × List β) :=
  if d.isArgSent || d.lastEchoed then []
  else [(0, (d.argTriple d.nextArgIdx).map (Cell.store .argument))]

theorem sendArg_eq (d : SlaveDevice β) :
    d.sendArg =
      { d with
        isArgSent := d.isArgSent || d.lastEchoed
        sendingArgBufIdx := d.nextArgIdx
        masterToSlaveBuf := d.masterToSlaveBuf.copyAll d.argWrites } := by
  unfold sendArg storeArg argWrites
  rw [acceptEcho_eq]
  dsimp only
  cases d.isArgSent || d.lastEchoed <;> rfl

end Cells

/-- The second block of the processing block is entered. -/
def sending (d : SlaveDevice β) : Bool := d.masterStatus == MASTER_SENDING_ARGUMENTS && !d.isArgSent

def argSentAfter (d : SlaveDevice β) : Bool := d.isArgSent || d.sending && d.lastEchoed

def argIdxAfter (d : SlaveDevice β) : UInt16 := if d.sending then d.nextArgIdx else d.sendingArgBufIdx

section Cells
variable [Cell β]

def sendingWrites (d : SlaveDevice β) : List (Nat × List β) := if d.sending then d.argWrites else []

theorem sendingArgs_eq (d : SlaveDevice β) :
    d.sendingArgs =
      { d with
        isArgSent := d.argSentAfter
        sendingArgBufIdx := d.argIdxAfter
        masterToSlaveBuf := d.masterToSlaveBuf.copyAll d.sendingWrites } := by
  unfold sendingArgs argSentAfter argIdxAfter sendingWrites
  split
  case isTrue entered =>
    have enabled : d.sending = true := by simpa [sending] using entered
    rw [sendArg_eq]
    simp only [enabled, Bool.true_and, if_true]
  case isFalse skipped =>
    have disabled : d.sending = false := by simpa [sending] using skipped
    simp only [disabled, Bool.false_and, Bool.or_false, Bool.false_eq_true, if_false]
    rfl

/-- The slave works, or confirms in this cycle that it does. -/
def readyAfter (d : SlaveDevice β) : Bool := d.isReady || d.slaveStatus == SLAVE_CONFIRM_READY

def handshakes (d : SlaveDevice β) : Bool :=
  !d.readyAfter && d.argSentAfter && d.slaveStatus == SLAVE_READY

/-- The buffer after the handshake. -/
def restored (d : SlaveDevice β) (v : ByteVec β) : ByteVec β :=
  if d.masterStatus = MASTER_READY then v
  else if d.reconnectedTimes = 0 then d.initialised v
  else if d.masterToSlaveBufBackup.size = d.masterToSlaveBufLen.toNat then v.copyIn 0 d.backupArea
  else v

def restoreEvents (d : SlaveDevice β) : List Event :=
  if d.masterStatus = MASTER_READY then []
  else if d.reconnectedTimes = 0 then [.writeInitValues]
  else [.recoverMasterToSlaveBuf]

theorem restore_eq (d : SlaveDevice β) :
    d.restore = ({ d with masterToSlaveBuf := d.restored d.masterToSlaveBuf }, d.restoreEvents) := by
  unfold restore restored restoreEvents
  split
  · rfl
  · split
    · rw [writeInitValues_eq]
    · rw [recoverMasterToSlaveBuf_eq]

/-- The status byte that the latency counter starts from in this cycle. -/
def statusBefore (d : SlaveDevice β) : UInt8 := if d.handshakes then MASTER_READY else d.masterStatus

def counts (d : SlaveDevice β) : Bool := d.readyAfter && d.slaveStatus == d.statusBefore

def statusAfter (d : SlaveDevice β) : UInt8 :=
  if d.counts then nextMasterStatus d.statusBefore else d.statusBefore

def bufferAfter (d : SlaveDevice β) : ByteVec β :=
  let sent := d.masterToSlaveBuf.copyAll d.sendingWrites
  if d.handshakes then d.restored sent else sent

def pdoEvents (currentTime : Int) (d : SlaveDevice β) : List Event :=
  if d.counts then
    [.processPdo, .latency (currentTime - d.lastLatencyCheckPacketSendTime)]
      ++ (if d.statusAfter = MASTER_READY then [.masterReady .counter] else [])
      ++ readEvents d.lastLatencyCheckPacketSendTime d.taskList
  else [.processPdo]

theorem handshake_eq (d : SlaveDevice β) :
    d.confirmReady.sendingArgs.handshake =
      ({ d with
          isReady := d.readyAfter
          isArgSent := d.argSentAfter
          sendingArgBufIdx := d.argIdxAfter
          masterStatus := d.statusBefore
          masterToSlaveBuf := d.bufferAfter },
        if d.handshakes then d.restoreEvents ++ [.masterReady .handshake] else []) := by
  rw [confirmReady_eq, sendingArgs_eq]
  unfold handshake statusBefore bufferAfter
  simp only [restore_eq]
  cases taken : d.handshakes with
  | true => exact if_pos taken
  | false => exact if_neg (Bool.eq_false_iff.mp taken)

/-- One pass of the processing block over a configured device. -/
theorem process_eq (d : SlaveDevice β) (currentTime : Int) (configured : d.isConfigured = true) :
    d.process currentTime =
      ({ d with
          isReady := d.readyAfter
          isArgSent := d.argSentAfter
          sendingArgBufIdx := d.argIdxAfter
          masterStatus := d.statusAfter
          masterToSlaveBuf := d.bufferAfter
          currentDataStamp := if d.counts then d.lastLatencyCheckPacketSendTime else d.currentDataStamp
          lastLatencyCheckPacketSendTime :=
            if d.counts then currentTime else d.lastLatencyCheckPacketSendTime },
        (if d.handshakes then d.restoreEvents ++ [.masterReady .handshake] else [])
          ++ if d.readyAfter then d.pdoEvents currentTime else []) := by
  unfold process runPdo processPdo statusAfter pdoEvents counts statusAfter counts
  simp only [configured, if_true, handshake_eq]
  cases d.readyAfter with
  | false => simp
  | true =>
    by_cases same : d.slaveStatus = d.statusBefore
    · simp [same]
    · simp [same]

omit [Cell β] in
/-- A handshake is taken by a slave that is not ready, so the counter rests in that cycle. -/
theorem handshakes_waiting {d : SlaveDevice β} (taken : d.handshakes = true) : d.readyAfter = false := by
  unfold handshakes at taken
  simp only [Bool.and_eq_true, Bool.not_eq_true'] at taken
  exact taken.1.1

omit [Cell β] in
theorem handshakes_statusAfter {d : SlaveDevice β} (taken : d.handshakes = true) : d.statusAfter = MASTER_READY := by
  simp [statusAfter, counts, statusBefore, taken, handshakes_waiting taken]

theorem sendingWrites_handshake {d : SlaveDevice β} (taken : d.handshakes = true) : d.sendingWrites = [] := by
  unfold handshakes argSentAfter at taken
  simp only [Bool.and_eq_true, Bool.or_eq_true] at taken
  unfold sendingWrites argWrites
  rcases taken.1.2 with sent | ⟨_, last⟩
  · simp [sent]
  · simp [last]

theorem sendingWrites_ready {d : SlaveDevice β} (ready : MASTER_READY ≤ d.masterStatus) :
    d.sendingWrites = [] := by
  have other : d.masterStatus ≠ MASTER_SENDING_ARGUMENTS := fun sending => not_ready_of_sending sending ready
  simp [sendingWrites, sending, other]

theorem process_unconfigured (d : SlaveDevice β) (currentTime : Int) (skipped : d.isConfigured = false) :
    d.process currentTime = (d, []) := by
  unfold process
  rw [skipped]
  rfl

/-! ## The outcomes of `init` -/

def openedBuffer (d : SlaveDevice β) (eepId : UInt32) : ByteVec β :=
  (d.masterToSlaveBuf.clear.resize (registeredModule eepId).masterToSlaveBufLen.toNat
    (Cell.store .allocation 0)).clear

def openedInputs (d : SlaveDevice β) (eepId : UInt32) : ByteVec UInt8 :=
  (d.slaveToMasterBuf.clear.resize (registeredModule eepId).slaveToMasterBufLen.toNat 0).clear

theorem configure_eq (oldSn eepId : UInt32) (sdoLen : UInt16) (d : SlaveDevice β) :
    d.configure oldSn eepId sdoLen =
      { d with
        masterStatus := if sdoLen = 0 then MASTER_READY else MASTER_SENDING_ARGUMENTS
        masterToSlaveBuf := if oldSn = 0 then d.openedBuffer eepId else d.masterToSlaveBuf
        masterToSlaveBufLen :=
          if oldSn = 0 then (registeredModule eepId).masterToSlaveBufLen else d.masterToSlaveBufLen
        slaveToMasterBuf := if oldSn = 0 then d.openedInputs eepId else d.slaveToMasterBuf
        slaveToMasterBufLen :=
          if oldSn = 0 then (registeredModule eepId).slaveToMasterBufLen else d.slaveToMasterBufLen
        isEcatConfDone := true } := by
  unfold configure
  by_cases first : oldSn = 0
  · simp only [first, if_true]
    rfl
  · simp only [first, if_false]

/-- The board is the one that was recorded before, or the first one. -/
def SameBoard (d : SlaveDevice β) (call : InitCall) : Prop := d.sn = 0 ∨ d.readSn call = d.sn

omit [Cell β] in
theorem not_sameBoard_iff (d : SlaveDevice β) (call : InitCall) :
    (d.sn ≠ 0 ∧ d.sn ≠ d.readSn call) ↔ ¬d.SameBoard call := by
  unfold SameBoard
  rw [not_or, ne_comm (a := d.sn) (b := d.readSn call)]

/-- A call ends in one of three ways: another serial number, an old revision or a missing
entry, or acceptance. -/
theorem init_cases (data : ConfigurationParser) (call : InitCall) (d : SlaveDevice β) :
    (¬d.SameBoard call ∧
      d.init data call = (false, { d with swRev := readSwRev call, isRecoverRejected := true })) ∨
    (d.SameBoard call ∧ ∃ passed,
      d.init data call =
        (false, { d with
          sn := d.readSn call
          swRev := readSwRev call
          isRecoverRejected := false
          isSwRevCheckPassed := passed })) ∨
    (d.SameBoard call ∧ ∃ sdoLen, sdoLenOf data (d.readSn call) = .ok sdoLen ∧
      d.init data call =
        (true, { d with
          sn := d.readSn call
          swRev := readSwRev call
          isRecoverRejected := false
          isSwRevCheckPassed := true
          masterStatus := if sdoLen = 0 then MASTER_READY else MASTER_SENDING_ARGUMENTS
          masterToSlaveBuf := if d.sn = 0 then d.openedBuffer call.eepId else d.masterToSlaveBuf
          masterToSlaveBufLen :=
            if d.sn = 0 then (registeredModule call.eepId).masterToSlaveBufLen else d.masterToSlaveBufLen
          slaveToMasterBuf := if d.sn = 0 then d.openedInputs call.eepId else d.slaveToMasterBuf
          slaveToMasterBufLen :=
            if d.sn = 0 then (registeredModule call.eepId).slaveToMasterBufLen else d.slaveToMasterBufLen
          isEcatConfDone := true })) := by
  have other := not_sameBoard_iff d call
  unfold init
  by_cases same : d.SameBoard call
  · simp only [other, same, not_true_eq_false, if_false, false_and, true_and, false_or]
    split
    · exact Or.inl ⟨d.isSwRevCheckPassed, rfl⟩
    · split
      case h_1 missing => exact Or.inl ⟨true, rfl⟩
      case h_2 sdoLen found =>
        rw [configure_eq]
        exact Or.inr ⟨sdoLen, found, rfl⟩
  · simp only [other, same, not_false_eq_true, if_true, true_and]
    exact Or.inl trivial

/-- What `init` checks: the board, its revision and the length of its arguments. -/
def AcceptsBoard (data : ConfigurationParser) (d : SlaveDevice β) (call : InitCall) : Prop :=
  d.SameBoard call ∧ (registeredModule call.eepId).minSwRev ≤ readSwRev call ∧
    ∃ sdoLen, sdoLenOf data (d.readSn call) = .ok sdoLen

theorem init_accepts_iff (data : ConfigurationParser) (d : SlaveDevice β) (call : InitCall) :
    (d.init data call).1 = true ↔ d.AcceptsBoard data call := by
  have other := not_sameBoard_iff d call
  unfold init AcceptsBoard
  by_cases same : d.SameBoard call
  · simp only [other, same, not_true_eq_false, if_false, true_and]
    split
    case isTrue old => simp [Int.not_le.mpr old]
    case isFalse recent =>
      have allowed : (registeredModule call.eepId).minSwRev ≤ readSwRev call := Int.not_lt.mp recent
      simp only [allowed, true_and]
      split
      case h_1 missing => simp [missing]
      case h_2 sdoLen found => simp [found]
  · simp only [other, same, not_false_eq_true, if_true, false_and, Bool.false_eq_true]

theorem init_sn_fresh {d : SlaveDevice β} (fresh : d.sn = 0) (data : ConfigurationParser) (call : InitCall) :
    (d.init data call).2.sn = d.readSn call := by
  rcases init_cases data call d with ⟨other, _⟩ | ⟨_, _, outcome⟩ | ⟨_, _, _, outcome⟩
  · exact absurd (Or.inl fresh) other
  · rw [outcome]
  · rw [outcome]

theorem init_passed {data : ConfigurationParser} {call : InitCall} {d : SlaveDevice β}
    (unchecked : d.isSwRevCheckPassed = false) (passed : (d.init data call).2.isSwRevCheckPassed = true) :
    (registeredModule call.eepId).minSwRev ≤ readSwRev call := by
  by_contra old
  have kept : (d.init data call).2.isSwRevCheckPassed = d.isSwRevCheckPassed := by
    unfold init
    dsimp only
    split
    · rfl
    · rw [if_pos (Int.not_le.mp old)]
  rw [kept, unchecked] at passed
  cases passed

/-- A call leaves the process data vectors alone, or it opens them for the module: in a first
configuration that is accepted. -/
theorem init_vectors (data : ConfigurationParser) (call : InitCall) (d : SlaveDevice β) :
    ((d.init data call).2.masterToSlaveBuf = d.masterToSlaveBuf ∧
      (d.init data call).2.masterToSlaveBufLen = d.masterToSlaveBufLen ∧
      (d.init data call).2.slaveToMasterBuf = d.slaveToMasterBuf ∧
      (d.init data call).2.slaveToMasterBufLen = d.slaveToMasterBufLen) ∨
    (d.sn = 0 ∧ (d.init data call).1 = true ∧
      (d.init data call).2.masterToSlaveBuf = d.openedBuffer call.eepId ∧
      (d.init data call).2.masterToSlaveBufLen = (registeredModule call.eepId).masterToSlaveBufLen ∧
      (d.init data call).2.slaveToMasterBuf = d.openedInputs call.eepId ∧
      (d.init data call).2.slaveToMasterBufLen = (registeredModule call.eepId).slaveToMasterBufLen) := by
  rcases init_cases data call d with ⟨_, outcome⟩ | ⟨_, _, outcome⟩ | ⟨_, _, _, outcome⟩
  · rw [outcome]
    exact Or.inl ⟨rfl, rfl, rfl, rfl⟩
  · rw [outcome]
    exact Or.inl ⟨rfl, rfl, rfl, rfl⟩
  · rw [outcome]
    by_cases first : d.sn = 0
    · exact Or.inr ⟨first, rfl, if_pos first, if_pos first, if_pos first, if_pos first⟩
    · exact Or.inl ⟨if_neg first, if_neg first, if_neg first, if_neg first⟩

theorem init_isEcatConfDone (data : ConfigurationParser) (call : InitCall) (d : SlaveDevice β) :
    (d.init data call).2.isEcatConfDone = (d.isEcatConfDone || (d.init data call).1) := by
  rcases init_cases data call d with ⟨_, outcome⟩ | ⟨_, _, outcome⟩ | ⟨_, _, _, outcome⟩ <;> simp [outcome]

theorem configured_eq {data : ConfigurationParser} {d : SlaveDevice β} (configured : Configured data d) :
    ∃ (call : InitCall) (sn : UInt32) (sdoLen : UInt16) (argBuf : List UInt8) (taskList : List TaskWrapper),
      sdoLenOf data sn = .ok sdoLen ∧ argBuf.length = sdoLen.toNat ∧
      d = { (new : SlaveDevice β) with
        sn, swRev := readSwRev call, isSwRevCheckPassed := true
        masterStatus := if sdoLen = 0 then MASTER_READY else MASTER_SENDING_ARGUMENTS
        masterToSlaveBuf := (new : SlaveDevice β).openedBuffer call.eepId
        masterToSlaveBufLen := (registeredModule call.eepId).masterToSlaveBufLen
        slaveToMasterBuf := (new : SlaveDevice β).openedInputs call.eepId
        slaveToMasterBufLen := (registeredModule call.eepId).slaveToMasterBufLen
        isEcatConfDone := true, isConfRosDone := true
        argBufLen := sdoLen, argBuf, taskList } := by
  obtain ⟨call, opened, accepted, returned⟩ := configured
  rcases init_cases data call (new : SlaveDevice β) with ⟨_, outcome⟩ | ⟨_, _, outcome⟩ | ⟨_, sdoLen, found, outcome⟩
  · rw [outcome] at accepted
    cases accepted
  · rw [outcome] at accepted
    cases accepted
  · rw [outcome] at accepted
    obtain ⟨_, rfl⟩ := Prod.mk.inj accepted
    rcases initTaskList_cases returned with ⟨unfinished, _⟩ | ⟨_, argBufLen, _, taskList, s, again, _, filled, rfl⟩
    · cases unfinished
    · -- Both calls look the length up under the serial number that the first one has read.
      have same : sdoLen = argBufLen := Except.ok.inj (found.symm.trans again)
      refine ⟨call, _, sdoLen, s.buf, taskList, found, ?_, by rw [← same]; rfl⟩
      rw [length_initTasks filled, same]
      simp

/-- The storage of the output buffer covers what is transferred. -/
def Allocated (d : SlaveDevice β) : Prop := d.masterToSlaveBufLen.toNat ≤ d.masterToSlaveBuf.storage.length

theorem configured_allocated {data : ConfigurationParser} {d : SlaveDevice β} (configured : Configured data d) :
    d.Allocated := by
  obtain ⟨call, sn, sdoLen, argBuf, taskList, _, _, rfl⟩ := configured_eq configured
  exact ByteVec.le_storage_resize _ _ _

/-! ## The next device, step by step -/

theorem next_process {data : ConfigurationParser} {d : SlaveDevice β} {currentTime : Int}
    (configured : d.isConfigured = true) :
    next data d (.process currentTime) =
      { d with
        isReady := d.readyAfter
        isArgSent := d.argSentAfter
        sendingArgBufIdx := d.argIdxAfter
        masterStatus := d.statusAfter
        masterToSlaveBuf := d.bufferAfter
        currentDataStamp := if d.counts then d.lastLatencyCheckPacketSendTime else d.currentDataStamp
        lastLatencyCheckPacketSendTime :=
          if d.counts then currentTime else d.lastLatencyCheckPacketSendTime } := by
  rw [next, step, process_eq _ _ configured]

theorem next_process_skipped {data : ConfigurationParser} {d : SlaveDevice β} {currentTime : Int}
    (skipped : d.isConfigured = false) : next data d (.process currentTime) = d := by
  rw [next, step, process_unconfigured _ _ skipped]

theorem next_exitReset (data : ConfigurationParser) (d : SlaveDevice β) :
    next data d .exitReset =
      { d with masterToSlaveBuf :=
          if d.isArgSent then d.initialised d.masterToSlaveBuf else d.masterToSlaveBuf } := by
  rw [next, step, exitReset, writeInitValues_eq]
  split <;> rfl

theorem next_connectionLost (data : ConfigurationParser) (d : SlaveDevice β) :
    next data d .connectionLost =
      { d with
        isReady := false
        isConfRosDone := false
        slaveStatus := SLAVE_INITIALIZING
        masterToSlaveBuf := d.lostBuffer
        masterToSlaveBufBackup := d.lostBackup } := by
  rw [next, step, connectionLost_eq]

theorem next_onCommand (data : ConfigurationParser) (d : SlaveDevice β) (task : Nat) (msg : CommandMessage) :
    next data d (.onCommand task msg) =
      { d with masterToSlaveBuf := d.masterToSlaveBuf.copyAll (d.messageWrites task msg) } := by
  rw [next, step, onCommand_eq]

omit [Cell β] in
/-- What no step but `init` changes: the configuration and the extent of the buffers. -/
structure Kept (d d' : SlaveDevice β) : Prop where
  sn : d'.sn = d.sn
  isEcatConfDone : d'.isEcatConfDone = d.isEcatConfDone
  argBuf : d'.argBuf = d.argBuf
  argBufLen : d'.argBufLen = d.argBufLen
  taskList : d'.taskList = d.taskList
  outputLen : d'.masterToSlaveBufLen = d.masterToSlaveBufLen
  outputSize : d'.masterToSlaveBuf.size = d.masterToSlaveBuf.size
  outputStorage : d'.masterToSlaveBuf.storage.length = d.masterToSlaveBuf.storage.length
  inputLen : d'.slaveToMasterBufLen = d.slaveToMasterBufLen
  inputSize : d'.slaveToMasterBuf.size = d.slaveToMasterBuf.size
  inputStorage : d'.slaveToMasterBuf.storage.length = d.slaveToMasterBuf.storage.length

omit [Cell β] in
theorem Kept.refl (d : SlaveDevice β) : Kept d d := ⟨rfl, rfl, rfl, rfl, rfl, rfl, rfl, rfl, rfl, rfl, rfl⟩

omit [Cell β] in
theorem Kept.trans {d e f : SlaveDevice β} (first : Kept d e) (later : Kept e f) : Kept d f where
  sn := later.sn.trans first.sn
  isEcatConfDone := later.isEcatConfDone.trans first.isEcatConfDone
  argBuf := later.argBuf.trans first.argBuf
  argBufLen := later.argBufLen.trans first.argBufLen
  taskList := later.taskList.trans first.taskList
  outputLen := later.outputLen.trans first.outputLen
  outputSize := later.outputSize.trans first.outputSize
  outputStorage := later.outputStorage.trans first.outputStorage
  inputLen := later.inputLen.trans first.inputLen
  inputSize := later.inputSize.trans first.inputSize
  inputStorage := later.inputStorage.trans first.inputStorage

theorem initialised_extent (d : SlaveDevice β) (v : ByteVec β) :
    (d.initialised v).size = v.size ∧ (d.initialised v).storage.length = v.storage.length := by
  simp [initialised]

theorem bufferAfter_extent (d : SlaveDevice β) :
    d.bufferAfter.size = d.masterToSlaveBuf.size ∧
      d.bufferAfter.storage.length = d.masterToSlaveBuf.storage.length := by
  unfold bufferAfter restored
  split_ifs <;> simp [initialised_extent]

theorem next_kept (data : ConfigurationParser) (d : SlaveDevice β) {s : Step} (noInit : ∀ call, s ≠ .init call) :
    Kept d (next data d s) := by
  cases s with
  | init call => exact absurd rfl (noInit call)
  | receiveFromSlave inputs =>
    have storage : (next data d (.receiveFromSlave inputs)).slaveToMasterBuf.storage.length =
        d.slaveToMasterBuf.storage.length := length_overwrite _ _ _
    exact { Kept.refl d with inputStorage := storage }
  | connectionLost =>
    rw [next_connectionLost]
    exact { Kept.refl d with outputStorage := length_overwriteAll _ _ }
  | onCommand task msg =>
    rw [next_onCommand]
    exact { Kept.refl d with outputStorage := length_overwriteAll _ _ }
  | exitReset =>
    rw [next_exitReset]
    cases d.isArgSent with
    | false => exact { Kept.refl d with }
    | true =>
      obtain ⟨size, storage⟩ := d.initialised_extent d.masterToSlaveBuf
      exact { Kept.refl d with outputSize := size, outputStorage := storage }
  | process currentTime =>
    cases configured : d.isConfigured with
    | false =>
      rw [next_process_skipped configured]
      exact Kept.refl d
    | true =>
      obtain ⟨size, storage⟩ := d.bufferAfter_extent
      rw [next_process configured]
      exact { Kept.refl d with outputSize := size, outputStorage := storage }
  | _ => exact { Kept.refl d with }

omit [Cell β] in
theorem process_or_init (s : Step) :
    (∃ currentTime, s = .process currentTime) ∨ (∃ call, s = .init call) ∨
      ((∀ currentTime, s ≠ .process currentTime) ∧ ∀ call, s ≠ .init call) := by
  cases s with
  | process currentTime => exact Or.inl ⟨currentTime, rfl⟩
  | init call => exact Or.inr (Or.inl ⟨call, rfl⟩)
  | _ => exact Or.inr (Or.inr ⟨fun _ => Step.noConfusion, fun _ => Step.noConfusion⟩)

theorem next_quiet (data : ConfigurationParser) (d : SlaveDevice β) {s : Step}
    (noProcess : ∀ currentTime, s ≠ .process currentTime) (noInit : ∀ call, s ≠ .init call) :
    (next data d s).masterStatus = d.masterStatus ∧
      (next data d s).lastLatencyCheckPacketSendTime = d.lastLatencyCheckPacketSendTime := by
  cases s with
  | init call => exact absurd rfl (noInit call)
  | process currentTime => exact absurd rfl (noProcess currentTime)
  | connectionLost =>
    rw [next_connectionLost]
    exact ⟨rfl, rfl⟩
  | onCommand task msg =>
    rw [next_onCommand]
    exact ⟨rfl, rfl⟩
  | exitReset =>
    rw [next_exitReset]
    exact ⟨rfl, rfl⟩
  | _ => exact ⟨rfl, rfl⟩

-- The storage is only written over, until a first configuration replaces it.
theorem next_allocated (data : ConfigurationParser) {d : SlaveDevice β} (s : Step) (allocated : d.Allocated) :
    (next data d s).Allocated := by
  by_cases calls : ∃ call, s = .init call
  case neg =>
    have kept := next_kept data d (not_exists.mp calls)
    rwa [Allocated, kept.outputLen, kept.outputStorage]
  case pos =>
    obtain ⟨call, rfl⟩ := calls
    rw [Allocated, next, step]
    rcases init_vectors data call d with ⟨buffer, length, _, _⟩ | ⟨_, _, buffer, length, _, _⟩
    · rw [buffer, length]
      exact allocated
    · rw [buffer, length]
      exact ByteVec.le_storage_resize _ _ _

theorem next_setUp (data : ConfigurationParser) (d : SlaveDevice β) (s : Step) :
    (next data d s).argBuf = d.argBuf ∧ (next data d s).argBufLen = d.argBufLen ∧
      (next data d s).taskList = d.taskList := by
  by_cases calls : ∃ call, s = .init call
  case neg =>
    have kept := next_kept data d (not_exists.mp calls)
    exact ⟨kept.argBuf, kept.argBufLen, kept.taskList⟩
  case pos =>
    obtain ⟨call, rfl⟩ := calls
    rw [next, step]
    rcases init_cases data call d with ⟨_, outcome⟩ | ⟨_, _, outcome⟩ | ⟨_, sdoLen, _, outcome⟩
    all_goals
      rw [outcome]
      exact ⟨rfl, rfl, rfl⟩

omit [Cell β] in
/-- The backup is taken on a lost connection only, and the length of the buffer changes only in
a first configuration. -/
def KeepsBackup (d : SlaveDevice β) : Step → Prop
  | .connectionLost => False
  | .init _ => d.sn ≠ 0
  | _ => True

theorem next_backup (data : ConfigurationParser) {d : SlaveDevice β} {s : Step} (keeps : d.KeepsBackup s) :
    (next data d s).masterToSlaveBufBackup = d.masterToSlaveBufBackup ∧
      (next data d s).masterToSlaveBufLen = d.masterToSlaveBufLen := by
  cases s with
  | connectionLost => exact keeps.elim
  | onCommand task msg =>
    rw [next_onCommand]
    exact ⟨rfl, rfl⟩
  | exitReset =>
    rw [next_exitReset]
    exact ⟨rfl, rfl⟩
  | process currentTime =>
    cases configured : d.isConfigured with
    | false =>
      rw [next_process_skipped configured]
      exact ⟨rfl, rfl⟩
    | true =>
      rw [next_process configured]
      exact ⟨rfl, rfl⟩
  | init call =>
    have known : d.sn ≠ 0 := keeps
    rw [next, step]
    rcases init_cases data call d with ⟨_, outcome⟩ | ⟨_, _, outcome⟩ | ⟨_, sdoLen, _, outcome⟩
    all_goals
      rw [outcome]
      simp [known]
  | _ => exact ⟨rfl, rfl⟩

omit [Cell β] in
theorem mem_readEvents {event : Event} {stamp : Int} {tasks : List TaskWrapper}
    (member : event ∈ readEvents stamp tasks) : ∃ task, event = .read task stamp := by
  obtain ⟨⟨task, i⟩, _, read⟩ := List.mem_filterMap.mp member
  dsimp only at read
  split at read <;> cases read
  exact ⟨i, rfl⟩

omit [Cell β] in
/-- What `process_pdo` does besides the status byte: it measures, counts and reads. -/
theorem mem_pdoEvents {event : Event} {currentTime : Int} {d : SlaveDevice β}
    (member : event ∈ d.pdoEvents currentTime) :
    event = .processPdo ∨ (∃ nanoseconds, event = .latency nanoseconds) ∨ event = .masterReady .counter ∨
      ∃ task stamp, event = .read task stamp := by
  unfold pdoEvents at member
  split at member
  · rcases List.mem_append.mp member with measured | read
    · rcases List.mem_append.mp measured with fixed | counted
      · simp only [List.mem_cons, List.not_mem_nil, or_false] at fixed
        rcases fixed with processed | latency
        · exact Or.inl processed
        · exact Or.inr (Or.inl ⟨_, latency⟩)
      · split at counted
        · exact Or.inr (Or.inr (Or.inl (List.mem_singleton.mp counted)))
        · cases counted
    · obtain ⟨task, same⟩ := mem_readEvents read
      exact Or.inr (Or.inr (Or.inr ⟨task, _, same⟩))
  · exact Or.inl (List.mem_singleton.mp member)

omit [Cell β] in
theorem frame_not_pdo (frame : Frame) (currentTime : Int) (d : SlaveDevice β) :
    Event.frame frame ∉ d.pdoEvents currentTime := by
  intro emitted
  rcases mem_pdoEvents emitted with same | ⟨_, same⟩ | same | ⟨_, _, same⟩ <;> cases same

omit [Cell β] in
theorem frame_not_restored (frame : Frame) (d : SlaveDevice β) : Event.frame frame ∉ d.restoreEvents := by
  unfold restoreEvents
  split
  · simp
  · split <;> simp

/-- What the steps outside the processing block emit. -/
theorem emitted_cases {data : ConfigurationParser} {d : SlaveDevice β} {s : Step} {event : Event}
    (emitted : event ∈ (d.step data s).2) :
    (∃ currentTime, s = .process currentTime) ∨ (s = .transferToSlave ∧ event = .frame d.transferToSlave) ∨
      event = .writeInitValues ∨ (∃ accepted, event = .initReturned accepted) ∨ event = .masterReady .init ∨
      ∃ task, event = .publishEmptyMessage task := by
  cases s with
  | process currentTime => exact Or.inl ⟨currentTime, rfl⟩
  | transferToSlave => exact Or.inr (Or.inl ⟨rfl, List.mem_singleton.mp emitted⟩)
  | connectionLost =>
    obtain ⟨⟨task, i⟩, _, published⟩ := List.mem_filterMap.mp emitted
    dsimp only at published
    split at published <;> cases published
    simp
  | exitReset =>
    simp only [step, exitReset] at emitted
    split at emitted
    · simp_all
    · cases emitted
  | init call =>
    simp only [step, initEvents] at emitted
    split at emitted
    · rcases List.mem_cons.mp emitted with returned | ready
      · simp [returned]
      · simp [List.mem_singleton.mp ready]
    · simp [List.mem_singleton.mp emitted]
  | _ => cases emitted

theorem frame_emitted {data : ConfigurationParser} {d : SlaveDevice β} {s : Step} {frame : Frame}
    (emitted : Event.frame frame ∈ (d.step data s).2) : s = .transferToSlave ∧ frame = d.transferToSlave := by
  rcases emitted_cases emitted with ⟨currentTime, rfl⟩ | ⟨transfer, same⟩ | others
  · simp only [step] at emitted
    cases configured : d.isConfigured with
    | false =>
      rw [process_unconfigured _ _ configured] at emitted
      cases emitted
    | true =>
      rw [process_eq _ _ configured] at emitted
      rcases List.mem_append.mp emitted with handshake | pdo
      · split at handshake <;> simp [frame_not_restored] at handshake
      · split at pdo <;> simp [frame_not_pdo] at pdo
  · exact ⟨transfer, Event.frame.inj same⟩
  · simp at others

omit [Cell β] in
/-- In this cycle `process_pdo` finds the current number in the input frame. -/
def accepts (d : SlaveDevice β) : Bool := d.isConfigured && d.counts

omit [Cell β] in
theorem mem_restoreEvents {event : Event} {d : SlaveDevice β} (member : event ∈ d.restoreEvents) :
    event = .writeInitValues ∨ event = .recoverMasterToSlaveBuf := by
  unfold restoreEvents at member
  split at member
  · cases member
  · split at member
    · exact Or.inl (List.mem_singleton.mp member)
    · exact Or.inr (List.mem_singleton.mp member)

def Published (event : Event) : Prop :=
  (∃ nanoseconds, event = .latency nanoseconds) ∨ ∃ task stamp, event = .read task stamp

omit [Cell β] in
theorem published_pdo {event : Event} {currentTime : Int} {d : SlaveDevice β} (member : event ∈ d.pdoEvents currentTime)
    (published : Published event) :
    d.counts = true ∧ (event = .latency (currentTime - d.lastLatencyCheckPacketSendTime) ∨
      ∃ task, event = .read task d.lastLatencyCheckPacketSendTime) := by
  unfold pdoEvents at member
  split at member
  case isFalse =>
    rw [List.mem_singleton.mp member] at published
    simp [Published] at published
  case isTrue counts =>
    refine ⟨counts, ?_⟩
    rcases List.mem_append.mp member with measured | read
    · rcases List.mem_append.mp measured with fixed | counted
      · rcases List.mem_cons.mp fixed with rfl | latency
        · simp [Published] at published
        · exact Or.inl (List.mem_singleton.mp latency)
      · split at counted
        · rw [List.mem_singleton.mp counted] at published
          simp [Published] at published
        · cases counted
    · exact Or.inr (mem_readEvents read)

theorem published_emitted {data : ConfigurationParser} {d : SlaveDevice β} {s : Step} {event : Event}
    (emitted : event ∈ (d.step data s).2) (published : Published event) :
    ∃ currentTime, s = .process currentTime ∧ d.accepts = true ∧
      (event = .latency (currentTime - d.lastLatencyCheckPacketSendTime) ∨
        ∃ task, event = .read task d.lastLatencyCheckPacketSendTime) := by
  rcases emitted_cases emitted with ⟨currentTime, rfl⟩ | ⟨_, rfl⟩ | rfl | ⟨_, rfl⟩ | rfl | ⟨_, rfl⟩
  case inl =>
    refine ⟨currentTime, rfl, ?_⟩
    simp only [step] at emitted
    cases configured : d.isConfigured with
    | false =>
      rw [process_unconfigured _ _ configured] at emitted
      cases emitted
    | true =>
      rw [process_eq _ _ configured] at emitted
      rcases List.mem_append.mp emitted with handshake | pdo
      · split at handshake
        · rcases List.mem_append.mp handshake with restored | ready
          · rcases mem_restoreEvents restored with rfl | rfl <;> simp [Published] at published
          · rw [List.mem_singleton.mp ready] at published
            simp [Published] at published
        · cases handshake
      · split at pdo
        · obtain ⟨counts, what⟩ := published_pdo pdo published
          exact ⟨by rw [accepts, configured, counts]; rfl, what⟩
        · cases pdo
  all_goals simp [Published] at published

theorem accepts_emits (data : ConfigurationParser) {d : SlaveDevice β} (accepted : d.accepts = true)
    (currentTime : Int) :
    .latency (currentTime - d.lastLatencyCheckPacketSendTime) ∈ (d.step data (.process currentTime)).2 ∧
      ∀ event ∈ readEvents d.lastLatencyCheckPacketSendTime d.taskList,
        event ∈ (d.step data (.process currentTime)).2 := by
  obtain ⟨configured, counts⟩ := Bool.and_eq_true_iff.mp accepted
  have ready : d.readyAfter = true := (Bool.and_eq_true_iff.mp counts).1
  have inside : ∀ event ∈ d.pdoEvents currentTime, event ∈ (d.step data (.process currentTime)).2 := by
    intro event member
    rw [step, process_eq _ _ configured, if_pos ready]
    exact List.mem_append_right _ member
  have events : d.pdoEvents currentTime = _ := if_pos counts
  constructor
  · apply inside
    rw [events]
    simp
  · intro event read
    apply inside
    rw [events]
    exact List.mem_append_right _ read

end Cells

end SlaveDevice

end EcatMaster.Slave
