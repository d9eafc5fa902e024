import EcatMaster.Slave.Equations

/-! The labels of the cells are not read.

A device over labelled cells is the device over bytes with more in its command buffer:
every step commutes with forgetting the labels, and emits the same.
-/

set_option autoImplicit false

namespace EcatMaster.Tasks
open Io

theorem TaskBody.isSome_onCommand {β γ : Type} (body : TaskBody) (msg : CommandMessage) :
    (body.onCommand (β := β) msg).isSome = (body.onCommand (β := γ) msg).isSome := by
  unfold onCommand
  split <;> rfl

end EcatMaster.Tasks

namespace EcatMaster.Slave
open Library Config Tasks

namespace ByteVec
variable {β γ : Type}

def map (f : β → γ) (v : ByteVec β) : ByteVec γ := ⟨v.storage.map f, v.size, by simpa using v.size_le⟩

theorem map_copyIn (f : β → γ) (v : ByteVec β) (off : Nat) (cells : List β) :
    (v.copyIn off cells).map f = (v.map f).copyIn off (cells.map f) := by
  simp [map, copyIn, map_overwrite]

theorem map_copyAll (f : β → γ) (v : ByteVec β) (writes : List (Nat × List β)) :
    (v.copyAll writes).map f = (v.map f).copyAll (writes.map fun write => (write.1, write.2.map f)) := by
  simp [map, copyAll, map_overwriteAll]

theorem map_clear (f : β → γ) (v : ByteVec β) : v.clear.map f = (v.map f).clear := rfl

theorem map_resize (f : β → γ) (v : ByteVec β) (n : Nat) (fill : β) :
    (v.resize n fill).map f = (v.map f).resize n (f fill) := by
  have same : (v.map f).storage.length = v.storage.length := List.length_map f
  unfold resize
  by_cases fits : n ≤ v.storage.length
  · simp [map, fits, map_overwrite]
  · simp [map, fits, List.map_take]

end ByteVec

namespace SlaveDevice
variable {β : Type} [Cell β]

/-- Forget the labels. -/
def erase (d : SlaveDevice β) : SlaveDevice UInt8 where
  swRev := d.swRev
  sn := d.sn
  isSwRevCheckPassed := d.isSwRevCheckPassed
  isRecoverRejected := d.isRecoverRejected
  isReady := d.isReady
  lastLatencyCheckPacketSendTime := d.lastLatencyCheckPacketSendTime
  currentDataStamp := d.currentDataStamp
  masterStatus := d.masterStatus
  masterToSlaveBuf := d.masterToSlaveBuf.map Cell.byte
  masterToSlaveBufBackup := d.masterToSlaveBufBackup.map Cell.byte
  masterToSlaveBufLen := d.masterToSlaveBufLen
  slaveStatus := d.slaveStatus
  slaveToMasterBuf := d.slaveToMasterBuf
  slaveToMasterBufLen := d.slaveToMasterBufLen
  argBuf := d.argBuf
  argBufLen := d.argBufLen
  sendingArgBufIdx := d.sendingArgBufIdx
  isArgSent := d.isArgSent
  isEcatConfDone := d.isEcatConfDone
  isConfRosDone := d.isConfRosDone
  reconnectedTimes := d.reconnectedTimes
  taskList := d.taskList

def eraseWrites (writes : List (Nat × List β)) : List (Nat × List UInt8) :=
  writes.map fun write => (write.1, write.2.map Cell.byte)

theorem erase_stored (origin : Origin) (bytes : List UInt8) :
    (bytes.map (Cell.store (β := β) origin)).map Cell.byte = bytes.map (Cell.store origin) := by
  rw [List.map_map]
  exact List.map_congr_left fun value _ => Cell.byte_store origin value

theorem erase_initWrite (task : TaskWrapper) :
    ((initWrite (β := β) task).1, (initWrite (β := β) task).2.map Cell.byte) = initWrite task := by
  rw [initWrite, erase_stored]
  rfl

theorem erase_initWrites (tasks : List TaskWrapper) :
    eraseWrites (tasks.map (initWrite (β := β))) = tasks.map initWrite := by
  rw [eraseWrites, List.map_map]
  exact List.map_congr_left fun task _ => erase_initWrite task

theorem erase_messageWrites (d : SlaveDevice β) (task : Nat) (msg : CommandMessage) :
    eraseWrites (d.messageWrites task msg) = d.erase.messageWrites task msg := by
  have each : ∀ wrapper : TaskWrapper, (commandWrite (β := β) wrapper msg).map
      (fun write => (write.1, write.2.map Cell.byte)) = commandWrite wrapper msg := by
    intro wrapper
    have same := wrapper.body.isSome_onCommand (β := β) (γ := UInt8) msg
    unfold commandWrite
    cases labelled : wrapper.body.onCommand (β := β) msg with
    | none =>
      rw [labelled, Option.isSome_none, eq_comm, Option.isSome_eq_false_iff, Option.isNone_iff_eq_none] at same
      rw [same]
      rfl
    | some handler =>
      rw [labelled, Option.isSome_some, eq_comm, Option.isSome_iff_exists] at same
      obtain ⟨plain, found⟩ := same
      rw [found, Option.map_some, Option.map_some, Option.map_some, erase_stored]
  change eraseWrites (d.taskList[task]?.bind _).toList = (d.taskList[task]?.bind _).toList
  cases d.taskList[task]? with
  | none => rfl
  | some wrapper =>
    rw [Option.bind_some, Option.bind_some, ← each wrapper]
    cases commandWrite (β := β) wrapper msg with
    | none => rfl
    | some write => rfl

theorem erase_initialised (d : SlaveDevice β) (v : ByteVec β) :
    (d.initialised v).map Cell.byte = d.erase.initialised (v.map Cell.byte) := by
  rw [initialised, ByteVec.map_copyAll, ByteVec.map_copyIn]
  change (ByteVec.copyIn _ 0 (d.zeroFill.map Cell.byte)).copyAll (eraseWrites d.subscriberWrites) = _
  rw [subscriberWrites, erase_initWrites, zeroFill, List.map_replicate, Cell.byte_store]
  rfl

theorem erase_lostBuffer (d : SlaveDevice β) : d.lostBuffer.map Cell.byte = d.erase.lostBuffer := by
  rw [lostBuffer, ByteVec.map_copyAll]
  change ByteVec.copyAll _ (eraseWrites d.lostWrites) = _
  rw [lostWrites, erase_initWrites]
  rfl

theorem erase_lostBackup (d : SlaveDevice β) : d.lostBackup.map Cell.byte = d.erase.lostBackup := by
  rw [lostBackup, ByteVec.map_copyIn, ByteVec.map_resize, ByteVec.map_clear, List.map_take, Cell.byte_store]
  change ByteVec.copyIn _ 0 ((d.lostBuffer.map Cell.byte).storage.take _) = _
  rw [erase_lostBuffer]
  rfl

-- No branch condition reads a cell, so both devices take the same one.
theorem erase_restored (d : SlaveDevice β) (v : ByteVec β) :
    (d.restored v).map Cell.byte = d.erase.restored (v.map Cell.byte) := by
  unfold restored
  change _ = if d.masterStatus = MASTER_READY then _ else if d.reconnectedTimes = 0 then _
    else if d.masterToSlaveBufBackup.size = d.masterToSlaveBufLen.toNat then _ else _
  split_ifs with ready first kept
  · rfl
  · exact erase_initialised d v
  · rw [ByteVec.map_copyIn, backupArea, List.map_take]
    rfl
  · rfl

theorem erase_sendingWrites (d : SlaveDevice β) : eraseWrites d.sendingWrites = d.erase.sendingWrites := by
  change _ = if d.sending then (if d.isArgSent || d.lastEchoed then [] else _) else []
  unfold sendingWrites argWrites
  split_ifs
  · rfl
  · simp only [eraseWrites, List.map_cons, List.map_nil, erase_stored]
    rfl
  · rfl

theorem erase_bufferAfter (d : SlaveDevice β) : d.bufferAfter.map Cell.byte = d.erase.bufferAfter := by
  have sent : (d.masterToSlaveBuf.copyAll d.sendingWrites).map Cell.byte =
      d.erase.masterToSlaveBuf.copyAll d.erase.sendingWrites := by
    rw [ByteVec.map_copyAll, ← erase_sendingWrites]
    rfl
  change _ = if d.handshakes then _ else _
  unfold bufferAfter
  dsimp only
  split_ifs
  · rw [erase_restored, sent]
  · exact sent

theorem erase_openedBuffer (d : SlaveDevice β) (eepId : UInt32) :
    (d.openedBuffer eepId).map Cell.byte = d.erase.openedBuffer eepId := by
  rw [openedBuffer, ByteVec.map_clear, ByteVec.map_resize, ByteVec.map_clear, Cell.byte_store]
  rfl

theorem erase_configure (oldSn eepId : UInt32) (sdoLen : UInt16) (d : SlaveDevice β) :
    (d.configure oldSn eepId sdoLen).erase = d.erase.configure oldSn eepId sdoLen := by
  rw [configure_eq, configure_eq]
  by_cases first : oldSn = 0
  · simp only [first, if_true, ← erase_openedBuffer]
    rfl
  · simp only [first, if_false]
    rfl

theorem erase_init (data : ConfigurationParser) (call : InitCall) (d : SlaveDevice β) :
    d.erase.init data call = Prod.map id erase (d.init data call) := by
  have serial : d.erase.sn = d.sn := rfl
  have read : d.erase.readSn call = d.readSn call := rfl
  unfold init
  simp only [serial, read]
  split_ifs with rejected outdated
  · rfl
  · rfl
  · cases sdoLenOf data (d.readSn call) with
    | error e => rfl
    | ok sdoLen =>
      have configured := erase_configure d.sn call.eepId sdoLen
        { d with
          sn := d.readSn call
          swRev := readSwRev call
          isRecoverRejected := false
          isSwRevCheckPassed := true }
      exact Prod.ext rfl configured.symm

theorem erase_next (data : ConfigurationParser) (d : SlaveDevice β) (s : Step) :
    (next data d s).erase = next data d.erase s := by
  cases s with
  | connectionLost =>
    rw [next_connectionLost, next_connectionLost, ← erase_lostBuffer, ← erase_lostBackup]
    rfl
  | onCommand task msg =>
    rw [next_onCommand, next_onCommand, ← erase_messageWrites]
    simp only [erase, ByteVec.map_copyAll]
    rfl
  | exitReset =>
    rw [next_exitReset, next_exitReset]
    by_cases sent : d.isArgSent = true
    · have sent' : d.erase.isArgSent = true := sent
      rw [if_pos sent, if_pos sent']
      change { d.erase with masterToSlaveBuf := (d.initialised d.masterToSlaveBuf).map Cell.byte } = _
      rw [erase_initialised]
      rfl
    · have sent' : ¬d.erase.isArgSent = true := sent
      rw [if_neg sent, if_neg sent']
  | process currentTime =>
    cases configured : d.isConfigured with
    | false =>
      have configured' : d.erase.isConfigured = false := configured
      rw [next_process_skipped configured, next_process_skipped configured']
    | true =>
      have configured' : d.erase.isConfigured = true := configured
      rw [next_process configured, next_process configured', ← erase_bufferAfter]
      rfl
  | init call =>
    change _ = (d.erase.init data call).2
    rw [erase_init]
    rfl
  | _ => rfl

theorem erase_transferToSlave (d : SlaveDevice β) : d.erase.transferToSlave = d.transferToSlave := by
  unfold transferToSlave commandArea
  change Frame.mk _ (List.map id ((d.masterToSlaveBuf.storage.map Cell.byte).take _)) = _
  rw [List.map_id, List.map_take]
  rfl

theorem erase_step_events (data : ConfigurationParser) (d : SlaveDevice β) (s : Step) :
    (d.erase.step data s).2 = (d.step data s).2 := by
  cases s with
  | transferToSlave => simp only [step, erase_transferToSlave]
  | exitReset =>
    simp only [step, exitReset]
    by_cases sent : d.isArgSent = true
    · have sent' : d.erase.isArgSent = true := sent
      rw [if_pos sent, if_pos sent']
    · have sent' : ¬d.erase.isArgSent = true := sent
      rw [if_neg sent, if_neg sent']
  | process currentTime =>
    simp only [step]
    cases configured : d.isConfigured with
    | false =>
      have configured' : d.erase.isConfigured = false := configured
      rw [process_unconfigured _ _ configured, process_unconfigured _ _ configured']
    | true =>
      have configured' : d.erase.isConfigured = true := configured
      rw [process_eq _ _ configured, process_eq _ _ configured']
      rfl
  | init call =>
    simp only [step, erase_init]
    rfl
  | _ => rfl

theorem erase_exec (data : ConfigurationParser) (d : SlaveDevice β) (run : List Step) :
    (exec (next data) d run).erase = exec (next data) d.erase run :=
  exec_project (erase_next data) d run

theorem erase_emitted (data : ConfigurationParser) (d : SlaveDevice β) (run : List Step) :
    emitted data d.erase run = emitted data d run := by
  induction run generalizing d with
  | nil => rfl
  | cons s run ih => rw [emitted, emitted, erase_step_events, ← erase_next, ih]

end SlaveDevice

end EcatMaster.Slave
