import EcatMaster.Slave.Device
import EcatMaster.Tasks.Blocks

/-! `SlaveDevice::init` and `SlaveDevice::init_task_list`.

What SOEM reads from the board is part of the call; the serial number and the
revision text keep their bytes where a read returns none.
-/

set_option autoImplicit false

namespace EcatMaster.Slave
open Library Config Tasks

structure Module where
  masterToSlaveBufLen : UInt16
  slaveToMasterBufLen : UInt16
  minSwRev : Int

/-- The modules of `register_components`; another identifier gets the value-initialised entry. -/
def registeredModule (eepId : UInt32) : Module :=
  if eepId = 3 then ⟨80, 80, 8⟩
  else if eepId = 4 then ⟨80, 112, 8⟩
  else ⟨0, 0, 0⟩

/-- One call of `init`: the identity of the connected board and what `ec_SDOread` stores;
`swRevStr` is the text that the last call for any slave has left in the shared buffer. -/
structure InitCall where
  eepId : UInt32
  snReply : Option (List UInt8)
  swRevStr : List UInt8
  revReply : Option (List UInt8)
  deriving DecidableEq, Repr

def ecSDOread (target : List UInt8) (size : Nat) : Option (List UInt8) → List UInt8
  | none => target
  | some reply => overwrite target 0 (reply.take size)

def uint32OfBytes (bytes : List UInt8) : UInt32 :=
  bytes.foldr (fun byte rest => byte.toUInt32 ||| rest <<< 8) 0

def digits : List UInt8 → Int → Int
  | [], value => value
  | c :: text, value => if 48 ≤ c ∧ c ≤ 57 then digits text (10 * value + (c.toNat - 48)) else value

/-- `atoi`: optional white space and sign, then digits. -/
def atoi : List UInt8 → Int
  | [] => 0
  | c :: text =>
    if c = 32 ∨ 9 ≤ c ∧ c ≤ 13 then atoi text
    else if c = 45 then -digits text 0
    else if c = 43 then digits text 0
    else digits (c :: text) 0

namespace SlaveDevice
variable {β : Type}

def readSn (d : SlaveDevice β) (call : InitCall) : UInt32 :=
  uint32OfBytes (ecSDOread (Io.uint32Bytes d.sn) 4 call.snReply)

def readSwRev (call : InitCall) : Int := atoi (ecSDOread call.swRevStr 3 call.revReply)

def sdoLenOf (data : ConfigurationParser) (sn : UInt32) : Except Exception UInt16 :=
  getFieldAs Variant.getUint16 data (snKey sn "sdo_len")

section Cells
variable [Cell β]

/-- The buffers are cleared once more after the resize: their size is 0, their storage stays. -/
def allocateBuffers (eepId : UInt32) (d : SlaveDevice β) : SlaveDevice β :=
  let lens := registeredModule eepId
  let masterToSlaveBuf := d.masterToSlaveBuf.clear.resize lens.masterToSlaveBufLen.toNat
    (Cell.store .allocation 0)
  let slaveToMasterBuf := d.slaveToMasterBuf.clear.resize lens.slaveToMasterBufLen.toNat 0
  { d with
    masterToSlaveBuf := masterToSlaveBuf.clear
    masterToSlaveBufLen := lens.masterToSlaveBufLen
    slaveToMasterBuf := slaveToMasterBuf.clear
    slaveToMasterBufLen := lens.slaveToMasterBufLen }

/-- The accepted rest of `init`, after the length of the arguments is known. -/
def configure (oldSn : UInt32) (eepId : UInt32) (sdoLen : UInt16) (d : SlaveDevice β) : SlaveDevice β :=
  let d := { d with masterStatus := if sdoLen = 0 then MASTER_READY else MASTER_SENDING_ARGUMENTS }
  let d := if oldSn = 0 then d.allocateBuffers eepId else d
  { d with isEcatConfDone := true }

/-- `int init()`: 1 is `true`. An exception is caught and returns 0. -/
def init (data : ConfigurationParser) (call : InitCall) (d : SlaveDevice β) : Bool × SlaveDevice β :=
  let oldSn := d.sn
  let d := { d with sn := d.readSn call, swRev := readSwRev call }
  if oldSn ≠ 0 ∧ oldSn ≠ d.sn then
    -- The old serial number is put back, the revision of the other board is not.
    (false, { d with sn := oldSn, isRecoverRejected := true })
  else
    let d := { d with isRecoverRejected := false }
    if d.swRev < (registeredModule call.eepId).minSwRev then
      -- `is_sw_rev_check_passed_` keeps what an earlier call has set.
      (false, d)
    else
      let d := { d with isSwRevCheckPassed := true }
      match sdoLenOf data d.sn with
      | .error _ => (false, d)
      | .ok sdoLen => (true, d.configure oldSn call.eepId sdoLen)

end Cells

/-- How `init_task_list` can end without returning: an exception, or a call through the
null pointer that an unknown task type leaves. -/
inductive Failure where
  | exception (e : Exception)
  | nullTask
  deriving DecidableEq, Repr

def orThrow {T : Type} : Except Exception T → Except Failure T
  | .ok value => .ok value
  | .error e => .error (.exception e)

def initTask (data : ConfigurationParser) (sn : UInt32) (taskList : List TaskWrapper × ArgStream)
    (appIdx : Nat) : Except Failure (List TaskWrapper × ArgStream) := do
  let taskType ← orThrow (getFieldAs Variant.getUint8 data (appKey sn appIdx "sdowrite_task_type"))
  let sdo ← orThrow (data.buildBuf (appKey sn appIdx "sdowrite_") ["task_type"])
  let s : ArgStream :=
    { buf := overwrite taskList.2.buf taskList.2.offset (sdo.buf.take sdo.len), offset := taskList.2.offset + 1 }
  match makeTask taskType with
  -- The default branch only logs, and `init_sdo` is called through the null pointer.
  | none => .error .nullTask
  | some initSdo =>
    let (task, s) ← orThrow (initSdo data (appKey sn appIdx "") s)
    return (taskList.1 ++ [task], s)

def initTaskList (data : ConfigurationParser) (d : SlaveDevice β) : Except Failure (Bool × SlaveDevice β) := do
  if ¬d.isSwRevCheckPassed then
    return (false, d)
  let argBufLen ← orThrow (sdoLenOf data d.sn)
  let argBuf := List.replicate argBufLen.toNat (0 : UInt8)
  let d := { d with argBufLen, argBuf }
  orThrow (createTopic data (snKey d.sn "latency_pub_topic"))
  let taskCount ← orThrow (getFieldAs Variant.getUint8 data (snKey d.sn "task_count"))
  if taskCount = 0 then
    return (false, d)
  let (taskList, s) ← (List.range' 1 taskCount.toNat).foldlM (initTask data d.sn)
    ([], { buf := overwrite argBuf 0 [taskCount], offset := 1 })
  return (true, { d with taskList, argBuf := s.buf, isConfRosDone := true })

theorem orThrow_ok {T : Type} {result : Except Exception T} {value : T}
    (returned : orThrow result = .ok value) : result = .ok value := by
  cases result with
  | error e => cases returned
  | ok other => cases returned; rfl

/-- The two ways to return: nothing is configured, or every task has been made. -/
theorem initTaskList_cases {data : ConfigurationParser} {d d' : SlaveDevice β} {done : Bool}
    (returned : initTaskList data d = .ok (done, d')) :
    (done = false ∧ ∃ argBufLen argBuf, d' = { d with argBufLen, argBuf }) ∨
    (done = true ∧ ∃ argBufLen taskCount taskList s,
      sdoLenOf data d.sn = .ok argBufLen ∧
      getFieldAs Variant.getUint8 data (snKey d.sn "task_count") = .ok taskCount ∧
      (List.range' 1 taskCount.toNat).foldlM (initTask data d.sn)
        ([], { buf := overwrite (List.replicate argBufLen.toNat 0) 0 [taskCount], offset := 1 }) =
          .ok (taskList, s) ∧
      d' = { d with argBufLen, argBuf := s.buf, taskList, isConfRosDone := true }) := by
  unfold initTaskList at returned
  split at returned
  · cases returned
    exact Or.inl ⟨rfl, d.argBufLen, d.argBuf, rfl⟩
  · obtain ⟨argBufLen, found, returned⟩ := bind_ok returned
    obtain ⟨⟨⟩, _, returned⟩ := bind_ok returned
    obtain ⟨taskCount, counted, returned⟩ := bind_ok returned
    split at returned
    · cases returned
      exact Or.inl ⟨rfl, _, _, rfl⟩
    · obtain ⟨⟨taskList, s⟩, made, returned⟩ := bind_ok returned
      cases returned
      exact Or.inr ⟨rfl, argBufLen, taskCount, taskList, s, orThrow_ok found, orThrow_ok counted, made, rfl⟩

theorem length_initTask {data : ConfigurationParser} {sn : UInt32} {appIdx : Nat}
    {before after : List TaskWrapper × ArgStream} (returned : initTask data sn before appIdx = .ok after) :
    after.2.buf.length = before.2.buf.length := by
  obtain ⟨taskType, _, returned⟩ := bind_ok returned
  obtain ⟨sdo, _, returned⟩ := bind_ok returned
  dsimp only at returned
  split at returned
  · cases returned
  · rename_i initSdo made
    obtain ⟨⟨task, s⟩, filled, returned⟩ := bind_ok returned
    cases returned
    exact (makeTask_keeps made data _ _ _ (orThrow_ok filled)).trans (length_overwrite _ _ _)

theorem length_initTasks {data : ConfigurationParser} {sn : UInt32} {apps : List Nat}
    {before after : List TaskWrapper × ArgStream} (returned : apps.foldlM (initTask data sn) before = .ok after) :
    after.2.buf.length = before.2.buf.length := by
  induction apps generalizing before with
  | nil =>
    cases returned
    rfl
  | cons appIdx apps ih =>
    rw [List.foldlM_cons] at returned
    obtain ⟨next, filled, returned⟩ := bind_ok returned
    exact (ih returned).trans (length_initTask filled)

/-- The devices that `setup_ecat` hands to the threads: `init` has accepted the board and
`init_task_list` has returned `true`. -/
def Configured [Cell β] (data : ConfigurationParser) (d : SlaveDevice β) : Prop :=
  ∃ (call : InitCall) (opened : SlaveDevice β),
    init data call new = (true, opened) ∧ initTaskList data opened = .ok (true, d)

/-- What `setup_ecat` makes of a board: the new device after both calls. -/
def setUp [Cell β] (data : ConfigurationParser) (call : InitCall) : SlaveDevice β :=
  match initTaskList data (init data call new).2 with
  | .ok (_, d) => d
  | .error _ => (init data call new).2

theorem configured_setUp [Cell β] {data : ConfigurationParser} {call : InitCall}
    (accepted : (init data call (new : SlaveDevice β)).1 = true)
    (returned : (initTaskList data (init data call (new : SlaveDevice β)).2).map Prod.fst = .ok true) :
    Configured data (setUp data call : SlaveDevice β) := by
  refine ⟨call, (init data call new).2, Prod.ext accepted rfl, ?_⟩
  unfold setUp
  generalize initTaskList data (init data call (new : SlaveDevice β)).2 = result at returned ⊢
  cases result with
  | error failure => cases returned
  | ok result =>
    obtain ⟨done, d⟩ := result
    cases returned
    rfl

end SlaveDevice

/-- The shortest configuration: one task without commands and two argument bytes. -/
def receiverData : ConfigurationParser where
  fields :=
    [("sn7_sdo_len", .uint16 2), ("sn7_latency_pub_topic", .string "/ecat/latency"), ("sn7_task_count", .uint8 1),
     ("sn7_app_1_sdowrite_task_type", .uint8 DJIRC_APP_ID), ("sn7_app_1_pub_topic", .string "/ecat/rc")]

def boardCall : InitCall := ⟨3, some [7, 0, 0, 0], [0, 0, 0, 0], some [48, 48, 56]⟩

theorem receiver_configured :
    SlaveDevice.Configured receiverData (SlaveDevice.setUp receiverData boardCall : SlaveDevice Tagged) :=
  SlaveDevice.configured_setUp rfl rfl

theorem receiver_bytes_configured :
    SlaveDevice.Configured receiverData (SlaveDevice.setUp receiverData boardCall : SlaveDevice UInt8) :=
  SlaveDevice.configured_setUp rfl rfl

/-- One PWM output, whose region of the command buffer begins at the first byte. -/
def pwmData (connectionLostWriteAction : UInt8) : ConfigurationParser where
  fields :=
    [("sn7_sdo_len", .uint16 8), ("sn7_latency_pub_topic", .string "/ecat/latency"), ("sn7_task_count", .uint8 1),
     ("sn7_app_1_sdowrite_task_type", .uint8 ONBOARD_PWM_APP_ID),
     ("sn7_app_1_sdowrite_connection_lost_write_action", .uint8 connectionLostWriteAction),
     ("sn7_app_1_sdowrite_port_id", .uint8 1), ("sn7_app_1_sdowrite_pwm_period", .uint16 20000),
     ("sn7_app_1_sdowrite_init_value", .uint16 1500), ("sn7_app_1_pdowrite_offset", .uint16 0),
     ("sn7_app_1_sub_topic", .string "/ecat/pwm")]

theorem pwm_keep_configured :
    SlaveDevice.Configured (pwmData 0x01) (SlaveDevice.setUp (pwmData 0x01) boardCall : SlaveDevice Tagged) :=
  SlaveDevice.configured_setUp rfl rfl

theorem pwm_keep_bytes_configured :
    SlaveDevice.Configured (pwmData 0x01) (SlaveDevice.setUp (pwmData 0x01) boardCall : SlaveDevice UInt8) :=
  SlaveDevice.configured_setUp rfl rfl

theorem pwm_reset_bytes_configured :
    SlaveDevice.Configured (pwmData 0x02) (SlaveDevice.setUp (pwmData 0x02) boardCall : SlaveDevice UInt8) :=
  SlaveDevice.configured_setUp rfl rfl

end EcatMaster.Slave
