import EcatMaster.Slave.Buffer
import EcatMaster.Tasks.Task

/-! `SlaveDevice` of `soem_backend.cpp`: its members and the operations on them.

A member function that a critical section of the program calls is one function
here; what it publishes or calls is returned as events.
-/

set_option autoImplicit false

namespace EcatMaster.Slave
open Library Tasks TaskBody

def SLAVE_INITIALIZING : UInt8 := 1
def SLAVE_READY : UInt8 := 2
def SLAVE_CONFIRM_READY : UInt8 := 3

def MASTER_REQUEST_REBOOT : UInt8 := 1
def MASTER_SENDING_ARGUMENTS : UInt8 := 2
def MASTER_READY : UInt8 := 3

theorem not_ready_of_sending {status : UInt8} (sending : status = MASTER_SENDING_ARGUMENTS) :
    ¬MASTER_READY ≤ status := by
  rw [sending]
  decide

theorem ne_ready_of_sending {status : UInt8} (sending : status = MASTER_SENDING_ARGUMENTS) :
    status ≠ MASTER_READY := by
  rw [sending]
  decide

/-- The members that the program reads; times are nanoseconds. -/
structure SlaveDevice (β : Type) where
  swRev : Int
  sn : UInt32
  isSwRevCheckPassed : Bool
  isRecoverRejected : Bool
  isReady : Bool
  lastLatencyCheckPacketSendTime : Int
  currentDataStamp : Int
  masterStatus : UInt8
  masterToSlaveBuf : ByteVec β
  masterToSlaveBufBackup : ByteVec β
  masterToSlaveBufLen : UInt16
  slaveStatus : UInt8
  slaveToMasterBuf : ByteVec UInt8
  slaveToMasterBufLen : UInt16
  argBuf : List UInt8
  argBufLen : UInt16
  sendingArgBufIdx : UInt16
  isArgSent : Bool
  isEcatConfDone : Bool
  isConfRosDone : Bool
  reconnectedTimes : UInt8
  taskList : List TaskWrapper
  deriving DecidableEq

/-- The status byte and the data of a transferred output frame. -/
structure Frame where
  status : UInt8
  data : List UInt8
  deriving DecidableEq, Repr

/-- `ec_slave[index_].inputs`. -/
structure Inputs where
  status : UInt8
  data : List UInt8
  deriving DecidableEq, Repr

/-- The three places that give `master_status_` the value `MASTER_READY`. -/
inductive ReadyBy where
  | init
  | handshake
  | counter
  deriving DecidableEq, Repr

inductive Event where
  | initReturned (accepted : Bool)
  | masterReady (writer : ReadyBy)
  | writeInitValues
  | recoverMasterToSlaveBuf
  | processPdo
  | latency (nanoseconds : Int)
  | read (task : Nat) (stamp : Int)
  | publishEmptyMessage (task : Nat)
  | frame (frame : Frame)
  deriving DecidableEq, Repr

namespace SlaveDevice
variable {β : Type}

/-- The constructor. -/
def new : SlaveDevice β where
  swRev := 0
  sn := 0
  isSwRevCheckPassed := false
  isRecoverRejected := false
  isReady := false
  lastLatencyCheckPacketSendTime := 0
  currentDataStamp := 0
  masterStatus := 0
  masterToSlaveBuf := .empty
  masterToSlaveBufBackup := .empty
  masterToSlaveBufLen := 0
  slaveStatus := 0
  slaveToMasterBuf := .empty
  slaveToMasterBufLen := 0
  argBuf := []
  argBufLen := 0
  sendingArgBufIdx := 1
  isArgSent := false
  isEcatConfDone := false
  isConfRosDone := false
  reconnectedTimes := 0
  taskList := []

def commandArea (d : SlaveDevice β) : List β := d.masterToSlaveBuf.storage.take d.masterToSlaveBufLen.toNat

def backupArea (d : SlaveDevice β) : List β :=
  d.masterToSlaveBufBackup.storage.take d.masterToSlaveBufLen.toNat

def receiveFromSlave (inputs : Inputs) (d : SlaveDevice β) : SlaveDevice β :=
  { d with
    slaveStatus := inputs.status
    slaveToMasterBuf := d.slaveToMasterBuf.copyIn 0 (inputs.data.take d.slaveToMasterBufLen.toNat) }

def inputByte (d : SlaveDevice β) (i : Nat) : UInt8 := d.slaveToMasterBuf.storage[i]?.getD 0

/-- `arg_buf_[idx - 1]`. -/
def argByte (d : SlaveDevice β) (idx : UInt16) : UInt8 := d.argBuf[idx.toNat - 1]?.getD 0

section Cells
variable [Cell β]

def transferToSlave (d : SlaveDevice β) : Frame :=
  ⟨d.masterStatus, d.commandArea.map Cell.byte⟩

def echoed (d : SlaveDevice β) : Bool :=
  Io.word (d.inputByte 0) (d.inputByte 1) == d.sendingArgBufIdx
    && d.inputByte 2 == d.argByte d.sendingArgBufIdx

def acceptEcho (d : SlaveDevice β) : SlaveDevice β :=
  if d.echoed then
    if d.sendingArgBufIdx = d.argBufLen then { d with isArgSent := true }
    else { d with sendingArgBufIdx := d.sendingArgBufIdx + 1 }
  else d

/-- The triple `(idx & 0xFF, idx >> 8 & 0xFF, arg_buf_[idx - 1])`. -/
def argTriple (d : SlaveDevice β) (idx : UInt16) : List UInt8 :=
  [(idx &&& 0xFF).toUInt8, (idx >>> 8 &&& 0xFF).toUInt8, d.argByte idx]

def storeArg (d : SlaveDevice β) : SlaveDevice β :=
  let cells := (d.argTriple d.sendingArgBufIdx).map (Cell.store .argument)
  if d.isArgSent then d else { d with masterToSlaveBuf := d.masterToSlaveBuf.copyIn 0 cells }

def sendArg (d : SlaveDevice β) : SlaveDevice β := d.acceptEcho.storeArg

def nextMasterStatus (masterStatus : UInt8) : UInt8 :=
  if masterStatus ≥ 250 then MASTER_READY + 2 else masterStatus + 1

def readEvents (stamp : Int) (tasks : List TaskWrapper) : List Event :=
  tasks.zipIdx.filterMap fun (task, i) => if task.body.hasPublishers then some (.read i stamp) else none

def processPdo (currentTime : Int) (d : SlaveDevice β) : SlaveDevice β × List Event :=
  if d.slaveStatus = d.masterStatus then
    -- Published data are stamped with the time at which the echoed number was set.
    let stamp := d.lastLatencyCheckPacketSendTime
    let masterStatus := nextMasterStatus d.masterStatus
    ({ d with currentDataStamp := stamp, lastLatencyCheckPacketSendTime := currentTime, masterStatus },
      [.processPdo, .latency (currentTime - stamp)]
        ++ (if masterStatus = MASTER_READY then [.masterReady .counter] else [])
        ++ readEvents stamp d.taskList)
  else
    (d, [.processPdo])

def initValueOf (task : TaskWrapper) (v : ByteVec β) : ByteVec β :=
  { v with
    storage := task.store (Cell.store .initValue) task.body.initValue v.storage
    size_le := by
      rw [task.store_eq _ (initValue_writes task.body)]
      simpa using v.size_le }

-- The zero fill comes first, so bytes outside all regions are 0 afterwards.
def writeInitValues (d : SlaveDevice β) : SlaveDevice β :=
  let zeroed := d.masterToSlaveBuf.copyIn 0
    (List.replicate d.masterToSlaveBufLen.toNat (Cell.store .zeroFill 0))
  let write := fun buf task => if task.body.hasSubscribers then initValueOf task buf else buf
  { d with masterToSlaveBuf := d.taskList.foldl write zeroed }

def recoverMasterToSlaveBuf (d : SlaveDevice β) : SlaveDevice β :=
  if d.masterToSlaveBufBackup.size ≠ d.masterToSlaveBufLen.toNat then d
  else { d with masterToSlaveBuf := d.masterToSlaveBuf.copyIn 0 d.backupArea }

def backupMasterToSlaveBuf (d : SlaveDevice β) : SlaveDevice β :=
  let resized := d.masterToSlaveBufBackup.clear.resize d.masterToSlaveBufLen.toNat (Cell.store .allocation 0)
  { d with masterToSlaveBufBackup := resized.copyIn 0 d.commandArea }

/-- Each task applies its policies: reset the command, publish an empty report. -/
def onConnectionLost (d : SlaveDevice β) : SlaveDevice β × List Event :=
  let reset := fun buf task => if task.connectionLostWriteAction = 0x02 then initValueOf task buf else buf
  ({ d with masterToSlaveBuf := d.taskList.foldl reset d.masterToSlaveBuf },
    d.taskList.zipIdx.filterMap fun (task, i) =>
      if task.connectionLostReadAction = 0x02 then some (.publishEmptyMessage i) else none)

/-- The subscribed callback of a task, on a message of this type. -/
def onCommandOf (task : TaskWrapper) (msg : CommandMessage) (v : ByteVec β) : ByteVec β :=
  match subscribed : task.body.onCommand msg with
  | none => v
  | some handler =>
    { v with
      storage := task.store (Cell.store .command) handler v.storage
      size_le := by
        rw [task.store_eq _ (onCommand_writes task.body msg subscribed)]
        simpa using v.size_le }

def onCommand (task : Nat) (msg : CommandMessage) (d : SlaveDevice β) : SlaveDevice β :=
  match d.taskList[task]? with
  | none => d
  | some wrapper => { d with masterToSlaveBuf := onCommandOf wrapper msg d.masterToSlaveBuf }

end Cells

-- The counter is a `uint8_t`: after 256 reconnects it is 0 again.
def preRecover (d : SlaveDevice β) : SlaveDevice β :=
  { d with
    isArgSent := false
    sendingArgBufIdx := 1
    reconnectedTimes := d.reconnectedTimes + 1
    isConfRosDone := true }

def resetState (d : SlaveDevice β) : SlaveDevice β :=
  { d with isReady := false, isConfRosDone := false, slaveStatus := SLAVE_INITIALIZING }

def recoverState (d : SlaveDevice β) : SlaveDevice β :=
  { d with isReady := true, isConfRosDone := true }

end SlaveDevice

end EcatMaster.Slave
