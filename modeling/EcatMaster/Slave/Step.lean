import EcatMaster.Library.Runs
import EcatMaster.Slave.Init

/-! One slave as a state machine.

A step is one critical section of the data cycle, of the state checker or of a
subscription. Any sequence of steps is a run; the order in which the threads
take them is a matter of the modules that restrict runs.
-/

set_option autoImplicit false

namespace EcatMaster.Slave
open Library Config Tasks

inductive Step where
  | receiveFromSlave (inputs : Inputs)
  | process (currentTime : Int)
  | exitReset
  | transferToSlave
  | preRecover
  | init (call : InitCall)
  | resetState
  | connectionLost
  | recoverState
  | onCommand (task : Nat) (msg : CommandMessage)
  deriving DecidableEq

namespace SlaveDevice
variable {β : Type}

/-- The block is skipped for a device that is not fully configured. -/
def isConfigured (d : SlaveDevice β) : Bool := d.isConfRosDone && d.isEcatConfDone

def confirmReady (d : SlaveDevice β) : SlaveDevice β :=
  if d.slaveStatus = SLAVE_CONFIRM_READY ∧ d.isReady = false then { d with isReady := true } else d

def argsConfirmed (d : SlaveDevice β) : Bool :=
  !d.isReady && d.isArgSent && d.slaveStatus == SLAVE_READY

section Cells
variable [Cell β]

def sendingArgs (d : SlaveDevice β) : SlaveDevice β :=
  if d.masterStatus = MASTER_SENDING_ARGUMENTS ∧ d.isArgSent = false then d.sendArg else d

/-- The buffer that the slave starts to work with: the initial values in the first
configuration, the backup after a reconnect. -/
def restore (d : SlaveDevice β) : SlaveDevice β × List Event :=
  if d.masterStatus = MASTER_READY then (d, [])
  else if d.reconnectedTimes = 0 then (d.writeInitValues, [.writeInitValues])
  else (d.recoverMasterToSlaveBuf, [.recoverMasterToSlaveBuf])

def handshake (d : SlaveDevice β) : SlaveDevice β × List Event :=
  if d.argsConfirmed then
    let (d, events) := d.restore
    -- The byte is set in every such cycle, also where nothing had to be restored.
    ({ d with masterStatus := MASTER_READY }, events ++ [.masterReady .handshake])
  else (d, [])

def runPdo (currentTime : Int) (d : SlaveDevice β) : SlaveDevice β × List Event :=
  if d.isReady then d.processPdo currentTime else (d, [])

def process (currentTime : Int) (d : SlaveDevice β) : SlaveDevice β × List Event :=
  if d.isConfigured then
    let (d, restored) := d.confirmReady.sendingArgs.handshake
    let (d, processed) := d.runPdo currentTime
    (d, restored ++ processed)
  else (d, [])

def exitReset (d : SlaveDevice β) : SlaveDevice β × List Event :=
  -- The source goes over all slaves here without taking their locks.
  if d.isArgSent then (d.writeInitValues, [.writeInitValues]) else (d, [])

def connectionLost (d : SlaveDevice β) : SlaveDevice β × List Event :=
  let (d, events) := d.resetState.onConnectionLost
  -- The backup is taken after the policies have been applied.
  (d.backupMasterToSlaveBuf, events)

def initEvents (accepted : Bool) (d : SlaveDevice β) : List Event :=
  if accepted && d.masterStatus == MASTER_READY then [.initReturned true, .masterReady .init]
  else [.initReturned accepted]

def step (data : ConfigurationParser) (d : SlaveDevice β) : Step → SlaveDevice β × List Event
  | .receiveFromSlave inputs => (d.receiveFromSlave inputs, [])
  | .process currentTime => d.process currentTime
  | .exitReset => d.exitReset
  | .transferToSlave => (d, [.frame d.transferToSlave])
  | .preRecover => (d.preRecover, [])
  | .init call => ((d.init data call).2, initEvents (d.init data call).1 (d.init data call).2)
  | .resetState => (d.resetState, [])
  | .connectionLost => d.connectionLost
  | .recoverState => (d.recoverState, [])
  | .onCommand task msg => (d.onCommand task msg, [])

def next (data : ConfigurationParser) (d : SlaveDevice β) (s : Step) : SlaveDevice β := (d.step data s).1

def nextOf (data : ConfigurationParser) (d : SlaveDevice β) : Option Step → SlaveDevice β
  | none => d
  | some s => next data d s

def eventsOf (data : ConfigurationParser) (d : SlaveDevice β) : Option Step → List Event
  | none => []
  | some s => (d.step data s).2

theorem nextOf_eq (data : ConfigurationParser) (d : SlaveDevice β) (s : Option Step) :
    nextOf data d s = exec (next data) d s.toList := by
  cases s with
  | none => rfl
  | some s => rfl

def emitted (data : ConfigurationParser) : SlaveDevice β → List Step → List Event
  | _, [] => []
  | d, s :: run => (d.step data s).2 ++ emitted data (next data d s) run

theorem emitted_append (data : ConfigurationParser) (d : SlaveDevice β) (first rest : List Step) :
    emitted data d (first ++ rest) = emitted data d first ++ emitted data (exec (next data) d first) rest := by
  induction first generalizing d with
  | nil => rfl
  | cons s first ih => simp only [List.cons_append, emitted, ih, exec, List.append_assoc]

end Cells

end SlaveDevice

/-- The three phases lock the slave separately, so callbacks run before and between them. -/
structure Cycle where
  beforeReceive : List (Nat × CommandMessage)
  inputs : Inputs
  beforeProcess : List (Nat × CommandMessage)
  currentTime : Int
  beforeTransfer : List (Nat × CommandMessage)
  deriving DecidableEq

def commandSteps (commands : List (Nat × CommandMessage)) : List Step :=
  commands.map fun command => .onCommand command.1 command.2

def Cycle.steps (c : Cycle) : List Step :=
  commandSteps c.beforeReceive ++ .receiveFromSlave c.inputs ::
    (commandSteps c.beforeProcess ++ .process c.currentTime ::
      (commandSteps c.beforeTransfer ++ [.transferToSlave]))

end EcatMaster.Slave
