import EcatMaster.Slave.Equations

/-! The state checker and one of its slaves.

A pass of `state_check_callback` over a slave is cut where it gives the lock away,
so the data cycle and the callbacks run between its sections. What SOEM answers
is part of the step. A board that was refused must stay out of the data cycle.
-/

set_option autoImplicit false

namespace EcatMaster.Slave
open Library Config Tasks

def EC_STATE_NONE : UInt16 := 0
def EC_STATE_INIT : UInt16 := 1
def EC_STATE_SAFE_OP : UInt16 := 4
def EC_STATE_OPERATIONAL : UInt16 := 8

/-- The section of the pass that runs next. -/
inductive Phase where
  | idle
  | branch
  | reconfig
  | reset
  | tail
  deriving DecidableEq, Repr

/-- What SOEM does in one section: the state it leaves in `ec_slave`, the call of `init` that
`ec_reconfig_slave` makes if it gets that far, and whether it returns another value than 0. -/
structure Answer where
  state : UInt16
  call : Option InitCall
  succeeds : Bool
  deriving DecidableEq

inductive Move where
  | receiveFromSlave (inputs : Inputs)
  | process (currentTime : Int)
  | exitReset
  | transferToSlave
  | onCommand (task : Nat) (msg : CommandMessage)
  | check (answer : Answer)
  deriving DecidableEq

/-- A slave with its `ec_slave` entry and the place where the checker is. -/
structure Station (β : Type) where
  device : SlaveDevice β
  state : UInt16
  isLost : Bool
  phase : Phase

inductive Branch where
  | backToSafeOp
  | restarted
  | lost
  | nothing
  deriving DecidableEq, Repr

namespace Station
variable {β : Type}

def start (d : SlaveDevice β) : Station β := ⟨d, EC_STATE_OPERATIONAL, false, .idle⟩

def branch (t : Station β) : Branch :=
  if t.state = EC_STATE_OPERATIONAL then .nothing
  -- A rejected board in SAFE_OP matches none of the branches.
  else if t.state = EC_STATE_SAFE_OP ∧ t.device.isRecoverRejected = false then .backToSafeOp
  else if t.state = EC_STATE_INIT then .restarted
  else if t.isLost = false ∧ t.state = EC_STATE_NONE then .lost
  else .nothing

/-- The last block of a pass marks the slave as recovered or found. -/
def recovers (t : Station β) (answer : Answer) : Bool :=
  t.isLost && (t.state != EC_STATE_NONE || answer.succeeds)

/-- What a section of the checker does to the device. -/
def checked (t : Station β) (answer : Answer) : Option Step :=
  match t.phase with
  | .idle => none
  | .branch =>
    match t.branch with
    | .backToSafeOp => some .preRecover
    | .lost => some .connectionLost
    | .restarted | .nothing => none
  | .reconfig => answer.call.map .init
  | .reset => some .resetState
  | .tail => if t.recovers answer then some .recoverState else none

def stepOf (t : Station β) : Move → Option Step
  | .receiveFromSlave inputs => some (.receiveFromSlave inputs)
  | .process currentTime => some (.process currentTime)
  | .exitReset => some .exitReset
  | .transferToSlave => some .transferToSlave
  | .onCommand task msg => some (.onCommand task msg)
  | .check answer => t.checked answer

/-- The checker goes on, after the section has left this device. -/
def advance (t : Station β) (device : SlaveDevice β) (answer : Answer) : Station β :=
  match t.phase with
  | .idle => { t with device, state := answer.state, phase := .branch }
  | .branch =>
    match t.branch with
    | .backToSafeOp => { t with device, state := answer.state, phase := .tail }
    | .restarted => { t with device, state := answer.state, phase := if answer.succeeds then .reconfig else .tail }
    | .lost => { t with device, isLost := true, phase := .tail }
    | .nothing => { t with device, phase := .tail }
  | .reconfig =>
    if answer.succeeds then
      -- A board that `init` has refused for its serial number is sent back to INIT and stays lost.
      if device.isRecoverRejected then { t with device, state := EC_STATE_INIT, phase := .reset }
      else { t with device, state := answer.state, isLost := false, phase := .reset }
    else { t with device, state := answer.state, phase := .reset }
  | .reset => { t with device, phase := .tail }
  | .tail => { t with device, isLost := t.isLost && !t.recovers answer, phase := .idle }

section Cells
variable [Cell β] (data : ConfigurationParser)

def deviceAfter (t : Station β) (m : Move) : SlaveDevice β := t.device.nextOf data (t.stepOf m)

def events (t : Station β) (m : Move) : List Event := t.device.eventsOf data (t.stepOf m)

def next (t : Station β) (m : Move) : Station β :=
  match m with
  | .check answer => t.advance (t.deviceAfter data m) answer
  | _ => { t with device := t.deviceAfter data m }

variable {data}

omit [Cell β] in
theorem advance_device (t : Station β) (device : SlaveDevice β) (answer : Answer) :
    (t.advance device answer).device = device := by
  unfold advance
  split
  · rfl
  · split <;> rfl
  · split_ifs <;> rfl
  · rfl
  · rfl

theorem next_device (t : Station β) (m : Move) : (t.next data m).device = t.deviceAfter data m := by
  cases m with
  | check answer => exact t.advance_device _ answer
  | _ => rfl

theorem next_steps (t : Station β) (m : Move) :
    (t.next data m).device = exec (SlaveDevice.next data) t.device (t.stepOf m).toList := by
  rw [next_device]
  exact SlaveDevice.nextOf_eq data t.device (t.stepOf m)

theorem exec_device (t : Station β) (run : List Move) :
    (exec (next data) t run).device =
      exec (SlaveDevice.next data) t.device (labels (next data) (fun t m => (t.stepOf m).toList) t run) :=
  exec_component next_steps t run

end Cells

end Station

end EcatMaster.Slave
