import EcatMaster.Slave.Step

/-! Sequences of data cycles.

A list of steps as complete cycles and one that is under way, and the frames at the ends
of the cycles.
-/

set_option autoImplicit false

namespace EcatMaster.Slave
open Library Config Tasks

def OfCycle : Step → Prop
  | .receiveFromSlave _ | .process _ | .transferToSlave | .onCommand _ _ => True
  | .exitReset | .preRecover | .init _ | .resetState | .connectionLost | .recoverState => False

instance : DecidablePred OfCycle := fun s =>
  match s with
  | .receiveFromSlave _ | .process _ | .transferToSlave | .onCommand _ _ => .isTrue trivial
  | .exitReset | .preRecover | .init _ | .resetState | .connectionLost | .recoverState => .isFalse id

/-- What a data cycle does next to its slave. -/
inductive Stage where
  | receive
  | process
  | transfer
  deriving DecidableEq, Repr

inductive Begun where
  | idle (beforeReceive : List (Nat × CommandMessage))
  | received (beforeReceive : List (Nat × CommandMessage)) (inputs : Inputs)
      (beforeProcess : List (Nat × CommandMessage))
  | processed (beforeReceive : List (Nat × CommandMessage)) (inputs : Inputs)
      (beforeProcess : List (Nat × CommandMessage)) (currentTime : Int) (beforeTransfer : List (Nat × CommandMessage))

namespace Begun

def stage : Begun → Stage
  | .idle _ => .receive
  | .received _ _ _ => .process
  | .processed _ _ _ _ _ => .transfer

def steps : Begun → List Step
  | .idle beforeReceive => commandSteps beforeReceive
  | .received beforeReceive inputs beforeProcess =>
    commandSteps beforeReceive ++ .receiveFromSlave inputs :: commandSteps beforeProcess
  | .processed beforeReceive inputs beforeProcess currentTime beforeTransfer =>
    commandSteps beforeReceive ++ .receiveFromSlave inputs ::
      (commandSteps beforeProcess ++ .process currentTime :: commandSteps beforeTransfer)

def command (c : Nat × CommandMessage) : Begun → Begun
  | .idle beforeReceive => .idle (beforeReceive ++ [c])
  | .received beforeReceive inputs beforeProcess => .received beforeReceive inputs (beforeProcess ++ [c])
  | .processed beforeReceive inputs beforeProcess currentTime beforeTransfer =>
    .processed beforeReceive inputs beforeProcess currentTime (beforeTransfer ++ [c])

/-- The commands since the processing block. -/
def beforeTransfer : Begun → List (Nat × CommandMessage)
  | .processed _ _ _ _ beforeTransfer => beforeTransfer
  | _ => []

theorem stage_command (c : Nat × CommandMessage) (b : Begun) : (b.command c).stage = b.stage := by
  cases b <;> rfl

theorem steps_command (c : Nat × CommandMessage) (b : Begun) :
    (b.command c).steps = b.steps ++ [.onCommand c.1 c.2] := by
  cases b <;> simp [command, steps, commandSteps]

end Begun

structure InCycles (steps : List Step) (stage : Stage) (cycles : List Cycle) (begun : Begun) : Prop where
  steps_eq : steps = cycles.flatMap Cycle.steps ++ begun.steps
  stage_eq : begun.stage = stage

namespace InCycles
variable {steps : List Step} {stage : Stage} {cycles : List Cycle} {begun : Begun}

theorem command (within : InCycles steps stage cycles begun) (task : Nat) (msg : CommandMessage) :
    InCycles (steps ++ [.onCommand task msg]) stage cycles (begun.command (task, msg)) where
  steps_eq := by rw [within.steps_eq, List.append_assoc, Begun.steps_command]
  stage_eq := (begun.stage_command _).trans within.stage_eq

theorem receive (within : InCycles steps .receive cycles begun) (inputs : Inputs) :
    ∃ begun', InCycles (steps ++ [.receiveFromSlave inputs]) .process cycles begun' := by
  obtain ⟨rfl, stage⟩ := within
  cases begun with
  | idle before => exact ⟨.received before inputs [], by simp [Begun.steps, commandSteps], rfl⟩
  | _ => cases stage

theorem process (within : InCycles steps .process cycles begun) (currentTime : Int) :
    ∃ begun', InCycles (steps ++ [.process currentTime]) .transfer cycles begun' := by
  obtain ⟨rfl, stage⟩ := within
  cases begun with
  | received before inputs between =>
    exact ⟨.processed before inputs between currentTime [], by simp [Begun.steps, commandSteps], rfl⟩
  | _ => cases stage

theorem transfer (within : InCycles steps .transfer cycles begun) :
    ∃ c, InCycles (steps ++ [.transferToSlave]) .receive (cycles ++ [c]) (.idle []) := by
  obtain ⟨rfl, stage⟩ := within
  cases begun with
  | processed before inputs between currentTime after =>
    exact ⟨⟨before, inputs, between, currentTime, after⟩, by simp [Begun.steps, Cycle.steps, commandSteps], rfl⟩
  | _ => cases stage

end InCycles

namespace SlaveDevice
variable (data : ConfigurationParser)

def cycleNext (d : SlaveDevice UInt8) (c : Cycle) : SlaveDevice UInt8 := exec (next data) d c.steps

def cycleFrame (d : SlaveDevice UInt8) (c : Cycle) : List Frame := [(d.cycleNext data c).transferToSlave]

def stepFrame (d : SlaveDevice UInt8) : Step → List Frame
  | .transferToSlave => [d.transferToSlave]
  | _ => []

variable {data}

theorem exec_cycles (d : SlaveDevice UInt8) (cycles : List Cycle) :
    exec (next data) d (cycles.flatMap Cycle.steps) = exec (cycleNext data) d cycles := by
  induction cycles generalizing d with
  | nil => rfl
  | cons c cycles ih => rw [List.flatMap_cons, exec_append, ih, exec, cycleNext]

theorem frames_commands (d : SlaveDevice UInt8) (commands : List (Nat × CommandMessage)) :
    labels (next data) stepFrame d (commandSteps commands) = [] := by
  induction commands generalizing d with
  | nil => rfl
  | cons c commands ih => exact ih (next data d (.onCommand c.1 c.2))

theorem frames_begun (d : SlaveDevice UInt8) (b : Begun) : labels (next data) stepFrame d b.steps = [] := by
  cases b <;> simp [Begun.steps, labels_append, labels, stepFrame, frames_commands]

theorem frames_cycle (d : SlaveDevice UInt8) (c : Cycle) :
    labels (next data) stepFrame d c.steps = d.cycleFrame data c := by
  have split : c.steps = (Begun.processed c.beforeReceive c.inputs c.beforeProcess c.currentTime c.beforeTransfer).steps ++
      [.transferToSlave] := by simp [Cycle.steps, Begun.steps]
  rw [cycleFrame, cycleNext, split, labels_append, frames_begun, exec_append]
  rfl

theorem frames_cycles (d : SlaveDevice UInt8) (cycles : List Cycle) :
    labels (next data) stepFrame d (cycles.flatMap Cycle.steps) = labels (cycleNext data) (cycleFrame data) d cycles := by
  induction cycles generalizing d with
  | nil => rfl
  | cons c cycles ih => rw [List.flatMap_cons, labels_append, frames_cycle, ih, labels, cycleNext]

end SlaveDevice

end EcatMaster.Slave
