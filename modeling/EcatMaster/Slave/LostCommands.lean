import EcatMaster.Slave.ArgTransfer
import EcatMaster.Slave.Regions

/-! Commands that are processed during an outage.

The loss of a slave is handled by the policies and a backup, and the handshake after the
restart copies the backup over the buffer. The run remembers what the handling of the
last loss has left and which commands were processed since.
-/

set_option autoImplicit false

namespace EcatMaster.Slave
open Library Config Tasks

/-- The arguments have been resent and the handshake makes the master ready. -/
def SlaveDevice.ResendCompletes {β : Type} (d : SlaveDevice β) : Step → Prop
  | .process _ => d.isConfigured = true ∧ d.handshakes = true ∧ d.masterStatus = MASTER_SENDING_ARGUMENTS
  | _ => False

instance {β : Type} (d : SlaveDevice β) : (s : Step) → Decidable (d.ResendCompletes s)
  | .process _ => inferInstanceAs (Decidable (_ ∧ _))
  | .receiveFromSlave _ | .exitReset | .transferToSlave | .preRecover | .init _ | .resetState | .connectionLost
  | .recoverState | .onCommand _ _ => .isFalse id

structure Reconnect (β : Type) where
  device : SlaveDevice β
  /-- The command area that the last loss has left, until the handshake. -/
  saved : Option (List β)
  /-- The commands since then, the latest first. -/
  commands : List (Nat × CommandMessage)

namespace Reconnect
variable {β : Type}
open SlaveDevice

def start (d : SlaveDevice β) : Reconnect β := ⟨d, none, []⟩

section Cells
variable [Cell β] (data : ConfigurationParser)

def next (r : Reconnect β) (s : Step) : Reconnect β :=
  let device := SlaveDevice.next data r.device s
  match s with
  | .connectionLost => ⟨device, some device.commandArea, []⟩
  | .onCommand task msg =>
    let received := !(r.device.messageWrites task msg).isEmpty
    { r with device, commands := if received then (task, msg) :: r.commands else r.commands }
  | .process _ => if r.device.isConfigured ∧ r.device.handshakes then ⟨device, none, []⟩ else { r with device }
  -- A serial number of 0 counts as a first configuration, which allocates another buffer.
  | .init _ => if r.device.sn = 0 then ⟨device, none, []⟩ else { r with device }
  | _ => { r with device }

theorem next_device (r : Reconnect β) (s : Step) : (r.next data s).device = SlaveDevice.next data r.device s := by
  cases s with
  | process currentTime =>
    change (ite _ _ _ : Reconnect β).device = _
    split <;> rfl
  | init call =>
    change (ite _ _ _ : Reconnect β).device = _
    split <;> rfl
  | _ => rfl

theorem exec_device (r : Reconnect β) (run : List Step) :
    (exec (next data) r run).device = exec (SlaveDevice.next data) r.device run :=
  exec_project (next_device data) r run

/-- The latest command of every task is in its region when the slave is back. -/
def LatestKept (r : Reconnect β) (s : Step) : Prop :=
  r.saved.isSome = true → r.device.ResendCompletes s →
    ∀ latest ∈ r.commands, r.commands.find? (fun command => command.1 == latest.1) = some latest →
      ∀ write ∈ r.device.messageWrites latest.1 latest.2,
        window (r.next data s).device.commandArea write.1 write.2.length = write.2

instance [DecidableEq β] (r : Reconnect β) (s : Step) : Decidable (r.LatestKept data s) :=
  inferInstanceAs (Decidable (_ → _ → ∀ _ ∈ _, _ → ∀ _ ∈ _, _))

/-- The command area is the one that the handling of the loss has left. -/
def RestoresSaved (r : Reconnect β) (s : Step) : Prop :=
  r.device.reconnectedTimes ≠ 0 → r.device.ResendCompletes s → ∀ area ∈ r.saved, (r.next data s).device.commandArea = area

/-- The backup is what the last loss has left. -/
structure Backed (r : Reconnect β) : Prop where
  allocated : r.device.Allocated
  area : ∀ area ∈ r.saved, r.device.backupArea = area
  size : r.saved.isSome = true → r.device.masterToSlaveBufBackup.size = r.device.masterToSlaveBufLen.toNat

variable {data}

omit [Cell β] in
theorem backed_none {d : SlaveDevice β} (allocated : d.Allocated) : (start d).Backed where
  allocated := allocated
  area := fun _ member => absurd member (Option.not_mem_none _)
  size := fun lost => absurd lost Bool.false_ne_true

theorem backed_next {r : Reconnect β} (s : Step) (backed : r.Backed) : (r.next data s).Backed := by
  have allocated := next_allocated data s backed.allocated
  -- A step that leaves the backup and its length keeps what is known about it.
  have keep : ∀ commands : List (Nat × CommandMessage), r.device.KeepsBackup s →
      (⟨SlaveDevice.next data r.device s, r.saved, commands⟩ : Reconnect β).Backed := by
    intro commands keeps
    obtain ⟨sameBackup, sameLen⟩ := next_backup data keeps
    refine ⟨allocated, ?_, ?_⟩
    · intro area member
      change SlaveDevice.backupArea (SlaveDevice.next data r.device s) = area
      rw [backupArea, sameBackup, sameLen]
      exact backed.area area member
    · intro lost
      change (SlaveDevice.next data r.device s).masterToSlaveBufBackup.size = _
      rw [sameBackup, sameLen]
      exact backed.size lost
  cases s with
  | connectionLost =>
    obtain ⟨area, size⟩ := backup_connectionLost data backed.allocated
    refine ⟨allocated, ?_, fun _ => size⟩
    intro saved member
    cases member
    exact area
  | process currentTime =>
    change Backed (ite _ _ _)
    split
    · exact backed_none allocated
    · exact keep _ trivial
  | init call =>
    change Backed (ite _ _ _)
    split
    case isTrue => exact backed_none allocated
    case isFalse known => exact keep _ known
  | _ => exact keep _ trivial

theorem restoresSaved {r : Reconnect β} (s : Step) (backed : r.Backed) : r.RestoresSaved data s := by
  intro again returns area member
  cases s with
  | process currentTime =>
    obtain ⟨configured, taken, sending⟩ := returns
    rw [next_device, commandArea_handshake configured taken,
      restored_backup backed.allocated (ne_ready_of_sending sending) again (backed.size (Option.isSome_of_mem member))]
    exact backed.area area member
  | _ => exact absurd returns id

/-- In every run in which a lost slave comes back by the handshake, with a reconnect counter that
is not 0, the commands are those that the handling of the loss has left. -/
theorem restoresSaved_along (d : SlaveDevice β) (configured : Configured data d) (run : List Step) :
    Along (next data) (RestoresSaved data) (start d) run :=
  along_of_invariant (backed_none (configured_allocated configured)) (fun _ s backed => backed_next s backed)
    (fun _ s backed => restoresSaved s backed)

end Cells

end Reconnect

/-- The slave sends every triple back, then reports that it is ready and confirms it. -/
def argumentCycles {β : Type} (d : SlaveDevice β) : List Step :=
  [.receiveFromSlave ⟨SLAVE_INITIALIZING, [0, 0, 0]⟩, .process 0, .transferToSlave] ++
    d.argTriples.flatMap (fun triple =>
      [.receiveFromSlave ⟨SLAVE_INITIALIZING, triple⟩, .process 0, .transferToSlave]) ++
    [.receiveFromSlave ⟨SLAVE_READY, []⟩, .process 0, .transferToSlave]

def confirmCycle : List Step :=
  [.receiveFromSlave ⟨SLAVE_CONFIRM_READY, []⟩, .process 0, .transferToSlave]

def pwmKeep : SlaveDevice UInt8 := SlaveDevice.setUp (pwmData 0x01) boardCall

def pwmReset : SlaveDevice UInt8 := SlaveDevice.setUp (pwmData 0x02) boardCall

/-- A command arrives after the loss and before the restart. -/
def commandDuringOutage : List Step :=
  argumentCycles pwmKeep ++ confirmCycle ++
    [.onCommand 0 (.writeOnBoardPWM 1600 1600 1600 1600), .connectionLost,
     .onCommand 0 (.writeOnBoardPWM 1000 1000 1000 1000),
     .init boardCall, .resetState, .preRecover] ++ argumentCycles pwmKeep

namespace Reconnect
open SlaveDevice

theorem restoresSaved_along_commandDuringOutage :
    Along (next (pwmData 0x01)) (RestoresSaved (pwmData 0x01))
      (start pwmKeep) commandDuringOutage :=
  restoresSaved_along _ pwm_keep_bytes_configured _

/-- The command of the outage is overwritten by the one before it. -/
theorem latestKept_along_commandDuringOutage :
    ¬∀ (data : ConfigurationParser) (d : SlaveDevice UInt8), Configured data d → ∀ run : List Step,
      Along (next data) (LatestKept data) (start d) run := by
  intro always
  exact absurd (always (pwmData 0x01) _ pwm_keep_bytes_configured commandDuringOutage) (by decide +kernel)

end Reconnect

end EcatMaster.Slave
