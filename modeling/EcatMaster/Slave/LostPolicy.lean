import EcatMaster.Slave.LostCommands

/-! The connection-lost policy over whole outages.

An outage begins when the checker takes a working slave out of the data cycle, for the
state NONE or, after a quick restart, for the state INIT. The run remembers the command
area of that moment until the slave works again.
-/

set_option autoImplicit false

namespace EcatMaster.Slave
open Library Config Tasks

structure Outage (β : Type) where
  device : SlaveDevice β
  /-- The command area when the outage began. -/
  began : Option (List β)
  /-- The policies have been applied since then. -/
  lost : Bool
  /-- A command has arrived since then. -/
  commanded : Bool

namespace Outage
variable {β : Type}
open SlaveDevice

def start (d : SlaveDevice β) : Outage β := ⟨d, none, false, false⟩

def working (d : SlaveDevice β) : Bool := d.isReady && MASTER_READY ≤ d.masterStatus

def opens : Step → Bool
  | .connectionLost | .init _ | .resetState => true
  | _ => false

def opened (o : Outage β) (s : Step) : Outage β :=
  if o.began.isNone && opens s && working o.device then ⟨o.device, some o.device.commandArea, false, false⟩
  else o

section Cells
variable [Cell β] (data : ConfigurationParser)

def next (o : Outage β) (s : Step) : Outage β :=
  let device := SlaveDevice.next data o.device s
  let o := o.opened s
  match s with
  | .connectionLost => { o with device, lost := true }
  | .onCommand _ _ => { o with device, commanded := true }
  -- The outage ends with the handshake, or when a slave that was not reconfigured is back.
  | .process _ =>
    if o.device.isConfigured ∧ (o.device.handshakes ∨ o.device.counts) then start device else { o with device }
  | _ => { o with device }

theorem next_device (o : Outage β) (s : Step) : (o.next data s).device = SlaveDevice.next data o.device s := by
  cases s with
  | process currentTime =>
    change (ite _ _ _ : Outage β).device = _
    split <;> rfl
  | _ => rfl

theorem exec_device (o : Outage β) (run : List Step) :
    (exec (next data) o run).device = exec (SlaveDevice.next data) o.device run :=
  exec_project (next_device data) o run

/-- The result of a policy in the command regions that no other task shares: a task that is reset has its
initial values, another one has the bytes that it had when the outage began. -/
def Honoured (tasks : List TaskWrapper) (began area : List β) : Prop :=
  ∀ i : Fin tasks.length, (tasks.get i).body.hasSubscribers = true → OwnRegion tasks i →
    ((tasks.get i).connectionLostWriteAction = 0x02 →
      (tasks.get i).pdowriteOffset.toNat + (commandInit (tasks.get i)).length ≤ area.length →
        window area (tasks.get i).pdowriteOffset.toNat (commandInit (tasks.get i)).length =
          (commandInit (tasks.get i)).map (Cell.store .initValue)) ∧
    ((tasks.get i).connectionLostWriteAction ≠ 0x02 →
      window area (tasks.get i).pdowriteOffset.toNat (tasks.get i).body.commandLength =
        window began (tasks.get i).pdowriteOffset.toNat (tasks.get i).body.commandLength)

instance [DecidableEq β] (tasks : List TaskWrapper) (began area : List β) : Decidable (Honoured tasks began area) :=
  inferInstanceAs (Decidable (∀ _ : Fin _, _ → _ → (_ → _ → _) ∧ (_ → _)))

def Unchanged (tasks : List TaskWrapper) (began area : List β) : Prop :=
  ∀ i : Fin tasks.length, (tasks.get i).body.hasSubscribers = true → OwnRegion tasks i →
    (tasks.get i).connectionLostWriteAction ≠ 0x02 →
      window area (tasks.get i).pdowriteOffset.toNat (tasks.get i).body.commandLength =
        window began (tasks.get i).pdowriteOffset.toNat (tasks.get i).body.commandLength

instance [DecidableEq β] (tasks : List TaskWrapper) (began area : List β) : Decidable (Unchanged tasks began area) :=
  inferInstanceAs (Decidable (∀ _ : Fin _, _ → _ → _ → _))

/-- No policy stores initial values in the command region of another task. -/
def PoliciesStayOut (tasks : List TaskWrapper) : Prop :=
  ∀ i : Fin tasks.length, (tasks.get i).body.hasSubscribers = true → OwnRegion tasks i →
    InitsStayOut (fun task => task.connectionLostWriteAction = 0x02) tasks i

instance (tasks : List TaskWrapper) : Decidable (PoliciesStayOut tasks) :=
  inferInstanceAs (Decidable (∀ _ : Fin _, _ → _ → _))

/-- When the resend of an outage without commands completes, every policy has been honoured. -/
def HonouredAtReady (o : Outage β) (s : Step) : Prop :=
  o.device.ResendCompletes s → o.commanded = false →
    ∀ began ∈ o.began, Honoured o.device.taskList began (o.next data s).device.commandArea

instance [DecidableEq β] (o : Outage β) (s : Step) : Decidable (o.HonouredAtReady data s) :=
  inferInstanceAs (Decidable (_ → _ → ∀ _ ∈ _, _))

/-- The outage is handled as a loss while the tasks still have their bytes, and no policy stores in the region
of another task; the reconnect counter is not 0 when the buffer is restored, and the board has a serial number. -/
def HandledAsLoss (o : Outage β) (s : Step) : Prop :=
  match s with
  | .connectionLost =>
    (o.opened s).commanded = false → ∀ began ∈ (o.opened s).began,
      PoliciesStayOut o.device.taskList ∧ Unchanged o.device.taskList began o.device.commandArea
  | .init _ => o.lost = true → o.device.sn ≠ 0
  | .process _ =>
    o.device.ResendCompletes s → o.commanded = false → o.began.isSome = true →
      o.lost = true ∧ o.device.reconnectedTimes ≠ 0
  | _ => True

instance [DecidableEq β] (o : Outage β) : (s : Step) → Decidable (o.HandledAsLoss s)
  | .connectionLost => inferInstanceAs (Decidable (_ → ∀ _ ∈ (o.opened .connectionLost).began, _ ∧ _))
  | .init _ => inferInstanceAs (Decidable (_ → ¬_))
  | .process _ => inferInstanceAs (Decidable (_ → _ → _ → _ ∧ _))
  | .receiveFromSlave _ | .exitReset | .transferToSlave | .preRecover | .resetState | .recoverState
  | .onCommand _ _ => .isTrue trivial

structure Prepared (o : Outage β) : Prop where
  allocated : o.device.Allocated
  size : o.lost = true → o.device.masterToSlaveBufBackup.size = o.device.masterToSlaveBufLen.toNat
  backup : o.lost = true → o.commanded = false →
    ∀ began ∈ o.began, Honoured o.device.taskList began o.device.backupArea

variable {data}

theorem prepared_start {d : SlaveDevice β} (allocated : d.Allocated) : (start d).Prepared where
  allocated := allocated
  size := fun lost => absurd lost Bool.false_ne_true
  backup := fun lost => absurd lost Bool.false_ne_true

omit [Cell β] in
theorem opened_cases (o : Outage β) (s : Step) :
    o.opened s = o ∨ o.opened s = ⟨o.device, some o.device.commandArea, false, false⟩ := by
  unfold opened
  split
  · exact Or.inr rfl
  · exact Or.inl rfl

theorem honoured_lost {d : SlaveDevice β} {began : List β} (apart : PoliciesStayOut d.taskList)
    (unchanged : Unchanged d.taskList began d.commandArea) :
    Honoured d.taskList began (overwriteAll d.commandArea d.lostWrites) := by
  intro i subscribes own
  have stay := apart i subscribes own
  rw [lostWrites_eq]
  constructor
  · intro resets fits
    rw [length_overwriteAll] at fits
    exact window_initWrites_chosen stay (by simpa using resets) _ fits
  · intro keeps
    rw [window_initWrites_kept stay (by simpa using keeps)]
    exact unchanged i subscribes own keeps

theorem prepared_lost {o : Outage β} (prepared : o.Prepared) (handled : o.HandledAsLoss .connectionLost) :
    (o.next data .connectionLost).Prepared := by
  obtain ⟨area, size⟩ := backup_connectionLost data prepared.allocated
  refine ⟨next_allocated data _ prepared.allocated, fun _ => size, ?_⟩
  intro _ quiet began within
  obtain ⟨apart, unchanged⟩ := handled quiet began within
  change Honoured (SlaveDevice.next data o.device .connectionLost).taskList began
    (SlaveDevice.next data o.device .connectionLost).backupArea
  have after : (SlaveDevice.next data o.device .connectionLost).commandArea =
      overwriteAll o.device.commandArea o.device.lostWrites := by
    rw [next_connectionLost]
    exact take_overwriteAll _ _ _
  rw [area, after, (next_setUp data o.device .connectionLost).2.2]
  exact honoured_lost apart unchanged

theorem prepared_keep {o : Outage β} {s : Step} {commanded : Bool} (prepared : o.Prepared)
    (keeps : o.lost = true → o.device.KeepsBackup s) (before : commanded = false → (o.opened s).commanded = false) :
    Prepared { o.opened s with device := SlaveDevice.next data o.device s, commanded } := by
  have allocated := next_allocated data s prepared.allocated
  rcases o.opened_cases s with same | fresh
  · rw [same] at before ⊢
    refine ⟨allocated, ?_, ?_⟩
    · intro lost
      obtain ⟨sameBackup, sameLen⟩ := next_backup data (keeps lost)
      change (SlaveDevice.next data o.device s).masterToSlaveBufBackup.size = _
      rw [sameBackup, sameLen]
      exact prepared.size lost
    · intro lost quiet began within
      obtain ⟨sameBackup, sameLen⟩ := next_backup data (keeps lost)
      change Honoured (SlaveDevice.next data o.device s).taskList began
        (SlaveDevice.backupArea (SlaveDevice.next data o.device s))
      rw [backupArea, sameBackup, sameLen, (next_setUp data o.device s).2.2]
      exact prepared.backup lost (before quiet) began within
  · rw [fresh]
    exact ⟨allocated, fun lost => absurd lost Bool.false_ne_true, fun lost => absurd lost Bool.false_ne_true⟩

theorem prepared_next {o : Outage β} (s : Step) (prepared : o.Prepared) (handled : o.HandledAsLoss s) :
    (o.next data s).Prepared := by
  cases s with
  | connectionLost => exact prepared_lost prepared handled
  | init call => exact prepared_keep prepared handled id
  | process currentTime =>
    change Prepared (ite _ _ _)
    split
    · exact prepared_start (next_allocated data _ prepared.allocated)
    · exact prepared_keep prepared (fun _ => trivial) id
  | onCommand task msg =>
    exact prepared_keep prepared (fun _ => trivial) fun quiet => absurd quiet.symm Bool.false_ne_true
  | _ => exact prepared_keep prepared (fun _ => trivial) id

theorem honouredAtReady {o : Outage β} (s : Step) (prepared : o.Prepared) (handled : o.HandledAsLoss s) :
    o.HonouredAtReady data s := by
  intro completes quiet began within
  cases s with
  | process currentTime =>
    -- The handshake copies the backup, which was taken after the policies.
    obtain ⟨lost, again⟩ := handled completes quiet (Option.isSome_of_mem within)
    obtain ⟨configured, taken, sending⟩ := completes
    rw [next_device, commandArea_handshake configured taken,
      restored_backup prepared.allocated (ne_ready_of_sending sending) again (prepared.size lost)]
    exact prepared.backup lost quiet began within
  | _ => exact absurd completes id

/-- In a run that handles every outage as a loss, every connection-lost policy is honoured. -/
theorem honoured_along (d : SlaveDevice β) (configured : Configured data d) (run : List Step)
    (handled : Along (next data) HandledAsLoss (start d) run) :
    Along (next data) (HonouredAtReady data) (start d) run :=
  Along.transfer (prepared_start (configured_allocated configured))
    (fun _ s prepared handled => prepared_next s prepared handled)
    (fun _ s prepared handled => honouredAtReady s prepared handled) handled

end Cells

/-- A working slave is lost, and comes back after it has restarted. -/
def seenLost : List Step :=
  argumentCycles pwmReset ++ confirmCycle ++
    [.onCommand 0 (.writeOnBoardPWM 1600 1600 1600 1600), .connectionLost, .init boardCall, .resetState,
     .preRecover] ++ argumentCycles pwmReset

theorem honoured_along_seenLost :
    Along (next (pwmData 0x02)) (HonouredAtReady (pwmData 0x02)) (start pwmReset) seenLost :=
  honoured_along _ pwm_reset_bytes_configured _ (by decide +kernel)

/-- The slave restarts so fast that the checker sees it in the state INIT first. -/
def seenRestarted : List Step :=
  argumentCycles pwmReset ++ confirmCycle ++
    [.onCommand 0 (.writeOnBoardPWM 1600 1600 1600 1600), .init boardCall, .resetState, .preRecover] ++
    argumentCycles pwmReset

theorem honoured_along_seenRestarted :
    ¬∀ (data : ConfigurationParser) (d : SlaveDevice UInt8), Configured data d → ∀ run : List Step,
      Along (next data) (HonouredAtReady data) (start d) run := by
  intro always
  have broken : ¬Along (next (pwmData 0x02)) (HonouredAtReady (pwmData 0x02)) (start pwmReset) seenRestarted := by
    decide +kernel
  exact broken (always _ _ pwm_reset_bytes_configured _)

end Outage

end EcatMaster.Slave
