import EcatMaster.Slave.LostCommands
import EcatMaster.Slave.StatusByte

/-! The shutdown of the node.

The data cycle writes the initial values once, for the slaves whose arguments are sent,
and then runs on so that the slaves can reset their actuators. The run remembers that
this has happened.
-/

set_option autoImplicit false

namespace EcatMaster.Slave
open Library Config Tasks

namespace SlaveDevice
variable {β : Type} [Cell β]

/-- Every task that takes commands has its initial values in its command region. -/
def AtInit (tasks : List TaskWrapper) (area : List UInt8) : Prop :=
  ∀ task ∈ tasks, task.body.hasSubscribers = true →
    task.pdowriteOffset.toNat + (commandInit task).length ≤ area.length →
      window area task.pdowriteOffset.toNat (commandInit task).length = commandInit task

instance (tasks : List TaskWrapper) (area : List UInt8) : Decidable (AtInit tasks area) := List.decidableBAll _ _

/-- The initial values of the chosen tasks do not reach into the command region of another task. -/
def InitsLocal (chosen : TaskWrapper → Bool) (tasks : List TaskWrapper) : Prop :=
  ∀ i : Fin tasks.length, (tasks.get i).body.hasSubscribers = true → InitsStayOut chosen tasks i

instance (chosen : TaskWrapper → Bool) (tasks : List TaskWrapper) : Decidable (InitsLocal chosen tasks) :=
  inferInstanceAs (Decidable (∀ _ : Fin _, _ → _))

def areaBytes (d : SlaveDevice β) : List UInt8 := d.commandArea.map Cell.byte

theorem map_initWrites (chosen : TaskWrapper → Bool) (tasks : List TaskWrapper) :
    (initWrites (Cell.store (β := β) .initValue) chosen tasks).map (fun write => (write.1, write.2.map Cell.byte)) =
      initWrites id chosen tasks := by
  simp [initWrites, Cell.byte_store, Function.comp_def]

theorem atInit_initWrites {tasks : List TaskWrapper} {chosen : TaskWrapper → Bool} {area : List UInt8}
    (stay : InitsLocal chosen tasks)
    (others : ∀ task ∈ tasks, task.body.hasSubscribers = true → chosen task = false →
      task.pdowriteOffset.toNat + (commandInit task).length ≤ area.length →
        window area task.pdowriteOffset.toNat (commandInit task).length = commandInit task) :
    AtInit tasks (overwriteAll area (initWrites id chosen tasks)) := by
  intro task member subscribes fits
  rw [length_overwriteAll] at fits
  obtain ⟨i, rfl⟩ := List.get_of_mem member
  cases taken : chosen (tasks.get i) with
  | true =>
    rw [window_initWrites_chosen (stay i subscribes) taken _ fits]
    exact List.map_id _
  | false =>
    have short := (length_commandInit_le (tasks.get i)).1
    have kept := window_initWrites_kept (f := id) (stay i subscribes) taken area
    rw [← window_prefix _ _ short, kept, window_prefix _ _ short]
    exact others _ member subscribes taken fits

theorem atInit_initialised {d : SlaveDevice β} (stay : InitsLocal (fun task => task.body.hasSubscribers) d.taskList)
    (v : ByteVec β) : AtInit d.taskList (((d.initialised v).storage.take d.masterToSlaveBufLen.toNat).map Cell.byte) := by
  simp only [initialised, ByteVec.storage_copyAll, ByteVec.storage_copyIn, take_overwriteAll, map_overwriteAll,
    subscriberWrites_eq, map_initWrites]
  apply atInit_initWrites stay
  intro task _ subscribes left
  rw [subscribes] at left
  cases left

theorem atInit_lost {d : SlaveDevice β}
    (stay : InitsLocal (fun task => task.connectionLostWriteAction = 0x02) d.taskList)
    (before : AtInit d.taskList d.areaBytes) :
    AtInit d.taskList ((d.lostBuffer.storage.take d.masterToSlaveBufLen.toNat).map Cell.byte) := by
  simp only [lostBuffer, ByteVec.storage_copyAll, take_overwriteAll, map_overwriteAll, lostWrites_eq, map_initWrites]
  exact atInit_initWrites stay fun task member subscribes _ fits => before task member subscribes fits

def Agrees (stored initial : List UInt8) : Prop := stored.take initial.length = initial.take stored.length

instance (stored initial : List UInt8) : Decidable (Agrees stored initial) := inferInstanceAs (Decidable (_ = _))

def AsksForInit (d : SlaveDevice β) (task : Nat) (msg : CommandMessage) : Prop :=
  ∀ wrapper ∈ d.taskList[task]?, (commandWrite (β := β) wrapper msg).isSome = true →
    Agrees (wrapper.body.commandBytes msg) wrapper.body.initBytes

instance (d : SlaveDevice β) (task : Nat) (msg : CommandMessage) : Decidable (d.AsksForInit task msg) :=
  inferInstanceAs (Decidable (∀ _ ∈ d.taskList[task]?, _ → _))

theorem agrees_commandInit {task : TaskWrapper} {stored : List UInt8} (length : stored.length = task.body.commandLength)
    (agrees : Agrees stored task.body.initBytes) : Agrees stored (commandInit task) := by
  unfold Agrees at agrees ⊢
  rw [length] at agrees
  rw [length, commandInit, List.take_take, Nat.min_self, ← agrees, List.length_take, List.take_eq_take_iff]
  omega

theorem atInit_message {d : SlaveDevice β} {task : Nat} {msg : CommandMessage}
    (apart : d.taskList.Pairwise CommandsApart) (before : AtInit d.taskList d.areaBytes)
    (asks : d.AsksForInit task msg) :
    AtInit d.taskList (((d.masterToSlaveBuf.copyAll (d.messageWrites task msg)).storage.take
      d.masterToSlaveBufLen.toNat).map Cell.byte) := by
  rw [ByteVec.storage_copyAll, take_overwriteAll, map_overwriteAll]
  change AtInit d.taskList (overwriteAll d.areaBytes _)
  unfold messageWrites
  cases subscribed : d.taskList[task]?.bind (commandWrite (β := β) · msg) with
  | none => exact before
  | some write =>
    obtain ⟨wrapper, found, stored⟩ := Option.bind_eq_some_iff.mp subscribed
    have agrees := asks wrapper found (by simp [stored])
    unfold commandWrite at stored
    obtain ⟨handler, called, rfl⟩ := Option.map_eq_some_iff.mp stored
    have length := wrapper.body.length_commandBytes called
    have bytes : ((wrapper.body.commandBytes msg).map (Cell.store (β := β) .command)).map Cell.byte =
        wrapper.body.commandBytes msg := by
      simp [Function.comp_def, Cell.byte_store]
    simp only [Option.toList_some, List.map_cons, List.map_nil, overwriteAll_cons, overwriteAll_nil, bytes]
    intro other member subscribes fits
    rw [length_overwrite] at fits
    have holds := before other member subscribes fits
    obtain ⟨j, there⟩ := List.mem_iff_getElem?.mp member
    -- The command stays within its own region, and leaves that at the initial values.
    by_cases same : task = j
    · rw [← same, found] at there
      cases there
      exact window_overwrite_agrees _ _ _ _ holds (agrees_commandInit length agrees)
    · have distinct := commandsApart_of_pairwise apart there found same
      have short := (length_commandInit_le other).1
      rw [window_overwrite_apart _ _ _ _ _ (by unfold CommandsApart Apart at *; omega)]
      exact holds

end SlaveDevice

structure Exit (β : Type) where
  device : SlaveDevice β
  /-- `exiting_reset_called_`. -/
  resetCalled : Bool

namespace Exit
variable {β : Type}
open SlaveDevice

def start (d : SlaveDevice β) : Exit β := ⟨d, false⟩

section Cells
variable [Cell β] (data : ConfigurationParser)

def next (e : Exit β) (s : Step) : Exit β := ⟨SlaveDevice.next data e.device s, e.resetCalled || s == .exitReset⟩

theorem exec_device (e : Exit β) (run : List Step) :
    (exec (next data) e run).device = exec (SlaveDevice.next data) e.device run :=
  exec_project (fun _ _ => rfl) e run

/-- A frame to a slave that works commands the initial values. -/
def CarriesInit (tasks : List TaskWrapper) : Event → Prop
  | .frame frame => MASTER_READY ≤ frame.status → AtInit tasks frame.data
  | _ => True

instance (tasks : List TaskWrapper) : (event : Event) → Decidable (CarriesInit tasks event)
  | .frame _ => inferInstanceAs (Decidable (_ → _))
  | .initReturned _ | .masterReady _ | .writeInitValues | .recoverMasterToSlaveBuf | .processPdo | .latency _
  | .read _ _ | .publishEmptyMessage _ => .isTrue trivial

def FramesAtInit (e : Exit β) (s : Step) : Prop :=
  e.resetCalled = true → ∀ event ∈ (e.device.step data s).2, CarriesInit e.device.taskList event

instance (e : Exit β) (s : Step) : Decidable (e.FramesAtInit data s) := inferInstanceAs (Decidable (_ → ∀ _ ∈ _, _))

/-- The exit reset reaches the buffer of a slave that works, and after it no step fills the buffer
with anything else: no command, no restored one, no initial values of another task, no status that becomes
ready without a handshake. -/
def StaysAtInit (e : Exit β) : Step → Prop
  | .exitReset =>
    MASTER_READY ≤ e.device.masterStatus →
      if e.device.isArgSent then InitsLocal (fun task => task.body.hasSubscribers) e.device.taskList
      else e.resetCalled = true ∨ AtInit e.device.taskList e.device.areaBytes
  | .onCommand task msg =>
    e.resetCalled = true → MASTER_READY ≤ e.device.masterStatus → e.device.AsksForInit task msg
  | .process _ =>
    e.resetCalled = true → e.device.isConfigured = true →
      if e.device.handshakes then
        if e.device.writesInitValues then InitsLocal (fun task => task.body.hasSubscribers) e.device.taskList
        else AtInit e.device.taskList (e.device.handedOver.map Cell.byte)
      else e.device.masterStatus = MASTER_SENDING_ARGUMENTS → e.device.counts = false
  | .connectionLost =>
    e.resetCalled = true → MASTER_READY ≤ e.device.masterStatus →
      InitsLocal (fun task => task.connectionLostWriteAction = 0x02) e.device.taskList
  | .init call => e.resetCalled = true → sdoLenOf data (e.device.readSn call) ≠ .ok 0
  | _ => True

instance (e : Exit β) : (s : Step) → Decidable (e.StaysAtInit data s)
  | .exitReset => inferInstanceAs (Decidable (_ → ite _ _ _))
  | .onCommand _ _ => inferInstanceAs (Decidable (_ → _ → _))
  | .process _ => inferInstanceAs (Decidable (_ → _ → ite _ (ite _ _ _) _))
  | .connectionLost => inferInstanceAs (Decidable (_ → _ → InitsLocal _ _))
  | .init _ => inferInstanceAs (Decidable (_ → ¬_))
  | .receiveFromSlave _ | .transferToSlave | .preRecover | .resetState | .recoverState => .isTrue trivial

structure Reset (e : Exit β) : Prop where
  allocated : e.device.Allocated
  range : e.device.StatusRange
  apart : e.device.taskList.Pairwise CommandsApart
  area : e.resetCalled = true → MASTER_READY ≤ e.device.masterStatus → AtInit e.device.taskList e.device.areaBytes

variable {data}

omit [Cell β] in
theorem ready_of_configured {d : SlaveDevice β} (range : d.StatusRange) (configured : d.isConfigured = true)
    (missed : d.handshakes = false) (rests : d.masterStatus = MASTER_SENDING_ARGUMENTS → d.counts = false)
    (ready : MASTER_READY ≤ d.statusAfter) : MASTER_READY ≤ d.masterStatus := by
  rcases sending_or_ready range configured with sending | before
  · simp only [statusAfter, statusBefore, missed, rests sending, Bool.false_eq_true, if_false] at ready
    exact absurd ready (not_ready_of_sending sending)
  · exact before

theorem area_process {e : Exit β} {currentTime : Int} (reset : e.Reset)
    (stays : e.StaysAtInit data (.process currentTime)) (called : e.resetCalled = true)
    (ready : MASTER_READY ≤ (SlaveDevice.next data e.device (.process currentTime)).masterStatus) :
    AtInit e.device.taskList (areaBytes (SlaveDevice.next data e.device (.process currentTime))) := by
  cases configured : e.device.isConfigured with
  | false =>
    rw [next_process_skipped configured] at ready ⊢
    exact reset.area called ready
  | true =>
    have stays := stays called configured
    cases taken : e.device.handshakes with
    | true =>
      rw [taken, if_pos rfl] at stays
      rw [areaBytes, commandArea_handshake configured taken, take_restored reset.allocated]
      split_ifs at stays ⊢
      · exact atInit_initialised stays _
      · exact stays
    | false =>
      rw [taken, if_neg Bool.false_ne_true] at stays
      rw [next_process configured] at ready ⊢
      have before : MASTER_READY ≤ e.device.masterStatus := ready_of_configured reset.range configured taken stays ready
      simp only [areaBytes, commandArea, bufferAfter, taken, sendingWrites_ready before]
      exact reset.area called before

theorem reset_next {e : Exit β} (s : Step) (reset : e.Reset) (stays : e.StaysAtInit data s) :
    (e.next data s).Reset where
  allocated := next_allocated data s reset.allocated
  range := next_statusRange data s reset.range
  apart := by
    change (SlaveDevice.next data e.device s).taskList.Pairwise _
    rw [(next_setUp data e.device s).2.2]
    exact reset.apart
  area := by
    intro called ready
    change AtInit (SlaveDevice.next data e.device s).taskList (SlaveDevice.next data e.device s).areaBytes
    change MASTER_READY ≤ (SlaveDevice.next data e.device s).masterStatus at ready
    change (e.resetCalled || s == .exitReset) = true at called
    rw [(next_setUp data e.device s).2.2]
    cases s with
    | process currentTime => exact area_process reset stays (by simpa using called) ready
    | connectionLost =>
      rw [next_connectionLost] at ready ⊢
      have called : e.resetCalled = true := by simpa using called
      exact atInit_lost (stays called ready) (reset.area called ready)
    | onCommand task msg =>
      rw [next_onCommand] at ready ⊢
      have called : e.resetCalled = true := by simpa using called
      exact atInit_message reset.apart (reset.area called ready) (stays called ready)
    | exitReset =>
      rw [next_exitReset] at ready ⊢
      have kept := stays ready
      cases sent : e.device.isArgSent with
      | true =>
        rw [sent, if_pos rfl] at kept
        simp only [if_true, areaBytes, commandArea]
        exact atInit_initialised kept _
      | false =>
        rw [sent, if_neg Bool.false_ne_true] at kept
        exact kept.elim (fun before => reset.area before ready) id
    | init call =>
      have called : e.resetCalled = true := by simpa using called
      rw [SlaveDevice.next, step] at ready ⊢
      rcases init_cases data call e.device with ⟨_, outcome⟩ | ⟨_, passed, outcome⟩ | ⟨_, sdoLen, found, outcome⟩
      · rw [outcome] at ready ⊢
        exact reset.area called ready
      · rw [outcome] at ready ⊢
        exact reset.area called ready
      · -- An accepted board has arguments to send, so its status byte is not ready.
        have sends : sdoLen ≠ 0 := by
          rintro rfl
          exact stays called found
        rw [outcome] at ready
        simp only [sends, if_false] at ready
        exact absurd ready (not_ready_of_sending rfl)
    | _ => exact reset.area (by simpa using called) ready

theorem framesAtInit {e : Exit β} (s : Step) (reset : e.Reset) : e.FramesAtInit data s := by
  intro called event emitted
  cases event with
  | frame frame =>
    obtain ⟨_, rfl⟩ := frame_emitted emitted
    exact reset.area called
  | _ => trivial

/-- In a run that stays at the initial values, every frame after the exit reset carries them. -/
theorem framesAtInit_along (d : SlaveDevice β) (configured : Configured data d)
    (apart : d.taskList.Pairwise CommandsApart) (run : List Step)
    (stays : Along (next data) (StaysAtInit data) (start d) run) :
    Along (next data) (FramesAtInit data) (start d) run := by
  refine Along.transfer (I := Reset) ?_ (fun _ s reset stays => reset_next s reset stays)
    (fun _ s reset _ => framesAtInit s reset) stays
  exact ⟨configured_allocated configured, configured_statusRange configured, apart,
    fun called => absurd called Bool.false_ne_true⟩

end Cells

/-- A slave works when the node exits. -/
def exitWhileWorking : List Step :=
  argumentCycles pwmKeep ++ confirmCycle ++
    [.onCommand 0 (.writeOnBoardPWM 1600 1600 1600 1600), .exitReset, .transferToSlave] ++ confirmCycle

theorem framesAtInit_along_exitWhileWorking :
    Along (next (pwmData 0x01)) (FramesAtInit (pwmData 0x01)) (start pwmKeep) exitWhileWorking :=
  framesAtInit_along _ pwm_keep_bytes_configured (by decide +kernel) _ (by decide +kernel)

/-- A slave has fallen back to SAFE_OP without a restart, and the checker has brought it to OP
again, when the node exits. -/
def exitWhileRecovering : List Step :=
  argumentCycles pwmKeep ++ confirmCycle ++
    [.onCommand 0 (.writeOnBoardPWM 1600 1600 1600 1600), .preRecover, .exitReset, .transferToSlave]

/-- The exit reset skips it, and its actuator keeps the command. -/
theorem framesAtInit_along_exitWhileRecovering :
    ¬∀ (data : ConfigurationParser) (d : SlaveDevice UInt8), Configured data d →
      d.taskList.Pairwise CommandsApart → ∀ run : List Step,
        Along (next data) (FramesAtInit data) (start d) run := by
  intro always
  have broken : ¬Along (next (pwmData 0x01)) (FramesAtInit (pwmData 0x01)) (start pwmKeep) exitWhileRecovering := by
    decide +kernel
  exact broken (always _ _ pwm_keep_bytes_configured (by decide +kernel) _)

end Exit

end EcatMaster.Slave
