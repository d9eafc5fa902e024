import EcatMaster.Slave.Commands

/-! The command regions of the tasks.

A task stores from `pdowrite_offset` on, and its type bounds how far. The buffer is
rewritten as a whole on a lost connection, in a handshake and by the exit reset;
here each of these is read region by region.
-/

set_option autoImplicit false

namespace EcatMaster.Tasks
open Io

def TaskBody.regionLength : TaskBody → Nat
  | .djiMotor _ | .ddMotor _ => 12
  | .dshot _ | .onboardPwm _ => 8
  | .externalPwm _ channelNum => 2 * channelNum.toNat
  | .lkMotor _ _ => 8
  | .dmMotor _ _ _ _ => 9
  | .superCap => 4
  | _ => 0

theorem length_uint16s (n : Nat) (value : UInt16) : (List.replicate n (uint16Bytes value)).flatten.length = 2 * n := by
  simp [uint16Bytes, Nat.mul_comm]

theorem TaskBody.length_initBytes_le (body : TaskBody) : body.initBytes.length ≤ body.regionLength := by
  cases body with
  | lkMotor isBroadcastMode controlType => cases isBroadcastMode <;> exact Nat.le_of_ble_eq_true rfl
  | externalPwm initValue channelNum => exact Nat.le_of_eq (length_uint16s channelNum.toNat initValue)
  | _ => exact Nat.le_of_ble_eq_true rfl

theorem length_motorsBytes_le (flags : MotorFlags) (motor1 motor2 motor3 motor4 : MotorCommand) :
    (motorsBytes flags motor1 motor2 motor3 motor4).length ≤ 12 := by
  have each : ∀ (enabled : Bool) (motor : MotorCommand), (motorBytes enabled motor).length ≤ 3 := by
    intro enabled motor
    cases enabled <;> simp [motorBytes, uint16Bytes]
  have first := each flags.motor1 motor1
  have second := each flags.motor2 motor2
  have third := each flags.motor3 motor3
  have fourth := each flags.motor4 motor4
  simp only [motorsBytes, List.length_append]
  omega

theorem TaskBody.length_commandBytes_le {β : Type} (body : TaskBody) (msg : CommandMessage)
    {handler : Cursor β → Cursor β} (subscribed : body.onCommand msg = some handler) :
    (body.commandBytes msg).length ≤ body.regionLength := by
  unfold onCommand at subscribed
  split at subscribed <;> cases subscribed
  case h_1 | h_2 => exact length_motorsBytes_le _ _ _ _ _
  case h_5 flags channelNum channels beyond =>
    change ((List.range channelNum.toNat).flatMap fun i => uint16Bytes (channelAt channels beyond i)).length ≤
      2 * channelNum.toNat
    rw [List.length_flatMap]
    simp [uint16Bytes, Nat.mul_comm]
  all_goals exact Nat.le_of_ble_eq_true rfl

end EcatMaster.Tasks

namespace EcatMaster.Slave
open Library Config Tasks

namespace SlaveDevice

/-- No byte belongs to both regions. -/
def RegionsApart (first later : TaskWrapper) : Prop :=
  Apart first.pdowriteOffset.toNat first.body.regionLength later.pdowriteOffset.toNat later.body.regionLength

instance (first later : TaskWrapper) : Decidable (RegionsApart first later) := inferInstanceAs (Decidable (Apart _ _ _ _))

theorem others_split {tasks : List TaskWrapper} {i : Nat} {task : TaskWrapper} (here : tasks[i]? = some task) :
    ∃ before after, tasks = before ++ task :: after ∧
      ∀ other ∈ before ++ after, ∃ j, j ≠ i ∧ tasks[j]? = some other := by
  obtain ⟨bound, rfl⟩ := List.getElem?_eq_some_iff.mp here
  refine ⟨tasks.take i, tasks.drop (i + 1), ?_, ?_⟩
  · rw [← List.drop_eq_getElem_cons bound, List.take_append_drop]
  · intro other member
    rcases List.mem_append.mp member with before | after
    · obtain ⟨j, found⟩ := List.mem_iff_getElem?.mp before
      rw [List.getElem?_take] at found
      split at found
      case isTrue early => exact ⟨j, by omega, found⟩
      case isFalse => cases found
    · obtain ⟨j, found⟩ := List.mem_iff_getElem?.mp after
      rw [List.getElem?_drop] at found
      exact ⟨_, by omega, found⟩

/-- No other task stores commands in the command region of the task at this place. -/
def OwnRegion (tasks : List TaskWrapper) (i : Fin tasks.length) : Prop :=
  ∀ j : Fin tasks.length, j ≠ i → CommandsApart (tasks.get j) (tasks.get i)

instance (tasks : List TaskWrapper) (i : Fin tasks.length) : Decidable (OwnRegion tasks i) :=
  inferInstanceAs (Decidable (∀ _ : Fin _, _))

/-- The initial values of the other chosen tasks do not reach into the command region of the task at this place. -/
def InitsStayOut (chosen : TaskWrapper → Bool) (tasks : List TaskWrapper) (i : Fin tasks.length) : Prop :=
  ∀ j : Fin tasks.length, j ≠ i → chosen (tasks.get j) = true →
    Apart (tasks.get j).pdowriteOffset.toNat (tasks.get j).body.initBytes.length
      (tasks.get i).pdowriteOffset.toNat (tasks.get i).body.commandLength

instance (chosen : TaskWrapper → Bool) (tasks : List TaskWrapper) (i : Fin tasks.length) :
    Decidable (InitsStayOut chosen tasks i) := inferInstanceAs (Decidable (∀ _ : Fin _, _))

/-- The initial values of a task, as far as its command region goes. -/
def commandInit (task : TaskWrapper) : List UInt8 := task.body.initBytes.take task.body.commandLength

theorem length_commandInit_le (task : TaskWrapper) :
    (commandInit task).length ≤ task.body.commandLength ∧ (commandInit task).length ≤ task.body.initBytes.length := by
  rw [commandInit, List.length_take]
  omega

def initWrites {α : Type} (f : UInt8 → α) (chosen : TaskWrapper → Bool) (tasks : List TaskWrapper) :
    List (Nat × List α) :=
  (tasks.filter chosen).map fun task => (task.pdowriteOffset.toNat, task.body.initBytes.map f)

section Windows
variable {α : Type} {f : UInt8 → α} {chosen : TaskWrapper → Bool} {tasks : List TaskWrapper} {task : TaskWrapper}

theorem initWrites_apart {off len : Nat}
    (others : ∀ other ∈ tasks, chosen other = true →
      Apart other.pdowriteOffset.toNat other.body.initBytes.length off len) :
    ∀ write ∈ initWrites f chosen tasks, Apart write.1 write.2.length off len := by
  intro write member
  obtain ⟨other, within, rfl⟩ := List.mem_map.mp member
  obtain ⟨listed, taken⟩ := List.mem_filter.mp within
  simpa using others other listed taken

section OneTask
variable {before after : List TaskWrapper} {len : Nat}

theorem window_initWrites_own (taken : chosen task = true) (xs : List α)
    (others : ∀ other ∈ before ++ after, chosen other = true →
      Apart other.pdowriteOffset.toNat other.body.initBytes.length task.pdowriteOffset.toNat len) :
    window (overwriteAll xs (initWrites f chosen (before ++ task :: after))) task.pdowriteOffset.toNat len =
      window (overwrite xs task.pdowriteOffset.toNat (task.body.initBytes.map f)) task.pdowriteOffset.toNat len := by
  have split : initWrites f chosen (before ++ task :: after) = initWrites f chosen before ++
      (task.pdowriteOffset.toNat, task.body.initBytes.map f) :: initWrites f chosen after := by
    simp [initWrites, taken]
  have joined : initWrites f chosen before ++ initWrites f chosen after = initWrites f chosen (before ++ after) := by
    simp [initWrites]
  rw [split]
  apply window_overwriteAll_member
  rw [joined]
  exact initWrites_apart others

theorem window_initWrites_skipped (left : chosen task = false) (xs : List α)
    (others : ∀ other ∈ before ++ after, chosen other = true →
      Apart other.pdowriteOffset.toNat other.body.initBytes.length task.pdowriteOffset.toNat len) :
    window (overwriteAll xs (initWrites f chosen (before ++ task :: after))) task.pdowriteOffset.toNat len =
      window xs task.pdowriteOffset.toNat len := by
  have skip : initWrites f chosen (before ++ task :: after) = initWrites f chosen (before ++ after) := by
    simp [initWrites, left]
  rw [skip]
  exact window_overwriteAll_apart _ _ _ _ (initWrites_apart others)

end OneTask

theorem RegionsApart.initBytes {other task : TaskWrapper} (apart : RegionsApart other task) :
    Apart other.pdowriteOffset.toNat other.body.initBytes.length task.pdowriteOffset.toNat task.body.regionLength := by
  have bound := other.body.length_initBytes_le
  unfold RegionsApart Apart at *
  omega

section Command
variable {i : Fin tasks.length}

theorem inits_others (stay : InitsStayOut chosen tasks i) :
    ∃ before after, tasks = before ++ tasks.get i :: after ∧
      ∀ other ∈ before ++ after, chosen other = true →
        Apart other.pdowriteOffset.toNat other.body.initBytes.length
          (tasks.get i).pdowriteOffset.toNat (tasks.get i).body.commandLength := by
  obtain ⟨before, after, list, others⟩ := others_split (List.getElem?_eq_getElem i.isLt)
  refine ⟨before, after, list, fun other member taken => ?_⟩
  obtain ⟨j, different, found⟩ := others other member
  obtain ⟨bound, rfl⟩ := List.getElem?_eq_some_iff.mp found
  exact stay ⟨j, bound⟩ (fun same => different (congrArg Fin.val same)) taken

theorem window_initWrites_chosen (stay : InitsStayOut chosen tasks i) (taken : chosen (tasks.get i) = true)
    (xs : List α)
    (fits : (tasks.get i).pdowriteOffset.toNat + (commandInit (tasks.get i)).length ≤ xs.length) :
    window (overwriteAll xs (initWrites f chosen tasks)) (tasks.get i).pdowriteOffset.toNat (commandInit (tasks.get i)).length =
      (commandInit (tasks.get i)).map f := by
  obtain ⟨before, after, list, others⟩ := inits_others stay
  have short := (length_commandInit_le (tasks.get i)).1
  generalize tasks.get i = task at *
  subst list
  rw [window_initWrites_own taken xs fun other member chosen => by
    have apart := others other member chosen
    unfold Apart at *
    omega]
  have parts : (task.body.initBytes.map f) = (commandInit task).map f ++
      (task.body.initBytes.drop task.body.commandLength).map f := by
    rw [← List.map_append, commandInit, List.take_append_drop]
  have stored := window_overwrite_same xs ((commandInit task).map f) task.pdowriteOffset.toNat
    (Or.inr (by simpa using fits))
  rw [List.length_map] at stored
  rw [parts, overwrite_append, window_overwrite_apart _ _ _ _ _ (by simp [Apart]), stored]

theorem window_initWrites_kept (stay : InitsStayOut chosen tasks i) (left : chosen (tasks.get i) = false)
    (xs : List α) :
    window (overwriteAll xs (initWrites f chosen tasks)) (tasks.get i).pdowriteOffset.toNat (tasks.get i).body.commandLength =
      window xs (tasks.get i).pdowriteOffset.toNat (tasks.get i).body.commandLength := by
  obtain ⟨before, after, list, others⟩ := inits_others stay
  generalize tasks.get i = task at *
  subst list
  exact window_initWrites_skipped left xs others

end Command

end Windows

variable {β : Type} [Cell β]

theorem subscriberWrites_eq (d : SlaveDevice β) :
    d.subscriberWrites = initWrites (Cell.store .initValue) (fun task => task.body.hasSubscribers) d.taskList := rfl

theorem lostWrites_eq (d : SlaveDevice β) :
    d.lostWrites =
      initWrites (Cell.store .initValue) (fun task => task.connectionLostWriteAction = 0x02) d.taskList := rfl

theorem backup_connectionLost (data : ConfigurationParser) {d : SlaveDevice β} (allocated : d.Allocated) :
    (next data d .connectionLost).backupArea = (next data d .connectionLost).commandArea ∧
      (next data d .connectionLost).masterToSlaveBufBackup.size =
        (next data d .connectionLost).masterToSlaveBufLen.toNat := by
  rw [next_connectionLost]
  constructor
  · have covers := ByteVec.le_storage_resize d.masterToSlaveBufBackup.clear d.masterToSlaveBufLen.toNat
      (Cell.store (β := β) .allocation 0)
    have area : (d.lostBuffer.storage.take d.masterToSlaveBufLen.toNat).length = d.masterToSlaveBufLen.toNat := by
      unfold Allocated at allocated
      simp [lostBuffer, allocated]
    simp only [backupArea, commandArea, lostBackup, ByteVec.storage_copyIn, take_overwrite]
    rw [overwrite_all _ _ (by rw [area, List.length_take]; omega), List.length_take, Nat.min_eq_left covers,
      List.take_of_length_le (Nat.le_of_eq area)]
  · simp [lostBackup]

omit [Cell β] in
theorem length_backupArea {d : SlaveDevice β}
    (kept : d.masterToSlaveBufBackup.size = d.masterToSlaveBufLen.toNat) :
    d.backupArea.length = d.masterToSlaveBufLen.toNat := by
  have bound := d.masterToSlaveBufBackup.size_le
  rw [kept] at bound
  simp [backupArea, bound]

/-- The handshake of a first configuration. -/
def writesInitValues (d : SlaveDevice β) : Prop := d.masterStatus ≠ MASTER_READY ∧ d.reconnectedTimes = 0

instance (d : SlaveDevice β) : Decidable d.writesInitValues := inferInstanceAs (Decidable (_ ∧ _))

/-- The bytes that the actuators get if the handshake does not write the initial values:
those of the backup, or those that the live buffer already holds. -/
def handedOver (d : SlaveDevice β) : List β :=
  if d.masterStatus ≠ MASTER_READY ∧ d.masterToSlaveBufBackup.size = d.masterToSlaveBufLen.toNat then
    d.backupArea
  else d.commandArea

theorem take_restored {d : SlaveDevice β} (allocated : d.Allocated) :
    (d.restored d.masterToSlaveBuf).storage.take d.masterToSlaveBufLen.toNat =
      if d.writesInitValues then (d.initialised d.masterToSlaveBuf).storage.take d.masterToSlaveBufLen.toNat
      else d.handedOver := by
  unfold restored writesInitValues handedOver
  by_cases ready : d.masterStatus = MASTER_READY
  case pos =>
    simp only [ready, ne_eq, not_true_eq_false, false_and, if_true, if_false]
    rfl
  case neg =>
    by_cases first : d.reconnectedTimes = 0
    case pos => simp [ready, first]
    case neg =>
      simp only [ready, first, ne_eq, not_false_eq_true, and_false, true_and, if_false]
      split
      case isTrue kept =>
        -- The backup covers the area, so the copy leaves nothing of what was there.
        have whole := length_backupArea kept
        have area : d.commandArea.length = d.masterToSlaveBufLen.toNat := by
          unfold Allocated at allocated
          simp [commandArea, allocated]
        rw [ByteVec.storage_copyIn, take_overwrite]
        change overwrite d.commandArea 0 d.backupArea = _
        rw [overwrite_all _ _ (by omega), List.take_of_length_le (by omega)]
      case isFalse => rfl

theorem restored_backup {d : SlaveDevice β} (allocated : d.Allocated) (sending : d.masterStatus ≠ MASTER_READY)
    (again : d.reconnectedTimes ≠ 0) (kept : d.masterToSlaveBufBackup.size = d.masterToSlaveBufLen.toNat) :
    (d.restored d.masterToSlaveBuf).storage.take d.masterToSlaveBufLen.toNat = d.backupArea := by
  rw [take_restored allocated, if_neg fun first => again first.2, handedOver, if_pos ⟨sending, kept⟩]

theorem commandArea_handshake {data : ConfigurationParser} {d : SlaveDevice β} {currentTime : Int}
    (configured : d.isConfigured = true) (taken : d.handshakes = true) :
    (next data d (.process currentTime)).commandArea =
      (d.restored d.masterToSlaveBuf).storage.take d.masterToSlaveBufLen.toNat := by
  rw [next_process configured]
  simp only [commandArea, bufferAfter, taken, if_true, sendingWrites_handshake taken]
  rfl

end SlaveDevice

end EcatMaster.Slave
