import EcatMaster.Library.SharedObjects
import EcatMaster.Tasks.Commands
import EcatMaster.Tasks.Publishers

/-! Tasks of one class and their shared message.

A task publishes the message object of its class, which the other tasks of the
class fill as well. It depends on its own input alone as long as every call sets
every field.
-/

set_option autoImplicit false

namespace EcatMaster.Tasks
open Io Library

theorem pdo_of_window {buf buf' : List UInt8} {off off' len : Nat}
    (same : window buf off len = window buf' off' len) : ∀ i < len, pdo buf off i = pdo buf' off' i :=
  fun _ inside => byteAt_of_window same inside

theorem readFloat16_local : Local readFloat16 2 := readUint16_local.bind fun _ => Local.pure _

theorem readScaled_local (scale : Rat) : Local (readScaled scale) 2 := readInt16_local.bind fun _ => Local.pure _

theorem PmuCan.readFields_local : Local PmuCan.readFields 6 :=
  readFloat16_local.bind fun _ => readFloat16_local.bind fun _ => readFloat16_local.bind fun _ => Local.pure _

theorem Ms5837.readFields_local : Local Ms5837.readFields 8 :=
  readInt32_local.bind fun _ => readInt32_local.bind fun _ => Local.pure _

theorem HipnucImuCan.readFields_local : Local HipnucImuCan.readFields 20 :=
  (readScaled_local _).bind fun _ => (readScaled_local _).bind fun _ => (readScaled_local _).bind fun _ =>
    (readScaled_local _).bind fun _ => (readScaled_local _).bind fun _ => (readScaled_local _).bind fun _ =>
    (readScaled_local _).bind fun _ => (readScaled_local _).bind fun _ => (readScaled_local _).bind fun _ =>
    (readScaled_local _).bind fun _ => Local.pure _

theorem readMotor_local : Local readMotor 9 :=
  readUint8_local.bind fun _ => readUint16_local.bind fun _ => readInt16_local.bind fun _ =>
    readInt16_local.bind fun _ => readUint8_local.bind fun _ => readUint8_local.bind fun _ => Local.pure _

theorem readEnabledMotor_local (enabled : Bool) : Local (readEnabledMotor enabled) (9 * enabled.toNat) := by
  cases enabled with
  | false => exact Local.pure _
  | true => exact readMotor_local

theorem readMotors_local (flags : MotorFlags) (stamp : Int) : Local (readMotors flags stamp) (9 * flags.count) := by
  have motors : Local (readMotors flags stamp)
      (9 * flags.motor1.toNat + (9 * flags.motor2.toNat + (9 * flags.motor3.toNat + (9 * flags.motor4.toNat + 0)))) :=
    (readEnabledMotor_local _).bind fun _ => (readEnabledMotor_local _).bind fun _ =>
      (readEnabledMotor_local _).bind fun _ => (readEnabledMotor_local _).bind fun _ => Local.pure _
  have total : 9 * flags.motor1.toNat + (9 * flags.motor2.toNat + (9 * flags.motor3.toNat +
      (9 * flags.motor4.toNat + 0))) = 9 * flags.count := by
    unfold MotorFlags.count
    omega
  rwa [total] at motors

theorem LkMotor.readSingle_local (stamp : Int) : Local (LkMotor.readSingle stamp) 8 :=
  readUint8_local.bind fun _ => readInt16_local.bind fun _ => readInt16_local.bind fun _ =>
    readUint16_local.bind fun _ => readUint8_local.bind fun _ => Local.pure _

theorem LkMotor.readOne_local : Local LkMotor.readOne 8 :=
  readUint8_local.bind fun _ => readInt16_local.bind fun _ => readInt16_local.bind fun _ =>
    readUint16_local.bind fun _ => readUint8_local.bind fun _ => Local.pure _

theorem LkMotor.readMulti_local (stamp : Int) : Local (LkMotor.readMulti stamp) 32 :=
  readOne_local.bind fun _ => readOne_local.bind fun _ => readOne_local.bind fun _ => readOne_local.bind fun _ =>
    Local.pure _

theorem SuperCap.readFields_local (stamp : Int) : Local (SuperCap.readFields stamp) 7 :=
  readUint8_local.bind fun _ => readUint8_local.bind fun _ => readUint8_local.bind fun _ =>
    readUint8_local.bind fun _ => readUint8_local.bind fun _ => readUint8_local.bind fun _ =>
    readUint8_local.bind fun _ => Local.pure _

def TaskBody.readLength : TaskBody → Nat
  | .dbusRc => 19
  | .vt13Rc => 18
  | .sbusRc => 24
  | .pmuCan => 7
  | .ms5837 => 9
  | .hipnucImuCan _ => 20
  | .djiMotor flags | .ddMotor flags => 9 * flags.count
  | .lkMotor isBroadcastMode _ => if isBroadcastMode then 32 else 8
  | .dmMotor _ _ _ _ => 9
  | .superCap => 7
  | .dshot _ | .onboardPwm _ | .externalPwm _ _ => 0

section Reading
variable {buf buf' : List UInt8} {off off' : Nat}

theorem DbusRc.read_local (stamp : Int) (msg : ReadDJIRC) (same : window buf off 19 = window buf' off' 19) :
    DbusRc.read stamp buf off msg = DbusRc.read stamp buf' off' msg := by
  have cells := pdo_of_window same
  simp (disch := decide) only [DbusRc.read, bits11, wideBits11, cells]

theorem Vt13Rc.read_local (stamp : Int) (msg : ReadVT13RC) (same : window buf off 18 = window buf' off' 18) :
    Vt13Rc.read stamp buf off msg = Vt13Rc.read stamp buf' off' msg := by
  have cells := pdo_of_window same
  simp (disch := decide) only [Vt13Rc.read, bits11, wideBits11, cells]

theorem SbusRc.read_local (stamp : Int) (msg : ReadSBUSRC) (same : window buf off 24 = window buf' off' 24) :
    SbusRc.read stamp buf off msg = SbusRc.read stamp buf' off' msg := by
  have cells := pdo_of_window same
  simp (disch := decide) only [SbusRc.read, bits11, wideBits11, cells]

theorem DmMotor.read_local (pmax vmax tmax : Rat) (stamp : Int) (msg : ReadDmMotor)
    (same : window buf off 9 = window buf' off' 9) :
    DmMotor.read pmax vmax tmax stamp buf off msg = DmMotor.read pmax vmax tmax stamp buf' off' msg := by
  have cells := pdo_of_window same
  simp (disch := decide) only [DmMotor.read, cells]

theorem PmuCan.read_local (stamp : Int) (msg : ReadCANPMU) (same : window buf off 7 = window buf' off' 7) :
    PmuCan.read stamp buf off msg = PmuCan.read stamp buf' off' msg := by
  have cells := pdo_of_window same
  have fields : window buf off 6 = window buf' off' 6 := by
    rw [← window_prefix buf off (show 6 ≤ 7 by decide), same, window_prefix buf' off' (by decide)]
  simp (disch := decide) only [PmuCan.read, cells, (PmuCan.readFields_local buf buf' off off' fields).1]

theorem Ms5837.read_local (stamp : Int) (msg : ReadMS5837BA30) (same : window buf off 9 = window buf' off' 9) :
    Ms5837.read stamp buf off msg = Ms5837.read stamp buf' off' msg := by
  have cells := pdo_of_window same
  have fields : window buf off 8 = window buf' off' 8 := by
    rw [← window_prefix buf off (show 8 ≤ 9 by decide), same, window_prefix buf' off' (by decide)]
  simp (disch := decide) only [Ms5837.read, cells, (Ms5837.readFields_local buf buf' off off' fields).1]

theorem HipnucImuCan.read_local (confFrameName : String) (stamp : Int) (msg : Imu)
    (same : window buf off 20 = window buf' off' 20) :
    HipnucImuCan.read confFrameName stamp buf off msg = HipnucImuCan.read confFrameName stamp buf' off' msg := by
  simp only [HipnucImuCan.read, (HipnucImuCan.readFields_local buf buf' off off' same).1]

theorem read_local {body : TaskBody} {publisher : Publisher} (publishes : body.publisher = some publisher)
    (same : window buf off body.readLength = window buf' off' body.readLength) (stamp : Int)
    (msg : publisher.message.Content) :
    publisher.read stamp buf off msg = publisher.read stamp buf' off' msg := by
  cases body with
  | lkMotor isBroadcastMode controlType =>
    cases isBroadcastMode with
    | true =>
      cases publishes
      exact (LkMotor.readMulti_local stamp buf buf' off off' same).1
    | false =>
      cases publishes
      exact (LkMotor.readSingle_local stamp buf buf' off off' same).1
  | hipnucImuCan confFrameName =>
    cases publishes
    exact HipnucImuCan.read_local confFrameName stamp msg same
  | djiMotor flags =>
    cases publishes
    exact (readMotors_local flags stamp buf buf' off off' same).1
  | ddMotor flags =>
    cases publishes
    exact (readMotors_local flags stamp buf buf' off off' same).1
  | superCap =>
    cases publishes
    exact (SuperCap.readFields_local stamp buf buf' off off' same).1
  | dbusRc => cases publishes; exact DbusRc.read_local stamp msg same
  | vt13Rc => cases publishes; exact Vt13Rc.read_local stamp msg same
  | sbusRc => cases publishes; exact SbusRc.read_local stamp msg same
  | pmuCan => cases publishes; exact PmuCan.read_local stamp msg same
  | ms5837 => cases publishes; exact Ms5837.read_local stamp msg same
  | dmMotor controlType pmax vmax tmax => cases publishes; exact DmMotor.read_local pmax vmax tmax stamp msg same
  | dshot initValue => cases publishes
  | onboardPwm initValue => cases publishes
  | externalPwm initValue channelNum => cases publishes

end Reading

/-- A call of `read` with the content of the input buffer, or of `publish_empty_message`. -/
inductive Member where
  | read (stamp : Int) (buf : List UInt8)
  | publishEmptyMessage (now : Int)
  deriving DecidableEq

def Publisher.call (publisher : Publisher) (off : Nat) : Member → publisher.message.Content → publisher.message.Content
  | .read stamp buf => publisher.read stamp buf off
  | .publishEmptyMessage now => publisher.publishEmptyMessage now

/-- The byte that says whether the device is online, in the classes that skip the other
fields of a device that is not. -/
def TaskBody.onlineByte : TaskBody → Option Nat
  | .dbusRc => some 18
  | .vt13Rc => some 17
  | .sbusRc => some 23
  | .pmuCan => some 6
  | .ms5837 => some 8
  | _ => none

/-- The call reads a device of such a class that is offline. -/
def TaskBody.ReadsOffline (body : TaskBody) : Member → Prop
  | .read _ region => ∃ i, body.onlineByte = some i ∧ byteAt region i = 0
  | .publishEmptyMessage _ => False

section Overwriting
variable {stamp : Int} {buf : List UInt8} {off : Nat}

theorem DbusRc.read_online (online : pdo buf off 18 ≠ 0) (msg msg' : ReadDJIRC) :
    DbusRc.read stamp buf off msg = DbusRc.read stamp buf off msg' := by
  rw [DbusRc.read, if_pos online, DbusRc.read, if_pos online]

theorem Vt13Rc.read_online (online : pdo buf off 17 ≠ 0) (msg msg' : ReadVT13RC) :
    Vt13Rc.read stamp buf off msg = Vt13Rc.read stamp buf off msg' := by
  rw [Vt13Rc.read, if_pos online, Vt13Rc.read, if_pos online]

theorem SbusRc.read_online (online : pdo buf off 23 ≠ 0) (msg msg' : ReadSBUSRC) :
    SbusRc.read stamp buf off msg = SbusRc.read stamp buf off msg' := by
  rw [SbusRc.read, if_pos online, SbusRc.read, if_pos online]

theorem PmuCan.read_online (online : pdo buf off 6 ≠ 0) (msg msg' : ReadCANPMU) :
    PmuCan.read stamp buf off msg = PmuCan.read stamp buf off msg' := by
  rw [PmuCan.read, if_pos online, PmuCan.read, if_pos online]

theorem Ms5837.read_online (online : pdo buf off 8 ≠ 0) (msg msg' : ReadMS5837BA30) :
    Ms5837.read stamp buf off msg = Ms5837.read stamp buf off msg' := by
  rw [Ms5837.read, if_pos online, Ms5837.read, if_pos online]

theorem DbusRc.read_offline (offline : pdo buf off 18 = 0) (msg : ReadDJIRC) :
    (DbusRc.read stamp buf off msg).mouseLeftClicked = msg.mouseLeftClicked := by
  rw [DbusRc.read, if_neg (not_not.mpr offline)]

theorem Vt13Rc.read_offline (offline : pdo buf off 17 = 0) (msg : ReadVT13RC) :
    (Vt13Rc.read stamp buf off msg).mouseLeftClicked = msg.mouseLeftClicked := by
  rw [Vt13Rc.read, if_neg (not_not.mpr offline)]

theorem SbusRc.read_offline (offline : pdo buf off 23 = 0) (msg : ReadSBUSRC) :
    (SbusRc.read stamp buf off msg).ch18 = msg.ch18 := by
  rw [SbusRc.read, if_neg (not_not.mpr offline)]

theorem PmuCan.read_offline (offline : pdo buf off 6 = 0) (msg : ReadCANPMU) :
    (PmuCan.read stamp buf off msg).voltage = msg.voltage := by
  rw [PmuCan.read, if_neg (not_not.mpr offline)]

theorem Ms5837.read_offline (offline : pdo buf off 8 = 0) (msg : ReadMS5837BA30) :
    (Ms5837.read stamp buf off msg).temperature = msg.temperature := by
  rw [Ms5837.read, if_neg (not_not.mpr offline)]

end Overwriting

theorem call_overwrites {body : TaskBody} {publisher : Publisher} (publishes : body.publisher = some publisher)
    {member : Member} (sets : ¬body.ReadsOffline member) (msg msg' : publisher.message.Content) :
    publisher.call 0 member msg = publisher.call 0 member msg' := by
  cases member with
  | publishEmptyMessage now =>
    cases body with
    | lkMotor isBroadcastMode controlType => cases isBroadcastMode <;> cases publishes <;> rfl
    | _ => cases publishes <;> rfl
  | read stamp buf =>
    -- The device of a class with an online byte has set it.
    have online : ∀ i, body.onlineByte = some i → pdo buf 0 i ≠ 0 := by
      intro i found zero
      rw [pdo, Nat.zero_add] at zero
      exact sets ⟨i, found, zero⟩
    cases body with
    | dbusRc => cases publishes; exact DbusRc.read_online (online 18 rfl) msg msg'
    | vt13Rc => cases publishes; exact Vt13Rc.read_online (online 17 rfl) msg msg'
    | sbusRc => cases publishes; exact SbusRc.read_online (online 23 rfl) msg msg'
    | pmuCan => cases publishes; exact PmuCan.read_online (online 6 rfl) msg msg'
    | ms5837 => cases publishes; exact Ms5837.read_online (online 8 rfl) msg msg'
    | lkMotor isBroadcastMode controlType => cases isBroadcastMode <;> cases publishes <;> rfl
    | _ => cases publishes <;> rfl

/-- After a device that is online an offline read publishes what that device has sent. -/
theorem call_reveals {body : TaskBody} {publisher : Publisher} (publishes : body.publisher = some publisher)
    {member : Member} (offline : body.ReadsOffline member) (msg : publisher.message.Content) :
    publisher.call 0 member (publisher.call 0 (.read 0 (List.replicate body.readLength 1)) msg) ≠
      publisher.call 0 member (publisher.call 0 (.read 0 (List.replicate body.readLength 3)) msg) := by
  cases member with
  | publishEmptyMessage now => cases offline
  | read stamp region =>
    obtain ⟨i, found, zero⟩ := offline
    have skipped : pdo region 0 i = 0 := by rwa [pdo, Nat.zero_add]
    intro same
    cases body with
    | dbusRc =>
      cases publishes
      cases found
      have clicked := congrArg ReadDJIRC.mouseLeftClicked same
      simp only [Publisher.call, DbusRc.read_offline skipped] at clicked
      change (1 : UInt8) = 3 at clicked
      exact absurd clicked (by decide)
    | vt13Rc =>
      cases publishes
      cases found
      have clicked := congrArg ReadVT13RC.mouseLeftClicked same
      simp only [Publisher.call, Vt13Rc.read_offline skipped] at clicked
      change (1 : UInt8) = 3 at clicked
      exact absurd clicked (by decide)
    | sbusRc =>
      cases publishes
      cases found
      have flag := congrArg ReadSBUSRC.ch18 same
      simp only [Publisher.call, SbusRc.read_offline skipped] at flag
      change (0 : UInt8) = 1 at flag
      exact absurd flag (by decide)
    | pmuCan =>
      cases publishes
      cases found
      have voltage := congrArg ReadCANPMU.voltage same
      simp only [Publisher.call, PmuCan.read_offline skipped] at voltage
      change float16Value 0x0101 = float16Value 0x0303 at voltage
      exact absurd voltage (by decide +kernel)
    | ms5837 =>
      cases publishes
      cases found
      have temperature := congrArg ReadMS5837BA30.temperature same
      simp only [Publisher.call, Ms5837.read_offline skipped] at temperature
      change ((0x01010101 : Int) : Rat) / 100 = ((0x03030303 : Int) : Rat) / 100 at temperature
      exact absurd temperature (by decide +kernel)
    | _ => cases found

/-- The static message that a task fills and publishes. -/
def TaskBody.sharedMessage (body : TaskBody) : Option SharedMessage := body.publisher.map Publisher.message

def TaskWrapper.filler (task : TaskWrapper) : Option (Filler SharedMessage SharedMessage.Content Member) :=
  task.body.publisher.map fun publisher => ⟨publisher.message, publisher.call task.pdoreadOffset.toNat⟩

def fillers (tasks : List TaskWrapper) (i : Nat) : Option (Filler SharedMessage SharedMessage.Content Member) :=
  tasks[i]?.bind TaskWrapper.filler

/-- A call with only those input bytes that belong to the task. -/
def TaskWrapper.narrow (task : TaskWrapper) : Member → Member
  | .read stamp buf => .read stamp (window buf task.pdoreadOffset.toNat task.body.readLength)
  | .publishEmptyMessage now => .publishEmptyMessage now

def ownCalls (task : TaskWrapper) (a : Nat) (run : List (Nat × Member)) : List Member :=
  (own a run).map task.narrow

def published (tasks : List TaskWrapper) (a : Nat) (run : List (Nat × Member)) : List Report :=
  outputs (fillers tasks) a SharedMessages.initial run

/-- No other task of the configuration has the message of this one. -/
def Alone (tasks : List TaskWrapper) (a : Nat) (task : TaskWrapper) : Prop :=
  ∀ b, b ≠ a → ∀ other, tasks[b]? = some other → other.body.sharedMessage ≠ task.body.sharedMessage

section Runs
variable {tasks tasks' : List TaskWrapper} {a a' : Nat} {task : TaskWrapper} {publisher : Publisher}

theorem window_zero (xs : List UInt8) (off len : Nat) : window (window xs off len) 0 len = window xs off len := by
  rw [window, List.drop_zero, window, List.take_take, Nat.min_self]

theorem call_narrow (publishes : task.body.publisher = some publisher) (member : Member)
    (msg : publisher.message.Content) :
    publisher.call task.pdoreadOffset.toNat member msg = publisher.call 0 (task.narrow member) msg := by
  cases member with
  | publishEmptyMessage now => rfl
  | read stamp buf => exact read_local publishes (window_zero buf _ _).symm stamp msg

theorem fillers_of (here : tasks[a]? = some task) (publishes : task.body.publisher = some publisher) :
    fillers tasks a = some ⟨publisher.message, publisher.call task.pdoreadOffset.toNat⟩ := by
  simp [fillers, here, TaskWrapper.filler, publishes]

theorem published_of_overwrites (here : tasks[a]? = some task) (publishes : task.body.publisher = some publisher)
    {run : List (Nat × Member)} (sets : ∀ member ∈ ownCalls task a run, ¬task.body.ReadsOffline member) :
    published tasks a run = (ownCalls task a run).map fun member =>
      ⟨publisher.message, publisher.call 0 member (SharedMessages.initial publisher.message)⟩ := by
  unfold published
  rw [outputs_of_overwrites (fillers_of here publishes) (SharedMessages.initial publisher.message)]
  · rw [ownCalls, List.map_map]
    apply List.map_congr_left
    intro member _
    simp only [Function.comp_apply, call_narrow publishes]
  · intro member within before before'
    simp only [call_narrow publishes]
    exact call_overwrites publishes (sets _ (List.mem_map_of_mem within)) before before'

theorem published_of_alone (here : tasks[a]? = some task) (publishes : task.body.publisher = some publisher)
    (alone : Alone tasks a task) (run : List (Nat × Member)) :
    published tasks a run =
      replay ⟨publisher.message, publisher.call 0⟩ (SharedMessages.initial publisher.message)
        (ownCalls task a run) := by
  unfold published
  rw [outputs_of_alone (fillers_of here publishes)]
  · exact replay_map (call_narrow publishes) _ _
  · intro b other filler found same
    obtain ⟨wrapper, listed, fills⟩ := Option.bind_eq_some_iff.mp found
    obtain ⟨shared, publishes', rfl⟩ := Option.map_eq_some_iff.mp fills
    have distinct := alone b other wrapper listed
    rw [TaskBody.sharedMessage, TaskBody.sharedMessage, publishes', publishes] at distinct
    exact distinct (congrArg some same)

theorem body_of_onlineByte {body other : TaskBody} {i : Nat} (found : body.onlineByte = some i)
    (same : other.sharedMessage = body.sharedMessage) : other = body := by
  cases body <;> cases found
  all_goals
    cases other with
    | lkMotor isBroadcastMode controlType => cases isBroadcastMode <;> cases same
    | _ => cases same <;> rfl

def loudRead (task : TaskWrapper) (value : UInt8) : Member :=
  .read 0 (List.replicate task.pdoreadOffset.toNat 0 ++ List.replicate task.body.readLength value)

theorem narrow_loudRead (task : TaskWrapper) (value : UInt8) :
    task.narrow (loudRead task value) = .read 0 (List.replicate task.body.readLength value) := by
  simp [loudRead, TaskWrapper.narrow, window]

/-- An offline read publishes what another task of the class has read just before it. -/
theorem published_differ (here : tasks[a]? = some task) (publishes : task.body.publisher = some publisher) {b : Nat}
    {other : TaskWrapper} (different : b ≠ a) (there : tasks[b]? = some other)
    (shares : other.body.sharedMessage = task.body.sharedMessage) {member : Member}
    (offline : task.body.ReadsOffline (task.narrow member)) (first rest : List (Nat × Member)) :
    published tasks a (first ++ (b, loudRead other 1) :: (a, member) :: rest) ≠
      published tasks a (first ++ (b, loudRead other 3) :: (a, member) :: rest) := by
  have body : other.body = task.body := by
    cases member with
    | publishEmptyMessage now => cases offline
    | read stamp buf =>
      obtain ⟨i, found, _⟩ := offline
      exact body_of_onlineByte found shares
  have publishes' : other.body.publisher = some publisher := by rw [body, publishes]
  apply outputs_differ (fillers_of here publishes) different (fillers_of there publishes')
  intro content
  simp only [call_narrow publishes, call_narrow publishes', narrow_loudRead, body]
  exact call_reveals publishes offline content

theorem mem_of_mem_own {b : Nat} {member : Member} {calls : List (Nat × Member)} (within : member ∈ own b calls) :
    (b, member) ∈ calls := by
  obtain ⟨call, kept, rfl⟩ := List.mem_map.mp within
  obtain ⟨listed, same⟩ := List.mem_filter.mp kept
  have number : call.1 = b := by simpa using same
  rwa [← number]

/-- With an offline read and another task of the class there are runs that differ for the
other task only, and in what this one publishes. -/
theorem exists_leak (here : tasks[a]? = some task) (publishes : task.body.publisher = some publisher)
    {calls : List (Nat × Member)} {member : Member} (within : member ∈ ownCalls task a calls)
    (offline : task.body.ReadsOffline member) (shared : ¬Alone tasks a task) :
    ∃ run run', ownCalls task a run = ownCalls task a calls ∧ ownCalls task a run' = ownCalls task a calls ∧
      published tasks a run ≠ published tasks a run' := by
  obtain ⟨given, belongs, rfl⟩ := List.mem_map.mp within
  obtain ⟨first, rest, rfl⟩ := List.append_of_mem (mem_of_mem_own belongs)
  unfold Alone at shared
  push Not at shared
  obtain ⟨b, different, other, there, shares⟩ := shared
  refine ⟨_, _, ?_, ?_, published_differ here publishes different there shares offline first rest⟩
  all_goals
    unfold ownCalls
    rw [own_append, own_cons_other different, ← own_append]

/-- The published messages of a task depend on what belongs to it alone exactly if none of
its calls reads a device that is offline, or if no other task has its message. -/
theorem published_isolated_iff (here : tasks[a]? = some task) (there : tasks'[a']? = some task)
    (publishes : task.body.hasPublishers = true) (calls : List (Nat × Member)) :
    (∀ run run', ownCalls task a run = ownCalls task a calls → ownCalls task a' run' = ownCalls task a calls →
      published tasks a run = published tasks' a' run') ↔
    ((∀ member ∈ ownCalls task a calls, ¬task.body.ReadsOffline member) ∨
      (Alone tasks a task ∧ Alone tasks' a' task)) := by
  rw [← TaskBody.isSome_publisher, Option.isSome_iff_exists] at publishes
  obtain ⟨publisher, publishes⟩ := publishes
  constructor
  · intro isolated
    by_contra leaks
    push Not at leaks
    obtain ⟨⟨member, within, offline⟩, shared⟩ := leaks
    -- The same calls of the task, in a run of the other configuration.
    let moved := (own a calls).map fun member => (a', member)
    have agrees : ownCalls task a' moved = ownCalls task a calls := by
      rw [ownCalls, own_map]
      rfl
    by_cases alone : Alone tasks a task
    case pos =>
      have moves : member ∈ ownCalls task a' moved := agrees ▸ within
      obtain ⟨run, run', same, same', differ⟩ :=
        exists_leak there publishes moves offline (shared alone)
      exact differ ((isolated calls run rfl (same.trans agrees)).symm.trans
        (isolated calls run' rfl (same'.trans agrees)))
    case neg =>
      obtain ⟨run, run', same, same', differ⟩ := exists_leak here publishes within offline alone
      exact differ ((isolated run moved same agrees).trans (isolated run' moved same' agrees).symm)
  · intro condition run run' same same'
    rcases condition with sets | ⟨alone, alone'⟩
    · rw [published_of_overwrites here publishes (same ▸ sets),
        published_of_overwrites there publishes (same' ▸ sets), same, same']
    · rw [published_of_alone here publishes alone, published_of_alone there publishes alone', same, same']

end Runs

def receiverTask : TaskWrapper := ⟨0, 0, 0, 0, .dbusRc⟩

def switchedOff : Member := .read 5 (List.replicate 19 0)

/-- The only receiver of two configurations publishes the same in both. -/
theorem single_receiver_isolated :
    published [receiverTask] 0 [(0, switchedOff)] =
      published [⟨0, 0, 0, 0, .superCap⟩, receiverTask] 1
        [(0, .read 4 (List.replicate 7 9)), (1, switchedOff)] := by
  refine (published_isolated_iff rfl rfl rfl [(0, switchedOff)]).mpr (Or.inr ⟨?_, ?_⟩) _ _ rfl rfl
  · intro b different other found
    rcases b with _ | b
    · exact absurd rfl different
    · cases found
  · intro b different other found
    rcases b with _ | _ | b
    · cases found
      decide
    · exact absurd rfl different
    · cases found

/-- Of two receivers the one that is switched off publishes the buttons of the other. -/
theorem receivers_leak :
    ownCalls receiverTask 0 [(1, loudRead receiverTask 1), (0, switchedOff)] =
      ownCalls receiverTask 0 [(0, switchedOff)] ∧
    published [receiverTask, receiverTask] 0 [(1, loudRead receiverTask 1), (0, switchedOff)] ≠
      published [receiverTask, receiverTask] 0 [(0, switchedOff)] := by
  refine ⟨rfl, ?_⟩
  intro same
  have reports := eq_of_heq (Sigma.mk.inj (List.cons.inj same).1).2
  have clicked := congrArg ReadDJIRC.mouseLeftClicked reports
  change (1 : UInt8) = 0 at clicked
  exact absurd clicked (by decide)

end EcatMaster.Tasks
