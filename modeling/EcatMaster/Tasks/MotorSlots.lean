import EcatMaster.Library.Packing
import EcatMaster.Tasks.Commands
import EcatMaster.Tasks.Decoding
import EcatMaster.Tasks.Isolation

/-! The slots of the motors.

`init_sdo`, `on_command` and `read` of the DJI and DD motors go through the four
motors one by one and skip the disabled ones. Each of the three is a packed list,
so the slot of a motor is the number of enabled motors before it.
-/

set_option autoImplicit false

namespace EcatMaster.Tasks
open Io Library Config

def motors : List Nat := [1, 2, 3, 4]

def motorAt {T : Type} (motor1 motor2 motor3 motor4 : T) : Nat → T
  | 1 => motor1
  | 2 => motor2
  | 3 => motor3
  | _ => motor4

def MotorFlags.enabled (flags : MotorFlags) : Nat → Bool :=
  motorAt flags.motor1 flags.motor2 flags.motor3 flags.motor4

def ReadMotors.motor (msg : ReadMotors) : Nat → MotorFeedback := motorAt msg.motor1 msg.motor2 msg.motor3 msg.motor4

def preceding (i : Nat) : List Nat := List.range' 1 (i - 1)

/-- The number of enabled motors before this one. -/
def MotorFlags.rank (flags : MotorFlags) (i : Nat) : Nat := ((preceding i).filter flags.enabled).length

theorem motors_split : ∀ i ∈ motors, motors = preceding i ++ i :: List.range' (i + 1) (4 - i) := by decide

def motorCommandBytes (motor : MotorCommand) : List UInt8 := motor.enable :: uint16Bytes motor.cmd.toUInt16

theorem motorsBytes_packed (flags : MotorFlags) (motor1 motor2 motor3 motor4 : MotorCommand) :
    motorsBytes flags motor1 motor2 motor3 motor4 =
      packed flags.enabled (fun i => motorCommandBytes (motorAt motor1 motor2 motor3 motor4 i)) motors := by
  simp only [motors, packed_cons, motorsBytes, List.append_assoc]
  exact congrArg _ (congrArg _ (congrArg _ (List.append_nil _).symm))

/-- The nine bytes in which a slave reports a motor. -/
def feedbackBytes (motor : MotorFeedback) : List UInt8 :=
  motor.online :: (uint16Bytes motor.ecd ++ (uint16Bytes motor.rpm.toUInt16 ++
    (uint16Bytes motor.current.toUInt16 ++ [motor.temperature, motor.errorCode])))

theorem readMotor_reads (motor : MotorFeedback) : Reads readMotor (feedbackBytes motor) motor :=
  (readUint8_reads motor.online).bind <| (readUint16_reads motor.ecd).bind <| (readInt16_reads motor.rpm).bind <|
    (readInt16_reads motor.current).bind <| (readUint8_reads motor.temperature).bind <|
    (readUint8_reads motor.errorCode).bind <| .pure motor

theorem readEnabledMotor_eq (enabled : Bool) (buf : List UInt8) (off : Nat) :
    readEnabledMotor enabled buf off =
      (if enabled then (readMotor buf off).1 else {}, off + 9 * enabled.toNat) := by
  refine Prod.ext ?_ (readEnabledMotor_local enabled buf buf off off rfl).2
  cases enabled <;> rfl

theorem MotorFlags.rank_eq (flags : MotorFlags) :
    flags.rank 1 = 0 ∧ flags.rank 2 = flags.motor1.toNat ∧ flags.rank 3 = flags.motor1.toNat + flags.motor2.toNat ∧
      flags.rank 4 = flags.motor1.toNat + flags.motor2.toNat + flags.motor3.toNat := by
  obtain ⟨motor1, motor2, motor3, motor4⟩ := flags
  cases motor1 <;> cases motor2 <;> cases motor3 <;> exact ⟨rfl, rfl, rfl, rfl⟩

theorem readMotors_slots (flags : MotorFlags) (stamp : Int) (buf : List UInt8) (off : Nat) :
    ∀ i ∈ motors, (readMotors flags stamp buf off).1.motor i =
      if flags.enabled i then (readMotor buf (off + 9 * flags.rank i)).1 else {} := by
  have turns : (readMotors flags stamp buf off).1 =
      { stamp
        motor1 := (readEnabledMotor flags.motor1 buf off).1
        motor2 := (readEnabledMotor flags.motor2 buf (readEnabledMotor flags.motor1 buf off).2).1
        motor3 := (readEnabledMotor flags.motor3 buf (readEnabledMotor flags.motor2 buf
          (readEnabledMotor flags.motor1 buf off).2).2).1
        motor4 := (readEnabledMotor flags.motor4 buf (readEnabledMotor flags.motor3 buf (readEnabledMotor flags.motor2 buf
          (readEnabledMotor flags.motor1 buf off).2).2).2).1 } := rfl
  rw [turns]
  simp only [readEnabledMotor_eq]
  obtain ⟨rank1, rank2, rank3, rank4⟩ := flags.rank_eq
  simp only [motors, List.forall_mem_cons, rank1, rank2, rank3, rank4, Nat.mul_add, ← Nat.add_assoc]
  exact ⟨rfl, rfl, rfl, rfl, nofun⟩

section Blocks
variable {data : ConfigurationParser} {start : String} {s s' : ArgStream} {control : Nat → Layout String Variant}

theorem MotorAppended.block {i : Nat} {enabled : Bool} (appended : MotorAppended control data start i s (enabled, s')) :
    ∃ entries, (enabled = true → (control i).collect (source data (start ++ "sdowrite_")) = some entries) ∧
      (enabled = false → entries = []) ∧ s' = s.write (Layout.stored variantBytes entries) := by
  obtain ⟨canId, _, same, entries, collected, written⟩ := appended
  dsimp only at same written
  subst same
  unfold motorBlock at collected
  refine ⟨entries, ?_, ?_, written⟩
  · intro enabled
    rwa [if_pos enabled] at collected
  · intro disabled
    rw [if_neg (by simp [disabled])] at collected
    cases collected
    rfl

theorem initMotors_enabled {initMotor : Nat → ArgStream → Except Exception (Bool × ArgStream)}
    (each : ∀ i s result, initMotor i s = .ok result → MotorAppended control data start i s result) {flags : MotorFlags}
    (returned : initMotors initMotor s = .ok (flags, s')) :
    ∀ i ∈ motors, ∃ canId, source data (start ++ "sdowrite_") (motorName i "can_id") = some canId ∧
      flags.enabled i = isEnabled canId := by
  obtain ⟨s₁, s₂, s₃, turn1, turn2, turn3, turn4⟩ := initMotors_turns returned
  obtain ⟨canId1, found1, enabled1, _⟩ := each _ _ _ turn1
  obtain ⟨canId2, found2, enabled2, _⟩ := each _ _ _ turn2
  obtain ⟨canId3, found3, enabled3, _⟩ := each _ _ _ turn3
  obtain ⟨canId4, found4, enabled4, _⟩ := each _ _ _ turn4
  simp only [motors, List.forall_mem_cons]
  exact ⟨⟨canId1, found1, enabled1⟩, ⟨canId2, found2, enabled2⟩, ⟨canId3, found3, enabled3⟩,
    ⟨canId4, found4, enabled4⟩, nofun⟩

theorem initMotors_packed {initMotor : Nat → ArgStream → Except Exception (Bool × ArgStream)}
    (each : ∀ i s result, initMotor i s = .ok result → MotorAppended control data start i s result) {flags : MotorFlags}
    (returned : initMotors initMotor s = .ok (flags, s')) :
    ∃ blocks : Nat → List (String × Variant),
      (∀ i ∈ motors, flags.enabled i = true →
        (control i).collect (source data (start ++ "sdowrite_")) = some (blocks i)) ∧
      s' = s.write (packed flags.enabled (fun i => Layout.stored variantBytes (blocks i)) motors) := by
  obtain ⟨s₁, s₂, s₃, turn1, turn2, turn3, turn4⟩ := initMotors_turns returned
  obtain ⟨entries1, collected1, absent1, rfl⟩ := (each _ _ _ turn1).block
  obtain ⟨entries2, collected2, absent2, rfl⟩ := (each _ _ _ turn2).block
  obtain ⟨entries3, collected3, absent3, rfl⟩ := (each _ _ _ turn3).block
  obtain ⟨entries4, collected4, absent4, rfl⟩ := (each _ _ _ turn4).block
  refine ⟨motorAt entries1 entries2 entries3 entries4, ?_, ?_⟩
  · simp only [motors, List.forall_mem_cons]
    exact ⟨collected1, collected2, collected3, collected4, nofun⟩
  · have absent : ∀ i ∈ motors, flags.enabled i = false →
        Layout.stored variantBytes (motorAt entries1 entries2 entries3 entries4 i) = [] := by
      simp only [motors, List.forall_mem_cons]
      exact ⟨fun off => congrArg _ (absent1 off), fun off => congrArg _ (absent2 off),
        fun off => congrArg _ (absent3 off), fun off => congrArg _ (absent4 off), nofun⟩
    rw [packed_of_absent absent]
    simp only [ArgStream.write_append, motors, List.flatMap_cons, List.flatMap_nil, List.append_assoc, List.append_nil]
    rfl

end Blocks

/-- For a task made from a configuration: which motors are enabled, and the slot of each of them
on the three paths. -/
structure SlotsAgree (common : List String) (control : Nat → Layout String Variant)
    (onCommand : MotorFlags → (motor1 motor2 motor3 motor4 : MotorCommand) → Cursor UInt8 → Cursor UInt8)
    (read : MotorFlags → Int → List UInt8 → Nat → ReadMotors → ReadMotors) (data : ConfigurationParser)
    (start : String) (s s' : ArgStream) (flags : MotorFlags) : Prop where
  enabled : ∀ i ∈ motors, ∃ canId, source data (start ++ "sdowrite_") (motorName i "can_id") = some canId ∧
    flags.enabled i = isEnabled canId
  /-- The command of an enabled motor, in its slot of any buffer that reaches so far. -/
  command : ∀ motor1 motor2 motor3 motor4 buf off, ∀ i ∈ motors, flags.enabled i = true →
    off + 3 * flags.rank i + 3 ≤ buf.length →
    FieldsAt (onCommand flags motor1 motor2 motor3 motor4 ⟨id, buf, off⟩).buf (off + 3 * flags.rank i)
      [.uint8 (motorAt motor1 motor2 motor3 motor4 i).enable, .int16 (motorAt motor1 motor2 motor3 motor4 i).cmd]
  /-- Nothing else is stored: there are no bytes of disabled motors. -/
  commandsOnly : ∀ motor1 motor2 motor3 motor4 buf off k, k < off ∨ off + 3 * (motors.filter flags.enabled).length ≤ k →
    (onCommand flags motor1 motor2 motor3 motor4 ⟨id, buf, off⟩).buf[k]? = buf[k]?
  feedback : ∀ stamp buf off msg, ∀ i ∈ motors, (read flags stamp buf off msg).motor i =
    if flags.enabled i then (readMotor buf (off + 9 * flags.rank i)).1 else {}
  /-- What a slave has packed for the enabled motors is published. -/
  inverse : ∀ stamp buf off msg (content : Nat → MotorFeedback),
    window buf off (packed flags.enabled (fun i => feedbackBytes (content i)) motors).length =
      packed flags.enabled (fun i => feedbackBytes (content i)) motors →
    ∀ i ∈ motors, (read flags stamp buf off msg).motor i = if flags.enabled i then content i else {}
  /-- After the common fields the blocks of the enabled motors, each after those of the enabled
  motors before it. -/
  blocks : ∃ (first : List (String × Variant)) (blocks : Nat → List (String × Variant)),
    (plain common).collect (source data (start ++ "sdowrite_")) = some first ∧
    (∀ i ∈ motors, flags.enabled i = true →
      (control i).collect (source data (start ++ "sdowrite_")) = some (blocks i) ∧
      ∃ later, s' = s.write (Layout.stored variantBytes first ++
        (((preceding i).filter flags.enabled).flatMap (fun j => Layout.stored variantBytes (blocks j)) ++
          (Layout.stored variantBytes (blocks i) ++ later)))) ∧
    s' = s.write (Layout.stored variantBytes first ++
      (motors.filter flags.enabled).flatMap fun i => Layout.stored variantBytes (blocks i))

theorem writeMotorCommands_slot (flags : MotorFlags) (motor1 motor2 motor3 motor4 : MotorCommand) (buf : List UInt8)
    (off : Nat) {i : Nat} (motor : i ∈ motors) (enabled : flags.enabled i = true)
    (inside : off + 3 * flags.rank i + 3 ≤ buf.length) :
    FieldsAt (writeMotorCommands flags motor1 motor2 motor3 motor4 ⟨id, buf, off⟩).buf (off + 3 * flags.rank i)
      [.uint8 (motorAt motor1 motor2 motor3 motor4 i).enable, .int16 (motorAt motor1 motor2 motor3 motor4 i).cmd] := by
  apply fieldsAt_of_window
  change window _ _ 3 = motorCommandBytes (motorAt motor1 motor2 motor3 motor4 i)
  rw [writeMotorCommands_writes, Cursor.putAll, List.map_id, motorsBytes_packed, motors_split i motor]
  exact window_overwrite_packed (fun _ => rfl) enabled inside

theorem writeMotorCommands_outside (flags : MotorFlags) (motor1 motor2 motor3 motor4 : MotorCommand) (buf : List UInt8)
    (off k : Nat) (outside : k < off ∨ off + 3 * (motors.filter flags.enabled).length ≤ k) :
    (writeMotorCommands flags motor1 motor2 motor3 motor4 ⟨id, buf, off⟩).buf[k]? = buf[k]? := by
  rw [writeMotorCommands_writes, Cursor.putAll, List.map_id, motorsBytes_packed]
  have width : ∀ i, (motorCommandBytes (motorAt motor1 motor2 motor3 motor4 i)).length = 3 := fun _ => rfl
  apply getElem?_overwrite_outside
  rwa [length_packed width]

theorem readMotors_inverse (flags : MotorFlags) (stamp : Int) (buf : List UInt8) (off : Nat)
    (content : Nat → MotorFeedback)
    (holds : window buf off (packed flags.enabled (fun i => feedbackBytes (content i)) motors).length =
      packed flags.enabled (fun i => feedbackBytes (content i)) motors) :
    ∀ i ∈ motors, (readMotors flags stamp buf off).1.motor i = if flags.enabled i then content i else {} := by
  intro i motor
  rw [readMotors_slots flags stamp buf off i motor]
  split
  case isFalse => rfl
  case isTrue enabled =>
    rw [motors_split i motor] at holds
    have width : ∀ j, (feedbackBytes (content j)).length = 9 := fun _ => rfl
    have here := window_packed width enabled holds
    exact congrArg Prod.fst (readMotor_reads (content i) _ _ here)

theorem slotsAgree {data : ConfigurationParser} {start : String} {s s' filled : ArgStream}
    {control : Nat → Layout String Variant} {initMotor : Nat → ArgStream → Except Exception (Bool × ArgStream)}
    (each : ∀ i s result, initMotor i s = .ok result → MotorAppended control data start i s result)
    {common : List String} (few : common.length ≤ 256) {flags : MotorFlags}
    (appended : appendFields data (start ++ "sdowrite_") common s = .ok filled)
    (returned : initMotors initMotor filled = .ok (flags, s')) :
    SlotsAgree common control writeMotorCommands (fun flags stamp buf off _ => (readMotors flags stamp buf off).1)
      data start s s' flags := by
  constructor
  case enabled => exact initMotors_enabled each returned
  case command =>
    intro motor1 motor2 motor3 motor4 buf off i motor enabled inside
    exact writeMotorCommands_slot flags motor1 motor2 motor3 motor4 buf off motor enabled inside
  case commandsOnly => exact writeMotorCommands_outside flags
  case feedback =>
    intro stamp buf off msg
    exact readMotors_slots flags stamp buf off
  case inverse =>
    intro stamp buf off msg
    exact readMotors_inverse flags stamp buf off
  case blocks =>
    obtain ⟨first, collected, rfl⟩ := appended_fields few appended
    obtain ⟨blocks, each_collected, rfl⟩ := initMotors_packed each returned
    refine ⟨first, blocks, collected, ?_, ArgStream.write_append _ _ s⟩
    intro i motor enabled
    refine ⟨each_collected i motor enabled,
      packed flags.enabled (fun j => Layout.stored variantBytes (blocks j)) (List.range' (i + 1) (4 - i)), ?_⟩
    rw [ArgStream.write_append, motors_split i motor, packed_slot enabled]
    rfl

/-- DJI and DD motors agree on their slots whatever is configured, commanded and reported. -/
theorem motor_slots_agree (data : ConfigurationParser) (start : String) (s s' : ArgStream) (task : TaskWrapper) :
    (DjiMotor.initSdo data start s = .ok (task, s') → ∃ flags, task.body = .djiMotor flags ∧
      SlotsAgree ["connection_lost_write_action", "control_period", "can_packet_id", "motor1_can_id", "motor2_can_id",
        "motor3_can_id", "motor4_can_id", "can_inst"] DjiMotor.control DjiMotor.onCommand DjiMotor.read
        data start s s' flags) ∧
    (DdMotor.initSdo data start s = .ok (task, s') → ∃ flags, task.body = .ddMotor flags ∧
      SlotsAgree ["can_baudrate", "connection_lost_write_action", "control_period", "can_packet_id", "motor1_can_id",
        "motor2_can_id", "motor3_can_id", "motor4_can_id", "can_inst"] DdMotor.control DdMotor.onCommand DdMotor.read
        data start s s' flags) := by
  constructor
  · intro returned
    obtain ⟨common, flags, appended, motors, body⟩ := initSdo_motors TaskBody.djiMotor returned
    exact ⟨flags, body, slotsAgree (fun _ _ _ => DjiMotor.initMotor_appended) (by decide) appended motors⟩
  · intro returned
    obtain ⟨common, flags, appended, motors, body⟩ := initSdo_motors TaskBody.ddMotor returned
    exact ⟨flags, body, slotsAgree (fun _ _ _ => DdMotor.initMotor_appended) (by decide) appended motors⟩

/-- Motors 1 and 3 are enabled. -/
def twoMotorsData : ConfigurationParser where
  fields :=
    [("sdowrite_connection_lost_write_action", .uint8 1), ("sdowrite_control_period", .uint16 1),
     ("sdowrite_can_packet_id", .uint32 0x200), ("sdowrite_motor1_can_id", .uint32 0x201),
     ("sdowrite_motor2_can_id", .uint32 0), ("sdowrite_motor3_can_id", .uint32 0x203),
     ("sdowrite_motor4_can_id", .uint32 0), ("sdowrite_can_inst", .uint8 0),
     ("sdowrite_motor1_control_type", .uint8 DJIMOTOR_CTRL_TYPE_CURRENT),
     ("sdowrite_motor3_control_type", .uint8 DJIMOTOR_CTRL_TYPE_CURRENT), ("pub_topic", .string "/motors/read"),
     ("sub_topic", .string "/motors/write")]

theorem two_motors_slots : ∃ task s' flags,
    DjiMotor.initSdo twoMotorsData "" ⟨List.replicate 40 0, 0⟩ = .ok (task, s') ∧ task.body = .djiMotor flags ∧
    ∀ stamp buf, (DjiMotor.read flags stamp buf 0 {}).motor 3 = (readMotor buf 9).1 := by
  obtain ⟨task, s', returned, body⟩ : ∃ task s',
      DjiMotor.initSdo twoMotorsData "" ⟨List.replicate 40 0, 0⟩ = .ok (task, s') ∧
        task.body = .djiMotor ⟨true, false, true, false⟩ := ⟨_, _, rfl, rfl⟩
  obtain ⟨flags, same, slots⟩ := (motor_slots_agree twoMotorsData "" _ s' task).1 returned
  rw [body] at same
  cases same
  refine ⟨task, s', _, returned, body, ?_⟩
  intro stamp buf
  exact slots.feedback stamp buf 0 {} 3 (by decide)

end EcatMaster.Tasks
