import EcatMaster.Io.Readers
import EcatMaster.Library.Layout
import EcatMaster.Tasks.InitSdo

/-! The blocks of the argument stream.

What `init_sdo` of a task appends is one record: its layout depends on the task
type, on which motors are enabled and on control types, and the values come from
the configuration. Here each `init_sdo` is shown to append the record of its
layout.
-/

set_option autoImplicit false

namespace EcatMaster.Tasks
open Io Library Config

/-- The bytes that the visitor of `build_buf` stores. -/
def variantBytes : Variant → List UInt8
  | .uint8 value => [value]
  | .int8 value => [value.toUInt8]
  | .uint16 value => uint16Bytes value
  | .int16 value => uint16Bytes value.toUInt16
  | .uint32 value => uint32Bytes value
  | .int32 value => uint32Bytes value.toUInt32
  | .float pattern => uint32Bytes pattern
  | .string _ => []
  | .bool _ => []

theorem writeVariant_writes (value : Variant) : Writes (writeVariant value) (variantBytes value) := by
  cases value with
  | uint8 value => exact writeUint8_writes value
  | int8 value => exact writeInt8_writes value
  | uint16 value => exact writeUint16_writes value
  | int16 value => exact writeInt16_writes value
  | uint32 value => exact writeUint32_writes value
  | int32 value => exact writeInt32_writes value
  | float pattern => exact writeFloat_writes pattern
  | string value => exact Writes.nil
  | bool value => exact Writes.nil

theorem length_variantBytes_le (value : Variant) : (variantBytes value).length ≤ 4 := by
  cases value <;> exact Nat.le_of_ble_eq_true rfl

inductive NumericTag where
  | uint8
  | int8
  | uint16
  | int16
  | uint32
  | int32
  | float
  deriving DecidableEq

def numericTag : Variant → Option NumericTag
  | .uint8 _ => some .uint8
  | .int8 _ => some .int8
  | .uint16 _ => some .uint16
  | .int16 _ => some .int16
  | .uint32 _ => some .uint32
  | .int32 _ => some .int32
  | .float _ => some .float
  | .string _ => none
  | .bool _ => none

def HasTag (tag : NumericTag) (value : Variant) : Prop := numericTag value = some tag

instance (tag : NumericTag) (value : Variant) : Decidable (HasTag tag value) :=
  inferInstanceAs (Decidable (numericTag value = some tag))

theorem uint16Bytes_separates {value value' : UInt16} {rest rest' : List UInt8}
    (same : uint16Bytes value ++ rest = uint16Bytes value' ++ rest') : value = value' ∧ rest = rest' := by
  obtain ⟨bytes, others⟩ := List.append_inj same rfl
  refine ⟨?_, others⟩
  exact ((word_eq_iff _ _ value).mpr rfl).symm.trans ((word_eq_iff _ _ value').mpr bytes)

theorem uint32Bytes_separates {value value' : UInt32} {rest rest' : List UInt8}
    (same : uint32Bytes value ++ rest = uint32Bytes value' ++ rest') : value = value' ∧ rest = rest' := by
  obtain ⟨bytes, others⟩ := List.append_inj same rfl
  refine ⟨?_, others⟩
  simp only [uint32Bytes, List.cons.injEq, and_true] at bytes
  obtain ⟨first, second, third, fourth⟩ := bytes
  rw [← word32_bytes value, ← word32_bytes value', first, second, third, fourth]

/-- With a fixed tag the end of a value in a stream is known. -/
theorem variantBytes_separates {tag : NumericTag} {value value' : Variant} {rest rest' : List UInt8}
    (tagged : HasTag tag value) (tagged' : HasTag tag value')
    (same : variantBytes value ++ rest = variantBytes value' ++ rest') : value = value' ∧ rest = rest' := by
  cases tag <;> cases value <;> cases tagged <;> cases value' <;> cases tagged'
  -- One case for each tag, both values having it.
  all_goals rename_i value value'
  · obtain ⟨rfl, others⟩ := List.cons.inj same
    exact ⟨rfl, others⟩
  · obtain ⟨byte, others⟩ := List.cons.inj same
    rw [← Int8.toInt8_toUInt8 value, byte, Int8.toInt8_toUInt8]
    exact ⟨rfl, others⟩
  · obtain ⟨rfl, others⟩ := uint16Bytes_separates same
    exact ⟨rfl, others⟩
  · obtain ⟨word, others⟩ := uint16Bytes_separates same
    rw [← Int16.toInt16_toUInt16 value, word, Int16.toInt16_toUInt16]
    exact ⟨rfl, others⟩
  · obtain ⟨rfl, others⟩ := uint32Bytes_separates same
    exact ⟨rfl, others⟩
  · obtain ⟨word, others⟩ := uint32Bytes_separates same
    rw [← Int32.toInt32_toUInt32 value, word, Int32.toInt32_toUInt32]
    exact ⟨rfl, others⟩
  · obtain ⟨rfl, others⟩ := uint32Bytes_separates same
    exact ⟨rfl, others⟩

def source (data : ConfigurationParser) (start : String) (name : String) : Option Variant :=
  data.fields.lookup (start ++ name)

theorem source_of_get {data : ConfigurationParser} {start name : String} {value : Variant}
    (found : data.get (start ++ name) = .ok value) : source data start name = some value := by
  unfold ConfigurationParser.get at found
  unfold source
  split at found
  · cases found
    assumption
  · cases found

def ArgStream.write (bytes : List UInt8) (s : ArgStream) : ArgStream :=
  { buf := overwrite s.buf s.offset bytes, offset := s.offset + bytes.length }

theorem ArgStream.write_append (first later : List UInt8) (s : ArgStream) :
    (s.write first).write later = s.write (first ++ later) := by
  simp only [write, overwrite_append, List.length_append, Nat.add_assoc]

/-- The stream got the record of a layout, for the values of a task. -/
def Appended (layout : Layout String Variant) (data : ConfigurationParser) (start : String) (s s' : ArgStream) :
    Prop :=
  ∃ entries, layout.collect (source data (start ++ "sdowrite_")) = some entries ∧
    s' = s.write (Layout.stored variantBytes entries)

theorem foldlM_writeVariant {data : ConfigurationParser} {start : String} {names : List String}
    {c c' : Cursor UInt8}
    (returned : names.foldlM (fun c name => do return writeVariant (← data.get (start ++ name)) c) c = .ok c') :
    ∃ values : List Variant, names.map (source data start) = values.map some ∧
      c' = c.putAll (values.flatMap variantBytes) := by
  induction names generalizing c with
  | nil =>
    cases returned
    exact ⟨[], rfl, (Cursor.putAll_nil _).symm⟩
  | cons name names ih =>
    rw [List.foldlM_cons] at returned
    obtain ⟨stored, looked, returned⟩ := bind_ok returned
    obtain ⟨value, found, written⟩ := bind_ok looked
    obtain ⟨values, others, rfl⟩ := ih returned
    refine ⟨value :: values, by simp [source_of_get found, others], ?_⟩
    cases written
    rw [writeVariant_writes, List.flatMap_cons, Cursor.putAll_append]

theorem length_flatMap_variantBytes_le (values : List Variant) :
    (values.flatMap variantBytes).length ≤ 4 * values.length := by
  induction values with
  | nil => exact Nat.le_refl 0
  | cons value values ih =>
    have here := length_variantBytes_le value
    simp only [List.flatMap_cons, List.length_append, List.length_cons]
    omega

-- No task has so many fields that they would not fit the scratch buffer.
theorem appendFields_eq {data : ConfigurationParser} {start : String} {names : List String} {s s' : ArgStream}
    (few : names.length ≤ 256) (appended : appendFields data start names s = .ok s') :
    ∃ values : List Variant, names.map (source data start) = values.map some ∧
      s' = s.write (values.flatMap variantBytes) := by
  obtain ⟨sdo, built, returned⟩ := bind_ok appended
  obtain ⟨c, filled, built⟩ := bind_ok built
  obtain ⟨values, found, rfl⟩ := foldlM_writeVariant filled
  refine ⟨values, found, ?_⟩
  have count := congrArg List.length found
  have bound := length_flatMap_variantBytes_le values
  simp only [List.length_map] at count
  cases returned
  cases built
  have taken := window_overwrite_same (List.replicate 1024 (0 : UInt8)) (values.flatMap variantBytes) 0
    (Or.inr (by rw [List.length_replicate]; omega))
  have block : (overwrite (List.replicate 1024 (0 : UInt8)) 0 (values.flatMap variantBytes)).take
      (values.flatMap variantBytes).length = values.flatMap variantBytes := taken
  simp only [ArgStream.append, Cursor.putAll, List.map_id, Nat.zero_add, ArgStream.write, block]

theorem stored_zip {names : List String} {values : List Variant} (count : names.length = values.length) :
    Layout.stored variantBytes (names.zip values) = values.flatMap variantBytes := by
  induction names generalizing values with
  | nil =>
    cases values with
    | nil => rfl
    | cons value values => cases count
  | cons name names ih =>
    cases values with
    | nil => cases count
    | cons value values =>
      change variantBytes value ++ Layout.stored variantBytes (names.zip values) = _
      rw [ih (Nat.succ.inj count), List.flatMap_cons]

section Appending
variable {data : ConfigurationParser} {start : String} {s s' s'' : ArgStream} {layout rest : Layout String Variant}

theorem Appended.done : Appended .done data start s s := ⟨[], rfl, rfl⟩

theorem Appended.andThen (first : Appended layout data start s s') (later : Appended rest data start s' s'') :
    Appended (layout.andThen rest) data start s s'' := by
  obtain ⟨entries, collected, rfl⟩ := first
  obtain ⟨entries', collected', rfl⟩ := later
  refine ⟨entries ++ entries', Layout.collect_andThen collected collected', ?_⟩
  rw [ArgStream.write_append, Layout.stored_append]

theorem appended_fields {names : List String} (few : names.length ≤ 256)
    (appended : appendFields data (start ++ "sdowrite_") names s = .ok s') :
    Appended (Layout.fields names .done) data start s s' := by
  obtain ⟨values, found, rfl⟩ := appendFields_eq few appended
  have count : names.length = values.length := by simpa using congrArg List.length found
  exact ⟨names.zip values, Layout.collect_fields_done found, by rw [stored_zip count]⟩

end Appending

def plain (names : List String) : Layout String Variant := Layout.fields names .done

def HipnucImuCan.block : Layout String Variant := plain ["can_inst", "packet1_id", "packet2_id", "packet3_id"]

def Ms5837.block : Layout String Variant := plain ["i2c_id", "osr_id"]

def Dshot.block : Layout String Variant := plain ["connection_lost_write_action", "dshot_id", "init_value"]

def OnboardPwm.block : Layout String Variant :=
  plain ["connection_lost_write_action", "port_id", "pwm_period", "init_value"]

def ExternalPwm.block : Layout String Variant :=
  plain ["connection_lost_write_action", "uart_id", "pwm_period", "channel_num", "init_value"]

-- In broadcast mode there is no packet identifier.
def LkMotor.block : Layout String Variant :=
  .field "connection_lost_write_action" fun _ => .field "control_period" fun _ => .field "control_type" fun controlType =>
    plain (if controlType = .uint8 0x08 then ["can_inst"] else ["can_packet_id", "can_inst"])

def DmMotor.block : Layout String Variant :=
  plain ["connection_lost_write_action", "control_period", "can_id", "master_id", "can_inst", "control_type"]

def SuperCap.block : Layout String Variant :=
  plain ["connection_lost_write_action", "can_inst", "chassis_to_cap_id", "cap_to_chassis_id"]

def motorName (i : Nat) (name : String) : String := "motor" ++ toString i ++ "_" ++ name

def isEnabled : Variant → Bool
  | .uint32 canId => canId > 0
  | _ => false

/-- The control block of a motor, which only an enabled one has. -/
def motorBlock (control : Nat → Layout String Variant) (i : Nat) (canId : Variant) : Layout String Variant :=
  if isEnabled canId then control i else .done

/-- The common fields with the four identifiers, and then the control blocks. -/
def motorsBlock (first : List String) (control : Nat → Layout String Variant) : Layout String Variant :=
  Layout.fields first <|
    .field "motor1_can_id" fun canId1 => .field "motor2_can_id" fun canId2 =>
    .field "motor3_can_id" fun canId3 => .field "motor4_can_id" fun canId4 =>
    .field "can_inst" fun _ =>
      (motorBlock control 1 canId1).andThen <| (motorBlock control 2 canId2).andThen <|
      (motorBlock control 3 canId3).andThen (motorBlock control 4 canId4)

def speedPidNames : List String :=
  ["speed_pid_kp", "speed_pid_ki", "speed_pid_kd", "speed_pid_max_out", "speed_pid_max_iout"]

def anglePidNames : List String :=
  ["angle_pid_kp", "angle_pid_ki", "angle_pid_kd", "angle_pid_max_out", "angle_pid_max_iout"]

/-- The parameters that follow a control type; those of another type than the three are not known. -/
def controlNames (controlType : Variant) : List String :=
  if controlType = .uint8 DJIMOTOR_CTRL_TYPE_SPEED then speedPidNames
  else if controlType = .uint8 DJIMOTOR_CTRL_TYPE_SINGLE_ROUND_POSITION then speedPidNames ++ anglePidNames
  else []

def handledControl (controlType : Variant) : Bool :=
  controlType = .uint8 DJIMOTOR_CTRL_TYPE_CURRENT ∨ controlType = .uint8 DJIMOTOR_CTRL_TYPE_SPEED ∨
    controlType = .uint8 DJIMOTOR_CTRL_TYPE_SINGLE_ROUND_POSITION

def DjiMotor.afterControl (i : Nat) (controlType : Variant) : Layout String Variant :=
  plain ((controlNames controlType).map (motorName i))

-- The control type is looked up first; an unknown one is not even stored itself.
def DjiMotor.control (i : Nat) : Layout String Variant :=
  .peek (motorName i "control_type") fun controlType =>
    if handledControl controlType then .field (motorName i "control_type") (DjiMotor.afterControl i) else .done

def DjiMotor.block : Layout String Variant :=
  motorsBlock ["connection_lost_write_action", "control_period", "can_packet_id"] DjiMotor.control

def DdMotor.control (i : Nat) : Layout String Variant := plain [motorName i "control_type"]

def DdMotor.block : Layout String Variant :=
  motorsBlock ["can_baudrate", "connection_lost_write_action", "control_period", "can_packet_id"] DdMotor.control

/-- The layout of the block of each task type; the receivers and the PMU have none. -/
def blockLayout (taskType : UInt8) : Layout String Variant :=
  if taskType = LK_APP_ID then LkMotor.block
  else if taskType = HIPNUC_IMU_CAN_APP_ID then HipnucImuCan.block
  else if taskType = DSHOT_APP_ID then Dshot.block
  else if taskType = DJICAN_APP_ID then DjiMotor.block
  else if taskType = ONBOARD_PWM_APP_ID then OnboardPwm.block
  else if taskType = DM_MOTOR_APP_ID then DmMotor.block
  else if taskType = SUPER_CAP_APP_ID then SuperCap.block
  else if taskType = EXTERNAL_PWM_APP_ID then ExternalPwm.block
  else if taskType = MS5837_30BA_APP_ID then Ms5837.block
  else if taskType = DD_MOTOR_APP_ID then DdMotor.block
  else .done

/-! ## Each task appends its block -/

section Blocks
variable {data : ConfigurationParser} {start : String} {s s' : ArgStream} {task : TaskWrapper}

theorem motorArgKey_append (start : String) (i : Nat) (name : String) :
    motorArgKey start i ++ name = start ++ "sdowrite_" ++ motorName i name := by
  simp only [motorArgKey, motorName, String.append_assoc]
  rw [show ("sdowrite_motor" : String) = "sdowrite_" ++ "motor" from rfl, String.append_assoc]

theorem source_motor (data : ConfigurationParser) (start : String) (i : Nat) (name : String) :
    source data (motorArgKey start i) name = source data (start ++ "sdowrite_") (motorName i name) := by
  rw [source, source, motorArgKey_append]

theorem source_of_getFieldAs {T : Type} {as : Variant → Except Exception T} {name : String} {value : T}
    (found : getFieldAs as data (start ++ name) = .ok value) :
    ∃ variant, source data start name = some variant ∧ as variant = .ok value := by
  obtain ⟨variant, got, read⟩ := bind_ok found
  exact ⟨variant, source_of_get got, read⟩

theorem getUint32_ok {variant : Variant} {value : UInt32} (read : variant.getUint32 = .ok value) :
    variant = .uint32 value := by
  cases variant <;> cases read
  rfl

theorem getUint8_ok {variant : Variant} {value : UInt8} (read : variant.getUint8 = .ok value) :
    variant = .uint8 value := by
  cases variant <;> cases read
  rfl

theorem appended_motor {i : Nat} {names : List String} (few : names.length ≤ 256)
    (appended : appendFields data (motorArgKey start i) names s = .ok s') :
    Appended (plain (names.map (motorName i))) data start s s' := by
  obtain ⟨values, found, rfl⟩ := appendFields_eq few appended
  have count : (names.map (motorName i)).length = values.length := by simpa using congrArg List.length found
  have named : (names.map (motorName i)).map (source data (start ++ "sdowrite_")) = values.map some := by
    rw [← found, List.map_map]
    apply List.map_congr_left
    intro name _
    exact (source_motor data start i name).symm
  exact ⟨_, Layout.collect_fields_done named, by rw [stored_zip count]⟩

/-- What the loop does for a motor: its identifier decides whether there is a block. -/
def MotorAppended (control : Nat → Layout String Variant) (data : ConfigurationParser) (start : String) (i : Nat)
    (s : ArgStream) (result : Bool × ArgStream) : Prop :=
  ∃ canId, source data (start ++ "sdowrite_") (motorName i "can_id") = some canId ∧ result.1 = isEnabled canId ∧
    Appended (motorBlock control i canId) data start s result.2

theorem motorBlock_enabled (control : Nat → Layout String Variant) (i : Nat) {canId : UInt32} (enabled : canId > 0) :
    isEnabled (.uint32 canId) = true ∧ motorBlock control i (.uint32 canId) = control i := by
  have on : isEnabled (.uint32 canId) = true := decide_eq_true enabled
  exact ⟨on, if_pos on⟩

theorem motorBlock_disabled (control : Nat → Layout String Variant) (i : Nat) {canId : UInt32} (disabled : ¬canId > 0) :
    isEnabled (.uint32 canId) = false ∧ motorBlock control i (.uint32 canId) = .done := by
  have off : isEnabled (.uint32 canId) = false := decide_eq_false disabled
  exact ⟨off, if_neg (by simp [off])⟩

theorem DdMotor.initMotor_appended {i : Nat} {result : Bool × ArgStream}
    (returned : DdMotor.initMotor data start i s = .ok result) :
    MotorAppended DdMotor.control data start i s result := by
  obtain ⟨canId, looked, returned⟩ := bind_ok returned
  obtain ⟨variant, found, read⟩ := source_of_getFieldAs looked
  rw [getUint32_ok read, source_motor] at found
  refine ⟨_, found, ?_⟩
  split at returned
  case isTrue enabled =>
    obtain ⟨s', appended, returned⟩ := bind_ok returned
    cases returned
    obtain ⟨on, block⟩ := motorBlock_enabled DdMotor.control i enabled
    rw [on, block]
    exact ⟨rfl, appended_motor (by decide) appended⟩
  case isFalse disabled =>
    cases returned
    obtain ⟨off, block⟩ := motorBlock_disabled DdMotor.control i disabled
    rw [off, block]
    exact ⟨rfl, .done⟩

/-- A known control type is stored and then its parameters. -/
theorem DjiMotor.appended_control {i : Nat} {controlType : UInt8}
    (found : source data (motorArgKey start i) "control_type" = some (.uint8 controlType))
    (handled : handledControl (.uint8 controlType) = true)
    (appended : appendFields data (motorArgKey start i) ("control_type" :: controlNames (.uint8 controlType)) s = .ok s')
    (few : (controlNames (.uint8 controlType)).length ≤ 255) :
    Appended (DjiMotor.control i) data start s s' := by
  have fits : ("control_type" :: controlNames (.uint8 controlType)).length ≤ 256 := Nat.succ_le_succ few
  obtain ⟨entries, collected, stored⟩ := appended_motor fits appended
  rw [source_motor] at found
  refine ⟨entries, Layout.collect_peek.mpr ⟨_, found, ?_⟩, stored⟩
  rw [if_pos handled]
  -- The layout that knows the type is the list of names for it.
  obtain ⟨value, rest, here, inside, rfl⟩ := Layout.collect_field.mp collected
  rw [found] at here
  cases here
  exact Layout.collect_field.mpr ⟨_, rest, found, inside, rfl⟩

theorem DjiMotor.initMotor_appended {i : Nat} {result : Bool × ArgStream}
    (returned : DjiMotor.initMotor data start i s = .ok result) :
    MotorAppended DjiMotor.control data start i s result := by
  obtain ⟨canId, looked, returned⟩ := bind_ok returned
  obtain ⟨variant, found, read⟩ := source_of_getFieldAs looked
  rw [getUint32_ok read, source_motor] at found
  refine ⟨_, found, ?_⟩
  split at returned
  case isFalse disabled =>
    cases returned
    obtain ⟨off, block⟩ := motorBlock_disabled DjiMotor.control i disabled
    rw [off, block]
    exact ⟨rfl, .done⟩
  case isTrue enabled =>
    obtain ⟨on, block⟩ := motorBlock_enabled DjiMotor.control i enabled
    rw [on, block]
    obtain ⟨controlType, looked', returned⟩ := bind_ok returned
    obtain ⟨variant', found', read'⟩ := source_of_getFieldAs looked'
    rw [getUint8_ok read'] at found'
    split_ifs at returned with current speed position
    · obtain ⟨s', appended, returned⟩ := bind_ok returned
      cases returned
      subst current
      exact ⟨rfl, appended_control found' (by decide) appended (by decide)⟩
    · obtain ⟨s', appended, returned⟩ := bind_ok returned
      cases returned
      subst speed
      exact ⟨rfl, appended_control found' (by decide) appended (by decide)⟩
    · obtain ⟨s', appended, returned⟩ := bind_ok returned
      cases returned
      subst position
      exact ⟨rfl, appended_control found' (by decide) appended (by decide)⟩
    · cases returned
      have unknown : handledControl (.uint8 controlType) = false := by
        simp [handledControl, current, speed, position]
      rw [source_motor] at found'
      refine ⟨rfl, [], Layout.collect_peek.mpr ⟨_, found', ?_⟩, rfl⟩
      rw [if_neg (by simp [unknown])]
      rfl

theorem initMotors_turns {initMotor : Nat → ArgStream → Except Exception (Bool × ArgStream)}
    {flags : MotorFlags} (returned : initMotors initMotor s = .ok (flags, s')) :
    ∃ s₁ s₂ s₃, initMotor 1 s = .ok (flags.motor1, s₁) ∧ initMotor 2 s₁ = .ok (flags.motor2, s₂) ∧
      initMotor 3 s₂ = .ok (flags.motor3, s₃) ∧ initMotor 4 s₃ = .ok (flags.motor4, s') := by
  obtain ⟨⟨motor1, s₁⟩, first, returned⟩ := bind_ok returned
  obtain ⟨⟨motor2, s₂⟩, second, returned⟩ := bind_ok returned
  obtain ⟨⟨motor3, s₃⟩, third, returned⟩ := bind_ok returned
  obtain ⟨⟨motor4, s₄⟩, fourth, returned⟩ := bind_ok returned
  cases returned
  exact ⟨s₁, s₂, s₃, first, second, third, fourth⟩

theorem motors_appended {initMotor : Nat → ArgStream → Except Exception (Bool × ArgStream)}
    {control : Nat → Layout String Variant}
    (each : ∀ i s result, initMotor i s = .ok result → MotorAppended control data start i s result)
    {first : List String} (few : first.length ≤ 200) {common : ArgStream} {flags : MotorFlags}
    (appended : appendFields data (start ++ "sdowrite_")
      (first ++ ["motor1_can_id", "motor2_can_id", "motor3_can_id", "motor4_can_id", "can_inst"]) s = .ok common)
    (returned : initMotors initMotor common = .ok (flags, s')) :
    Appended (motorsBlock first control) data start s s' := by
  obtain ⟨values, found, rfl⟩ := appendFields_eq (by simp; omega) appended
  rw [List.map_append] at found
  obtain ⟨firstValues, rest, rfl, foundFirst, foundRest⟩ := List.map_eq_append_iff.mp found.symm
  obtain ⟨s₁, s₂, s₃, turn1, turn2, turn3, turn4⟩ := initMotors_turns returned
  obtain ⟨canId1, id1, _, block1⟩ := each _ _ _ turn1
  obtain ⟨canId2, id2, _, block2⟩ := each _ _ _ turn2
  obtain ⟨canId3, id3, _, block3⟩ := each _ _ _ turn3
  obtain ⟨canId4, id4, _, block4⟩ := each _ _ _ turn4
  obtain ⟨entries, collected, rfl⟩ := block1.andThen (block2.andThen (block3.andThen block4))
  simp only [List.map_cons, List.map_nil, List.map_eq_cons_iff, List.map_eq_nil_iff] at foundRest
  obtain ⟨value1, _, rfl, here1, value2, _, rfl, here2, value3, _, rfl, here3, value4, _, rfl, here4, canInst, _, rfl,
    here, rfl⟩ := foundRest
  -- The identifiers that were stored are those that the loop looks up again.
  have same1 : value1 = canId1 := Option.some.inj (here1.trans id1)
  have same2 : value2 = canId2 := Option.some.inj (here2.trans id2)
  have same3 : value3 = canId3 := Option.some.inj (here3.trans id3)
  have same4 : value4 = canId4 := Option.some.inj (here4.trans id4)
  subst same1 same2 same3 same4
  refine ⟨first.zip firstValues ++ ("motor1_can_id", value1) :: ("motor2_can_id", value2) ::
    ("motor3_can_id", value3) :: ("motor4_can_id", value4) :: ("can_inst", canInst) :: entries,
    Layout.collect_fields foundFirst.symm ?_, ?_⟩
  · exact Layout.collect_field.mpr ⟨value1, _, id1, Layout.collect_field.mpr ⟨value2, _, id2,
      Layout.collect_field.mpr ⟨value3, _, id3, Layout.collect_field.mpr ⟨value4, _, id4,
      Layout.collect_field.mpr ⟨canInst, _, here.symm, collected, rfl⟩, rfl⟩, rfl⟩, rfl⟩, rfl⟩
  · have count : first.length = firstValues.length := by simpa using congrArg List.length foundFirst.symm
    rw [ArgStream.write_append, Layout.stored_append, stored_zip count, List.flatMap_append, List.append_assoc]
    simp only [Layout.stored, List.flatMap_cons, List.flatMap_nil, List.append_assoc, List.nil_append]

/-- A task of this type has been made, and its record appended. -/
structure Made (taskType : UInt8) (layout : Layout String Variant) (data : ConfigurationParser) (start : String)
    (s : ArgStream) (result : TaskWrapper × ArgStream) : Prop where
  typeId : result.1.body.typeId = taskType
  appended : Appended layout data start s result.2

/-- The rest of an `init_sdo` after its block: the members are set, the stream stays. -/
def Finishes (taskType : UInt8) (s : ArgStream) (call : Except Exception (TaskWrapper × ArgStream)) : Prop :=
  Ensures (fun result => result.1.body.typeId = taskType ∧ result.2 = s) call

theorem made_plain {taskType : UInt8} {names : List String}
    {rest : ArgStream → Except Exception (TaskWrapper × ArgStream)} (few : names.length ≤ 256)
    (finishes : ∀ filled, Finishes taskType filled (rest filled)) :
    Ensures (Made taskType (plain names) data start s) (appendFields data (start ++ "sdowrite_") names s >>= rest) := by
  intro result returned
  obtain ⟨filled, appended, returned⟩ := bind_ok returned
  obtain ⟨typeId, same⟩ := finishes filled _ returned
  rw [← same] at appended
  exact ⟨typeId, appended_fields few appended⟩

theorem finishes_loaded {taskType : UInt8} {task : TaskBody → TaskWrapper} {body : TaskBody}
    (loaded : loadSlaveInfo data start = .ok task) (same : body.typeId = taskType) :
    Finishes taskType s (pure (task body, s)) := by
  apply Ensures.pure
  rw [loadSlaveInfo_body data start task loaded body]
  exact ⟨same, rfl⟩

theorem initSdoReceiver_made {taskType : UInt8} {body : TaskBody} (same : body.typeId = taskType) :
    Ensures (Made taskType .done data start s) (initSdoReceiver body data start s) := by
  intro result returned
  have finishes : Finishes taskType s (initSdoReceiver body data start s) :=
    .bind fun _ loaded => .bind fun _ _ => finishes_loaded loaded same
  obtain ⟨typeId, kept⟩ := finishes result returned
  refine ⟨typeId, ?_⟩
  rw [kept]
  exact .done

theorem HipnucImuCan.initSdo_made :
    Ensures (Made HIPNUC_IMU_CAN_APP_ID HipnucImuCan.block data start s) (HipnucImuCan.initSdo data start s) :=
  made_plain (by decide) fun _ => .bind fun _ loaded => .bind fun _ _ => .bind fun _ _ => finishes_loaded loaded rfl

theorem Ms5837.initSdo_made :
    Ensures (Made MS5837_30BA_APP_ID Ms5837.block data start s) (Ms5837.initSdo data start s) :=
  made_plain (by decide) fun _ => .bind fun _ loaded => .bind fun _ _ => finishes_loaded loaded rfl

theorem Dshot.initSdo_made : Ensures (Made DSHOT_APP_ID Dshot.block data start s) (Dshot.initSdo data start s) :=
  made_plain (by decide) fun _ => .bind fun _ loaded => .bind fun _ _ => .bind fun _ _ => finishes_loaded loaded rfl

theorem OnboardPwm.initSdo_made :
    Ensures (Made ONBOARD_PWM_APP_ID OnboardPwm.block data start s) (OnboardPwm.initSdo data start s) :=
  made_plain (by decide) fun _ => .bind fun _ loaded => .bind fun _ _ => .bind fun _ _ => finishes_loaded loaded rfl

theorem ExternalPwm.initSdo_made :
    Ensures (Made EXTERNAL_PWM_APP_ID ExternalPwm.block data start s) (ExternalPwm.initSdo data start s) :=
  made_plain (by decide) fun _ => .bind fun _ loaded => .bind fun _ _ => .bind fun _ _ => .bind fun _ _ =>
    finishes_loaded loaded rfl

theorem SuperCap.initSdo_made :
    Ensures (Made SUPER_CAP_APP_ID SuperCap.block data start s) (SuperCap.initSdo data start s) :=
  made_plain (by decide) fun _ => .bind fun _ loaded => .bind fun _ _ => .bind fun _ _ => finishes_loaded loaded rfl

theorem DmMotor.initSdo_made :
    Ensures (Made DM_MOTOR_APP_ID DmMotor.block data start s) (DmMotor.initSdo data start s) := by
  refine made_plain (by decide) fun filled => .bind fun base loaded => .bind fun controlType _ => ?_
  split
  · exact .bind fun _ _ => .bind fun _ _ => .bind fun _ _ => .bind fun _ _ => .bind fun _ _ =>
      finishes_loaded loaded rfl
  · exact .bind fun _ _ => .bind fun _ _ => .bind fun _ _ => .bind fun _ _ => finishes_loaded loaded rfl

theorem LkMotor.appended_names {controlType : Variant} {names : List String}
    (found : source data (start ++ "sdowrite_") "control_type" = some controlType)
    (chosen : names = if controlType = .uint8 0x08 then ["can_inst"] else ["can_packet_id", "can_inst"])
    (appended : Appended (plain ("connection_lost_write_action" :: "control_period" :: "control_type" :: names))
      data start s s') :
    Appended LkMotor.block data start s s' := by
  obtain ⟨entries, all, stored⟩ := appended
  obtain ⟨action, _, foundAction, afterAction, rfl⟩ := Layout.collect_field.mp all
  obtain ⟨period, _, foundPeriod, afterPeriod, rfl⟩ := Layout.collect_field.mp afterAction
  obtain ⟨value, rest, foundType, collected, rfl⟩ := Layout.collect_field.mp afterPeriod
  rw [found] at foundType
  cases foundType
  rw [chosen] at collected
  refine ⟨_, Layout.collect_field.mpr ⟨action, _, foundAction, ?_, rfl⟩, stored⟩
  exact Layout.collect_field.mpr ⟨period, _, foundPeriod,
    Layout.collect_field.mpr ⟨controlType, _, found, collected, rfl⟩, rfl⟩

theorem LkMotor.initSdo_made : Ensures (Made LK_APP_ID LkMotor.block data start s) (LkMotor.initSdo data start s) := by
  refine .bind fun controlType looked => ?_
  have key : start ++ "sdowrite_control_type" = start ++ "sdowrite_" ++ "control_type" := by
    rw [String.append_assoc]
    rfl
  rw [key] at looked
  obtain ⟨variant, found, read⟩ := source_of_getFieldAs looked
  rw [getUint8_ok read] at found
  have finishes : ∀ (broadcast : Bool) (filled : ArgStream), Finishes LK_APP_ID filled (do
      let task ← loadSlaveInfo data start
      if 0x01 ≤ controlType ∧ controlType ≤ 0x08 then
        createTopic data (start ++ "sub_topic")
      createTopic data (start ++ "pub_topic")
      return (task (.lkMotor broadcast controlType), filled)) := by
    intro broadcast filled
    refine .bind fun base loaded => ?_
    split
    · exact .bind fun _ _ => .bind fun _ _ => finishes_loaded loaded rfl
    · exact .bind fun _ _ => finishes_loaded loaded rfl
  intro result returned
  by_cases broadcast : controlType = 0x08
  case pos =>
    subst broadcast
    obtain ⟨typeId, appended⟩ := made_plain (by decide) (finishes true) result returned
    exact ⟨typeId, appended_names found rfl appended⟩
  case neg =>
    have single : (controlType == 0x08) = false := by simpa using broadcast
    rw [single] at returned
    obtain ⟨typeId, appended⟩ := made_plain (by decide) (finishes false) result returned
    refine ⟨typeId, appended_names found ?_ appended⟩
    rw [if_neg (by simpa using broadcast)]

theorem initSdo_motors {names : List String} {initMotor : Nat → ArgStream → Except Exception (Bool × ArgStream)}
    (body : MotorFlags → TaskBody)
    (returned : (do
      let s ← appendFields data (start ++ "sdowrite_") names s
      let (isMotorEnabled, s) ← initMotors initMotor s
      let task ← loadSlaveInfo data start
      createTopic data (start ++ "pub_topic")
      createTopic data (start ++ "sub_topic")
      return (task (body isMotorEnabled), s)) = Except.ok (task, s')) :
    ∃ common flags, appendFields data (start ++ "sdowrite_") names s = .ok common ∧
      initMotors initMotor common = .ok (flags, s') ∧ task.body = body flags := by
  obtain ⟨common, appended, returned⟩ := bind_ok returned
  obtain ⟨⟨flags, filled⟩, motors, returned⟩ := bind_ok returned
  obtain ⟨base, loaded, returned⟩ := bind_ok returned
  obtain ⟨_, _, returned⟩ := bind_ok returned
  obtain ⟨_, _, returned⟩ := bind_ok returned
  cases returned
  exact ⟨common, flags, appended, motors, loadSlaveInfo_body data start base loaded _⟩

theorem DjiMotor.initSdo_made :
    Ensures (Made DJICAN_APP_ID DjiMotor.block data start s) (DjiMotor.initSdo data start s) := by
  rintro ⟨task, s'⟩ returned
  obtain ⟨common, flags, appended, motors, body⟩ := initSdo_motors TaskBody.djiMotor returned
  refine ⟨congrArg TaskBody.typeId body, ?_⟩
  exact motors_appended (fun _ _ _ => DjiMotor.initMotor_appended) (by decide) appended motors

theorem DdMotor.initSdo_made :
    Ensures (Made DD_MOTOR_APP_ID DdMotor.block data start s) (DdMotor.initSdo data start s) := by
  rintro ⟨task, s'⟩ returned
  obtain ⟨common, flags, appended, motors, body⟩ := initSdo_motors TaskBody.ddMotor returned
  refine ⟨congrArg TaskBody.typeId body, ?_⟩
  exact motors_appended (fun _ _ _ => DdMotor.initMotor_appended) (by decide) appended motors

end Blocks

/-- Each branch of the switch makes a task of its type, which appends the block of its type. -/
theorem makeTask_made {taskType : UInt8}
    {initSdo : ConfigurationParser → String → ArgStream → Except Exception (TaskWrapper × ArgStream)}
    (made : makeTask taskType = some initSdo) (data : ConfigurationParser) (start : String) (s : ArgStream) :
    Ensures (Made taskType (blockLayout taskType) data start s) (initSdo data start s) := by
  -- One case for each branch of the switch, in its order.
  rcases chosen_or made with ⟨rfl, rfl⟩ | made
  · exact initSdoReceiver_made rfl
  rcases chosen_or made with ⟨rfl, rfl⟩ | made
  · exact LkMotor.initSdo_made
  rcases chosen_or made with ⟨rfl, rfl⟩ | made
  · exact HipnucImuCan.initSdo_made
  rcases chosen_or made with ⟨rfl, rfl⟩ | made
  · exact Dshot.initSdo_made
  rcases chosen_or made with ⟨rfl, rfl⟩ | made
  · exact DjiMotor.initSdo_made
  rcases chosen_or made with ⟨rfl, rfl⟩ | made
  · exact OnboardPwm.initSdo_made
  rcases chosen_or made with ⟨rfl, rfl⟩ | made
  · exact initSdoReceiver_made rfl
  rcases chosen_or made with ⟨rfl, rfl⟩ | made
  · exact initSdoReceiver_made rfl
  rcases chosen_or made with ⟨rfl, rfl⟩ | made
  · exact DmMotor.initSdo_made
  rcases chosen_or made with ⟨rfl, rfl⟩ | made
  · exact SuperCap.initSdo_made
  rcases chosen_or made with ⟨rfl, rfl⟩ | made
  · exact initSdoReceiver_made rfl
  rcases chosen_or made with ⟨rfl, rfl⟩ | made
  · exact ExternalPwm.initSdo_made
  rcases chosen_or made with ⟨rfl, rfl⟩ | made
  · exact Ms5837.initSdo_made
  rcases chosen_or made with ⟨rfl, rfl⟩ | made
  · exact DdMotor.initSdo_made
  cases made

/-- Every task fills the buffer it is given without changing its length. -/
theorem makeTask_keeps {taskType : UInt8}
    {initSdo : ConfigurationParser → String → ArgStream → Except Exception (TaskWrapper × ArgStream)}
    (made : makeTask taskType = some initSdo) (data : ConfigurationParser) (start : String) (s : ArgStream) :
    KeepsLength s.buf.length (initSdo data start s) := by
  intro result returned
  obtain ⟨task, s'⟩ := result
  obtain ⟨_, entries, _, same⟩ := makeTask_made made data start s _ returned
  rw [same]
  exact length_overwrite _ _ _

end EcatMaster.Tasks
