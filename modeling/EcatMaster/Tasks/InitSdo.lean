import EcatMaster.Config.Parser
import EcatMaster.Tasks.Task

/-! The `init_sdo` members: each task appends its block to the argument buffer,
reads its PDO offsets and its own members from the configuration and creates its
topics. `start` is the key text `sn<N>_app_<i>_` that all its fields begin with. -/

set_option autoImplicit false

namespace EcatMaster.Tasks
open Io Library Config

def DJIRC_APP_ID : UInt8 := 1
def LK_APP_ID : UInt8 := 2
def HIPNUC_IMU_CAN_APP_ID : UInt8 := 3
def DSHOT_APP_ID : UInt8 := 4
def DJICAN_APP_ID : UInt8 := 5
def ONBOARD_PWM_APP_ID : UInt8 := 6
def EXTERNAL_PWM_APP_ID : UInt8 := 7
def MS5837_30BA_APP_ID : UInt8 := 8
def CAN_PMU_APP_ID : UInt8 := 10
def SBUS_RC_APP_ID : UInt8 := 11
def DM_MOTOR_APP_ID : UInt8 := 12
def SUPER_CAP_APP_ID : UInt8 := 13
def VT13_RC_APP_ID : UInt8 := 14
def DD_MOTOR_APP_ID : UInt8 := 15

/-- `get_type_id()`: the constructor of each subclass gives its own. -/
def TaskBody.typeId : TaskBody → UInt8
  | .dbusRc => DJIRC_APP_ID
  | .lkMotor _ _ => LK_APP_ID
  | .hipnucImuCan _ => HIPNUC_IMU_CAN_APP_ID
  | .dshot _ => DSHOT_APP_ID
  | .djiMotor _ => DJICAN_APP_ID
  | .onboardPwm _ => ONBOARD_PWM_APP_ID
  | .pmuCan => CAN_PMU_APP_ID
  | .sbusRc => SBUS_RC_APP_ID
  | .dmMotor _ _ _ _ => DM_MOTOR_APP_ID
  | .superCap => SUPER_CAP_APP_ID
  | .vt13Rc => VT13_RC_APP_ID
  | .externalPwm _ _ => EXTERNAL_PWM_APP_ID
  | .ms5837 => MS5837_30BA_APP_ID
  | .ddMotor _ => DD_MOTOR_APP_ID

/-- The pair `(buf, offset)` that `init_sdo` fills. -/
structure ArgStream where
  buf : List UInt8
  offset : Nat
  deriving DecidableEq

/-- `memcpy(buf + *offset, sdo_buf, sdo_len); *offset += sdo_len;` -/
def ArgStream.append (sdo : BuildBufResult) (s : ArgStream) : ArgStream :=
  { buf := overwrite s.buf s.offset (sdo.buf.take sdo.len), offset := s.offset + sdo.len }

def appendFields (data : ConfigurationParser) (start : String) (names : List String) (s : ArgStream) :
    Except Exception ArgStream := do
  return s.append (← data.buildBuf start names)

/-- `create_publisher` or `create_subscription` on the topic under this key. -/
def createTopic (data : ConfigurationParser) (wholeKey : String) : Except Exception Unit := do
  let _ ← getFieldAs Variant.getString data wholeKey
  return ()

/-- The members of the base class; the subclass adds its own. -/
def loadSlaveInfo (data : ConfigurationParser) (start : String) :
    Except Exception (TaskBody → TaskWrapper) := do
  let pdoreadOffset ← getFieldAsOr Variant.getUint16 data (start ++ "pdoread_offset") 0
  let pdowriteOffset ← getFieldAsOr Variant.getUint16 data (start ++ "pdowrite_offset") 0
  let connectionLostReadAction ←
    getFieldAsOr Variant.getUint8 data (start ++ "conf_connection_lost_read_action") 0
  let connectionLostWriteAction ←
    getFieldAsOr Variant.getUint8 data (start ++ "sdowrite_connection_lost_write_action") 0
  return fun body =>
    { pdowriteOffset, pdoreadOffset, connectionLostReadAction, connectionLostWriteAction, body }

theorem loadSlaveInfo_body (data : ConfigurationParser) (start : String) :
    Ensures (fun task => ∀ body, (task body).body = body) (loadSlaveInfo data start) :=
  .bind fun _ _ => .bind fun _ _ => .bind fun _ _ => .bind fun _ _ => .pure fun _ => rfl

/-- The receivers and the PMU send no block. -/
def initSdoReceiver (body : TaskBody) (data : ConfigurationParser) (start : String) (s : ArgStream) :
    Except Exception (TaskWrapper × ArgStream) := do
  let task ← loadSlaveInfo data start
  createTopic data (start ++ "pub_topic")
  return (task body, s)

def DbusRc.initSdo := initSdoReceiver .dbusRc

def SbusRc.initSdo := initSdoReceiver .sbusRc

def Vt13Rc.initSdo := initSdoReceiver .vt13Rc

def PmuCan.initSdo := initSdoReceiver .pmuCan

def HipnucImuCan.initSdo (data : ConfigurationParser) (start : String) (s : ArgStream) :
    Except Exception (TaskWrapper × ArgStream) := do
  let s ← appendFields data (start ++ "sdowrite_") ["can_inst", "packet1_id", "packet2_id", "packet3_id"] s
  let task ← loadSlaveInfo data start
  let confFrameName ← getFieldAsOr Variant.getString data (start ++ "conf_frame_name") "imu_link"
  createTopic data (start ++ "pub_topic")
  return (task (.hipnucImuCan confFrameName), s)

def Ms5837.initSdo (data : ConfigurationParser) (start : String) (s : ArgStream) :
    Except Exception (TaskWrapper × ArgStream) := do
  let s ← appendFields data (start ++ "sdowrite_") ["i2c_id", "osr_id"] s
  let task ← loadSlaveInfo data start
  createTopic data (start ++ "pub_topic")
  return (task .ms5837, s)

def Dshot.initSdo (data : ConfigurationParser) (start : String) (s : ArgStream) :
    Except Exception (TaskWrapper × ArgStream) := do
  let s ← appendFields data (start ++ "sdowrite_")
    ["connection_lost_write_action", "dshot_id", "init_value"] s
  let task ← loadSlaveInfo data start
  let initValue ← getFieldAs Variant.getUint16 data (start ++ "sdowrite_init_value")
  createTopic data (start ++ "sub_topic")
  return (task (.dshot initValue), s)

def OnboardPwm.initSdo (data : ConfigurationParser) (start : String) (s : ArgStream) :
    Except Exception (TaskWrapper × ArgStream) := do
  let s ← appendFields data (start ++ "sdowrite_")
    ["connection_lost_write_action", "port_id", "pwm_period", "init_value"] s
  let task ← loadSlaveInfo data start
  let initValue ← getFieldAs Variant.getUint16 data (start ++ "sdowrite_init_value")
  createTopic data (start ++ "sub_topic")
  return (task (.onboardPwm initValue), s)

def ExternalPwm.initSdo (data : ConfigurationParser) (start : String) (s : ArgStream) :
    Except Exception (TaskWrapper × ArgStream) := do
  let s ← appendFields data (start ++ "sdowrite_")
    ["connection_lost_write_action", "uart_id", "pwm_period", "channel_num", "init_value"] s
  let task ← loadSlaveInfo data start
  let initValue ← getFieldAs Variant.getUint16 data (start ++ "sdowrite_init_value")
  let channelNum ← getFieldAs Variant.getUint8 data (start ++ "sdowrite_channel_num")
  createTopic data (start ++ "sub_topic")
  return (task (.externalPwm initValue channelNum), s)

def DJIMOTOR_CTRL_TYPE_CURRENT : UInt8 := 0x01
def DJIMOTOR_CTRL_TYPE_SPEED : UInt8 := 0x02
def DJIMOTOR_CTRL_TYPE_SINGLE_ROUND_POSITION : UInt8 := 0x03

def motorArgKey (start : String) (i : Nat) : String :=
  start ++ "sdowrite_motor" ++ toString i ++ "_"

/-- One turn of the loop over the motors of `DJI_MOTOR::init_sdo`: is the motor enabled,
and the stream with its control block. -/
def DjiMotor.initMotor (data : ConfigurationParser) (start : String) (i : Nat) (s : ArgStream) :
    Except Exception (Bool × ArgStream) := do
  let motorArgPrefix := motorArgKey start i
  if (← getFieldAs Variant.getUint32 data (motorArgPrefix ++ "can_id")) > 0 then
    let controlType ← getFieldAs Variant.getUint8 data (motorArgPrefix ++ "control_type")
    if controlType = DJIMOTOR_CTRL_TYPE_CURRENT then
      return (true, ← appendFields data motorArgPrefix ["control_type"] s)
    else if controlType = DJIMOTOR_CTRL_TYPE_SPEED then
      return (true, ← appendFields data motorArgPrefix
        ["control_type", "speed_pid_kp", "speed_pid_ki", "speed_pid_kd", "speed_pid_max_out",
         "speed_pid_max_iout"] s)
    else if controlType = DJIMOTOR_CTRL_TYPE_SINGLE_ROUND_POSITION then
      return (true, ← appendFields data motorArgPrefix
        ["control_type", "speed_pid_kp", "speed_pid_ki", "speed_pid_kd", "speed_pid_max_out",
         "speed_pid_max_iout", "angle_pid_kp", "angle_pid_ki", "angle_pid_kd", "angle_pid_max_out",
         "angle_pid_max_iout"] s)
    else
      return (true, s)
  else
    return (false, s)

def DdMotor.initMotor (data : ConfigurationParser) (start : String) (i : Nat) (s : ArgStream) :
    Except Exception (Bool × ArgStream) := do
  let motorArgPrefix := motorArgKey start i
  if (← getFieldAs Variant.getUint32 data (motorArgPrefix ++ "can_id")) > 0 then
    return (true, ← appendFields data motorArgPrefix ["control_type"] s)
  else
    return (false, s)

/-- `for (int i = 1; i <= 4; i++)` over the motors. -/
def initMotors (initMotor : Nat → ArgStream → Except Exception (Bool × ArgStream)) (s : ArgStream) :
    Except Exception (MotorFlags × ArgStream) := do
  let (motor1, s) ← initMotor 1 s
  let (motor2, s) ← initMotor 2 s
  let (motor3, s) ← initMotor 3 s
  let (motor4, s) ← initMotor 4 s
  return ({ motor1, motor2, motor3, motor4 }, s)

def DjiMotor.initSdo (data : ConfigurationParser) (start : String) (s : ArgStream) :
    Except Exception (TaskWrapper × ArgStream) := do
  let s ← appendFields data (start ++ "sdowrite_")
    ["connection_lost_write_action", "control_period", "can_packet_id", "motor1_can_id", "motor2_can_id",
     "motor3_can_id", "motor4_can_id", "can_inst"] s
  let (isMotorEnabled, s) ← initMotors (DjiMotor.initMotor data start) s
  let task ← loadSlaveInfo data start
  createTopic data (start ++ "pub_topic")
  createTopic data (start ++ "sub_topic")
  return (task (.djiMotor isMotorEnabled), s)

def DdMotor.initSdo (data : ConfigurationParser) (start : String) (s : ArgStream) :
    Except Exception (TaskWrapper × ArgStream) := do
  let s ← appendFields data (start ++ "sdowrite_")
    ["can_baudrate", "connection_lost_write_action", "control_period", "can_packet_id", "motor1_can_id",
     "motor2_can_id", "motor3_can_id", "motor4_can_id", "can_inst"] s
  let (isMotorEnabled, s) ← initMotors (DdMotor.initMotor data start) s
  let task ← loadSlaveInfo data start
  createTopic data (start ++ "pub_topic")
  createTopic data (start ++ "sub_topic")
  return (task (.ddMotor isMotorEnabled), s)

def LkMotor.initSdo (data : ConfigurationParser) (start : String) (s : ArgStream) :
    Except Exception (TaskWrapper × ArgStream) := do
  let controlType ← getFieldAs Variant.getUint8 data (start ++ "sdowrite_control_type")
  let isBroadcastMode := controlType == 0x08
  let s ← appendFields data (start ++ "sdowrite_")
    (if isBroadcastMode then
      ["connection_lost_write_action", "control_period", "control_type", "can_inst"]
    else
      ["connection_lost_write_action", "control_period", "control_type", "can_packet_id", "can_inst"]) s
  let task ← loadSlaveInfo data start
  if 0x01 ≤ controlType ∧ controlType ≤ 0x08 then
    createTopic data (start ++ "sub_topic")
  createTopic data (start ++ "pub_topic")
  return (task (.lkMotor isBroadcastMode controlType), s)

/-- The rational value of a finite single-precision pattern. -/
def floatValue (pattern : UInt32) : Rat :=
  let exponent := (pattern >>> 23 &&& 0xFF).toNat
  let fraction := (pattern &&& 0x7FFFFF).toNat
  let mantissa := if exponent = 0 then 2 * fraction else 0x800000 + fraction
  let magnitude : Rat := (mantissa * 2 ^ exponent : Nat) / (2 ^ 150 : Nat)
  if pattern >>> 31 = 0 then magnitude else -magnitude

/-- `M_PI` as a float. -/
def M_PI : UInt32 := 0x40490FDB

def DmMotor.initSdo (data : ConfigurationParser) (start : String) (s : ArgStream) :
    Except Exception (TaskWrapper × ArgStream) := do
  let s ← appendFields data (start ++ "sdowrite_")
    ["connection_lost_write_action", "control_period", "can_id", "master_id", "can_inst", "control_type"] s
  let task ← loadSlaveInfo data start
  let controlType ← getFieldAs Variant.getUint8 data (start ++ "sdowrite_control_type")
  if 0x01 ≤ controlType ∧ controlType ≤ 0x03 then
    createTopic data (start ++ "sub_topic")
  let pmax ← getFieldAsOr Variant.getFloat data (start ++ "conf_pmax") M_PI
  let vmax ← getFieldAs Variant.getFloat data (start ++ "conf_vmax")
  let tmax ← getFieldAs Variant.getFloat data (start ++ "conf_tmax")
  createTopic data (start ++ "pub_topic")
  return (task (.dmMotor controlType (floatValue pmax) (floatValue vmax) (floatValue tmax)), s)

def SuperCap.initSdo (data : ConfigurationParser) (start : String) (s : ArgStream) :
    Except Exception (TaskWrapper × ArgStream) := do
  let s ← appendFields data (start ++ "sdowrite_")
    ["connection_lost_write_action", "can_inst", "chassis_to_cap_id", "cap_to_chassis_id"] s
  let task ← loadSlaveInfo data start
  createTopic data (start ++ "sub_topic")
  createTopic data (start ++ "pub_topic")
  return (task .superCap, s)

/-- The task object that the switch of `init_task_list` makes for a type; for an unknown
type the pointer stays null. -/
def makeTask (taskType : UInt8) :
    Option (ConfigurationParser → String → ArgStream → Except Exception (TaskWrapper × ArgStream)) :=
  if taskType = DJIRC_APP_ID then some DbusRc.initSdo
  else if taskType = LK_APP_ID then some LkMotor.initSdo
  else if taskType = HIPNUC_IMU_CAN_APP_ID then some HipnucImuCan.initSdo
  else if taskType = DSHOT_APP_ID then some Dshot.initSdo
  else if taskType = DJICAN_APP_ID then some DjiMotor.initSdo
  else if taskType = ONBOARD_PWM_APP_ID then some OnboardPwm.initSdo
  else if taskType = CAN_PMU_APP_ID then some PmuCan.initSdo
  else if taskType = SBUS_RC_APP_ID then some SbusRc.initSdo
  else if taskType = DM_MOTOR_APP_ID then some DmMotor.initSdo
  else if taskType = SUPER_CAP_APP_ID then some SuperCap.initSdo
  else if taskType = VT13_RC_APP_ID then some Vt13Rc.initSdo
  else if taskType = EXTERNAL_PWM_APP_ID then some ExternalPwm.initSdo
  else if taskType = MS5837_30BA_APP_ID then some Ms5837.initSdo
  else if taskType = DD_MOTOR_APP_ID then some DdMotor.initSdo
  else none

/-- The stream that a block returns is as long as `n`: a block overwrites, it never extends. -/
def KeepsLength {T : Type} (n : Nat) (block : Except Exception (T × ArgStream)) : Prop :=
  ∀ result, block = .ok result → result.2.buf.length = n

theorem chosen_or {T : Type} {condition : Prop} [Decidable condition] {here chosen : T} {rest : Option T}
    (made : (if condition then some here else rest) = some chosen) :
    condition ∧ here = chosen ∨ rest = some chosen := by
  split at made
  · exact Or.inl ⟨‹_›, Option.some.inj made⟩
  · exact Or.inr made

end EcatMaster.Tasks
