import EcatMaster.Io.Readers
import EcatMaster.Tasks.Task

/-! The commands of the tasks, field by field.

A command message has fields of several widths, some of them signed. Here each
handler is read as the list of fields that it stores, and each field with the
function of the slave side that reads it back.
-/

set_option autoImplicit false

namespace EcatMaster.Tasks
open Io Library

variable {β : Type}

inductive Field where
  | uint8 (value : UInt8)
  | uint16 (value : UInt16)
  | int16 (value : Int16)
  | uint32 (value : UInt32)
  | int32 (value : Int32)
  | float (pattern : UInt32)
  /-- Bytes that pack several values, so no reader returns one of them. -/
  | packed (bytes : List UInt8)
  deriving DecidableEq

namespace Field

/-- The little-endian encoding. -/
def bytes : Field → List UInt8
  | .uint8 value => [value]
  | .uint16 value => uint16Bytes value
  | .int16 value => uint16Bytes value.toUInt16
  | .uint32 value => uint32Bytes value
  | .int32 value => uint32Bytes value.toUInt32
  | .float pattern => uint32Bytes pattern
  | .packed bytes => bytes

/-- The reader of this type returns the field and moves past it. -/
def ReadBack (buf : List UInt8) (off : Nat) : Field → Prop
  | .uint8 value => readUint8 buf off = (value, off + 1)
  | .uint16 value => readUint16 buf off = (value, off + 2)
  | .int16 value => readInt16 buf off = (value, off + 2)
  | .uint32 value => readUint32 buf off = (value, off + 4)
  | .int32 value => readInt32 buf off = (value, off + 4)
  | .float pattern => readFloat buf off = (pattern, off + 4)
  | .packed _ => True

theorem readBack {buf : List UInt8} {off : Nat} (field : Field)
    (holds : window buf off field.bytes.length = field.bytes) : field.ReadBack buf off := by
  cases field with
  | uint8 value => exact readUint8_reads value buf off holds
  | uint16 value => exact readUint16_reads value buf off holds
  | int16 value => exact readInt16_reads value buf off holds
  | uint32 value => exact readUint32_reads value buf off holds
  | int32 value => exact readInt32_reads value buf off holds
  | float pattern => exact readFloat_reads pattern buf off holds
  | packed bytes => trivial

end Field

def fieldBytes (fields : List Field) : List UInt8 := fields.flatMap Field.bytes

/-- From this offset on the buffer holds the fields one after the other, and each is read back. -/
def FieldsAt (buf : List UInt8) : Nat → List Field → Prop
  | _, [] => True
  | off, field :: fields =>
    window buf off field.bytes.length = field.bytes ∧ field.ReadBack buf off ∧
      FieldsAt buf (off + field.bytes.length) fields

theorem fieldsAt_of_window {buf : List UInt8} {off : Nat} {fields : List Field}
    (holds : window buf off (fieldBytes fields).length = fieldBytes fields) : FieldsAt buf off fields := by
  induction fields generalizing off with
  | nil => trivial
  | cons field fields ih =>
    change window buf off (field.bytes ++ fieldBytes fields).length = field.bytes ++ fieldBytes fields at holds
    have here := window_append_left holds
    exact ⟨here, field.readBack here, ih (window_append_right holds)⟩

-- Of the four motors only the enabled ones have fields.
def motorFields (enabled : Bool) (motor : MotorCommand) : List Field :=
  if enabled then [.uint8 motor.enable, .int16 motor.cmd] else []

def motorsFields (isMotorEnabled : MotorFlags) (motor1 motor2 motor3 motor4 : MotorCommand) : List Field :=
  motorFields isMotorEnabled.motor1 motor1 ++ motorFields isMotorEnabled.motor2 motor2 ++
    motorFields isMotorEnabled.motor3 motor3 ++ motorFields isMotorEnabled.motor4 motor4

def MotorFlags.count (flags : MotorFlags) : Nat :=
  flags.motor1.toNat + flags.motor2.toNat + flags.motor3.toNat + flags.motor4.toNat

namespace TaskBody

/-- The fields of the message in the order of their declaration, of the enabled motors and
of the channels in use. -/
def commandFields : TaskBody → CommandMessage → List Field
  | .djiMotor flags, .writeDJIMotor motor1 motor2 motor3 motor4 =>
      motorsFields flags motor1 motor2 motor3 motor4
  | .ddMotor flags, .writeDDMotor motor1 motor2 motor3 motor4 =>
      motorsFields flags motor1 motor2 motor3 motor4
  | .onboardPwm _, .writeOnBoardPWM channel1 channel2 channel3 channel4
  | .dshot _, .writeDSHOT channel1 channel2 channel3 channel4 =>
      [.uint16 channel1, .uint16 channel2, .uint16 channel3, .uint16 channel4]
  | .externalPwm _ channelNum, .writeExternalPWM channels _ => (channels.take channelNum.toNat).map .uint16
  | .lkMotor _ _, .writeLkMotorOpenloopControl enable torque
  | .lkMotor _ _, .writeLkMotorTorqueControl enable torque => [.uint8 enable, .int16 torque]
  | .lkMotor _ _, .writeLkMotorSpeedControlWithTorqueLimit enable torqueLimit speed =>
      [.uint8 enable, .int16 torqueLimit, .int32 speed]
  | .lkMotor _ _, .writeLkMotorMultiRoundPositionControl enable angle => [.uint8 enable, .int32 angle]
  | .lkMotor _ _, .writeLkMotorMultiRoundPositionControlWithSpeedLimit enable speedLimit angle =>
      [.uint8 enable, .uint16 speedLimit, .int32 angle]
  | .lkMotor _ _, .writeLkMotorSingleRoundPositionControl enable direction angle =>
      [.uint8 enable, .uint8 direction, .uint32 angle]
  | .lkMotor _ _, .writeLkMotorSingleRoundPositionControlWithSpeedLimit enable direction speedLimit angle =>
      [.uint8 enable, .uint8 direction, .uint16 speedLimit, .uint32 angle]
  | .lkMotor _ _, .writeLkMotorBroadcastCurrentControl motor1Cmd motor2Cmd motor3Cmd motor4Cmd =>
      [.int16 motor1Cmd, .int16 motor2Cmd, .int16 motor3Cmd, .int16 motor4Cmd]
  | .dmMotor _ pmax vmax tmax, .writeDmMotorMITControl enable pDes vDes kp kd torque =>
      [.uint8 enable, .packed (DmMotor.mitControlData pmax vmax tmax pDes vDes kp kd torque)]
  | .dmMotor _ _ _ _, .writeDmMotorPositionControlWithSpeedLimit enable position speed =>
      [.uint8 enable, .float position, .float speed]
  | .dmMotor _ _ _ _, .writeDmMotorSpeedControl enable speed => [.uint8 enable, .float speed]
  | .superCap, .writeSuperCap capEnable doCharge maxChargePower allowChargePower =>
      [.uint8 capEnable, .uint8 doCharge, .uint8 maxChargePower, .uint8 allowChargePower]
  | _, _ => []

/-- A message for an external PWM board carries a value for each channel of the board. -/
def EnoughChannels : TaskBody → CommandMessage → Prop
  | .externalPwm _ channelNum, .writeExternalPWM channels _ => channelNum.toNat ≤ channels.length
  | _, _ => True

def lkCommandLength (controlType : UInt8) : Nat :=
  if controlType = 0x01 ∨ controlType = 0x02 then 3
  else if controlType = 0x03 ∨ controlType = 0x05 then 7
  else if controlType = 0x04 then 5
  else if controlType = 0x06 then 6
  else if controlType = 0x07 ∨ controlType = 0x08 then 8
  else 0

def dmCommandLength (controlType : UInt8) : Nat :=
  if controlType = 0x01 ∨ controlType = 0x02 then 9 else if controlType = 0x03 then 5 else 0

/-- How many bytes the subscribed handler stores, whatever the message says. -/
def commandLength : TaskBody → Nat
  | .djiMotor flags | .ddMotor flags => 3 * flags.count
  | .dshot _ | .onboardPwm _ => 8
  | .externalPwm _ channelNum => 2 * channelNum.toNat
  | .lkMotor _ controlType => lkCommandLength controlType
  | .dmMotor controlType _ _ _ => dmCommandLength controlType
  | .superCap => 4
  | _ => 0

theorem fieldBytes_motorFields (enabled : Bool) (motor : MotorCommand) :
    fieldBytes (motorFields enabled motor) = motorBytes enabled motor := by
  cases enabled <;> rfl

theorem fieldBytes_append (first rest : List Field) :
    fieldBytes (first ++ rest) = fieldBytes first ++ fieldBytes rest := List.flatMap_append

theorem fieldBytes_motorsFields (flags : MotorFlags) (motor1 motor2 motor3 motor4 : MotorCommand) :
    fieldBytes (motorsFields flags motor1 motor2 motor3 motor4) = motorsBytes flags motor1 motor2 motor3 motor4 := by
  simp only [motorsFields, motorsBytes, fieldBytes_append, fieldBytes_motorFields]

-- Only channels that the array has are looked at, so nothing beyond it is stored.
theorem channelBytes_eq {channels : List UInt16} (beyond : List UInt16) {n : Nat} (enough : n ≤ channels.length) :
    ((List.range n).flatMap fun i => uint16Bytes (channelAt channels beyond i)) =
      fieldBytes ((channels.take n).map .uint16) := by
  have taken : (List.range n).map (channelAt channels beyond) = channels.take n := by
    apply List.ext_getElem
    · simp [enough]
    · intro i low high
      have bound : i < n := by simpa using low
      simp [channelAt, show i < channels.length by omega]
  rw [← taken, fieldBytes, List.flatMap_map, List.flatMap_map]
  rfl

theorem commandBytes_eq {body : TaskBody} {msg : CommandMessage} {handler : Cursor β → Cursor β}
    (subscribed : body.onCommand msg = some handler) (enough : body.EnoughChannels msg) :
    body.commandBytes msg = fieldBytes (body.commandFields msg) := by
  unfold onCommand at subscribed
  split at subscribed <;> cases subscribed
  case h_1 | h_2 => exact (fieldBytes_motorsFields _ _ _ _ _).symm
  case h_5 => exact channelBytes_eq _ enough
  all_goals rfl

theorem length_motorsBytes (flags : MotorFlags) (motor1 motor2 motor3 motor4 : MotorCommand) :
    (motorsBytes flags motor1 motor2 motor3 motor4).length = 3 * flags.count := by
  have each : ∀ (enabled : Bool) (motor : MotorCommand), (motorBytes enabled motor).length = 3 * enabled.toNat := by
    intro enabled motor
    cases enabled <;> rfl
  simp only [motorsBytes, List.length_append, each, MotorFlags.count]
  omega

theorem length_commandBytes {body : TaskBody} {msg : CommandMessage} {handler : Cursor β → Cursor β}
    (subscribed : body.onCommand msg = some handler) : (body.commandBytes msg).length = body.commandLength := by
  unfold onCommand at subscribed
  split at subscribed <;> cases subscribed
  case h_1 | h_2 => exact length_motorsBytes _ _ _ _ _
  case h_5 flags channelNum channels beyond =>
    change ((List.range channelNum.toNat).flatMap fun i => uint16Bytes (channelAt channels beyond i)).length =
      2 * channelNum.toNat
    rw [List.length_flatMap]
    simp [uint16Bytes, Nat.mul_comm]
  all_goals rfl

end TaskBody

end EcatMaster.Tasks
