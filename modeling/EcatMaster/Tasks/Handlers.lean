import EcatMaster.Io.LittleEndian
import EcatMaster.Tasks.Message

/-! The `on_command` and `init_value` members of the task classes, as writers of
`master_to_slave_buf` that start at `pdowrite_offset`. -/

set_option autoImplicit false

namespace EcatMaster.Tasks
open Io

variable {β : Type}

/-- `bool is_motor_enabled[4]`. -/
structure MotorFlags where
  motor1 : Bool
  motor2 : Bool
  motor3 : Bool
  motor4 : Bool
  deriving DecidableEq, Repr

-- A disabled motor stores nothing, so the bytes of the motors after it move up.
def writeMotorCommand (enabled : Bool) (motor : MotorCommand) (c : Cursor β) : Cursor β :=
  if enabled then c |> writeUint8 motor.enable |> writeInt16 motor.cmd else c

def writeMotorCommands (isMotorEnabled : MotorFlags) (motor1 motor2 motor3 motor4 : MotorCommand)
    (c : Cursor β) : Cursor β :=
  c |> writeMotorCommand isMotorEnabled.motor1 motor1
    |> writeMotorCommand isMotorEnabled.motor2 motor2
    |> writeMotorCommand isMotorEnabled.motor3 motor3
    |> writeMotorCommand isMotorEnabled.motor4 motor4

-- All four motors are cleared, also the disabled ones.
def clearMotorCommands (c : Cursor β) : Cursor β :=
  c |> writeUint8 0 |> writeInt16 0
    |> writeUint8 0 |> writeInt16 0
    |> writeUint8 0 |> writeInt16 0
    |> writeUint8 0 |> writeInt16 0

def DjiMotor.onCommand : MotorFlags → (motor1 motor2 motor3 motor4 : MotorCommand) → Cursor β → Cursor β :=
  writeMotorCommands

def DjiMotor.initValue : Cursor β → Cursor β := clearMotorCommands

def DdMotor.onCommand : MotorFlags → (motor1 motor2 motor3 motor4 : MotorCommand) → Cursor β → Cursor β :=
  writeMotorCommands

def DdMotor.initValue : Cursor β → Cursor β := clearMotorCommands

def writeChannels (channel1 channel2 channel3 channel4 : UInt16) (c : Cursor β) : Cursor β :=
  c |> writeUint16 channel1 |> writeUint16 channel2 |> writeUint16 channel3 |> writeUint16 channel4

def OnboardPwm.onCommand : (channel1 channel2 channel3 channel4 : UInt16) → Cursor β → Cursor β :=
  writeChannels

def OnboardPwm.initValue (initValue : UInt16) (c : Cursor β) : Cursor β :=
  Nat.repeat (writeUint16 initValue) 4 c

def Dshot.onCommand : (channel1 channel2 channel3 channel4 : UInt16) → Cursor β → Cursor β :=
  writeChannels

def Dshot.initValue (initValue : UInt16) (c : Cursor β) : Cursor β :=
  Nat.repeat (writeUint16 initValue) 4 c

/-- `msg->channels[i]`, also for an index the array does not have. -/
def channelAt (channels beyond : List UInt16) (i : Nat) : UInt16 :=
  channels[i]?.getD ((beyond[i - channels.length]?).getD 0)

def ExternalPwm.onCommand (channelNum : UInt8) (channels beyond : List UInt16) (c : Cursor β) : Cursor β :=
  (List.range channelNum.toNat).foldl (fun c i => writeUint16 (channelAt channels beyond i) c) c

def ExternalPwm.initValue (channelNum : UInt8) (initValue : UInt16) (c : Cursor β) : Cursor β :=
  Nat.repeat (writeUint16 initValue) channelNum.toNat c

namespace LkMotor

def onCommandOpenloopControl (enable : UInt8) (torque : Int16) (c : Cursor β) : Cursor β :=
  c |> writeUint8 enable |> writeInt16 torque

def onCommandTorqueControl (enable : UInt8) (torque : Int16) (c : Cursor β) : Cursor β :=
  c |> writeUint8 enable |> writeInt16 torque

def onCommandSpeedWithTorqueLimitControl (enable : UInt8) (torqueLimit : Int16) (speed : Int32)
    (c : Cursor β) : Cursor β :=
  c |> writeUint8 enable |> writeInt16 torqueLimit |> writeInt32 speed

def onCommandMultiRoundPosControl (enable : UInt8) (angle : Int32) (c : Cursor β) : Cursor β :=
  c |> writeUint8 enable |> writeInt32 angle

def onCommandMultiRoundPosWithSpeedLimitControl (enable : UInt8) (speedLimit : UInt16) (angle : Int32)
    (c : Cursor β) : Cursor β :=
  c |> writeUint8 enable |> writeUint16 speedLimit |> writeInt32 angle

def onCommandSingleRoundPosControl (enable direction : UInt8) (angle : UInt32) (c : Cursor β) : Cursor β :=
  c |> writeUint8 enable |> writeUint8 direction |> writeUint32 angle

def onCommandSingleRoundPosWithSpeedLimitControl (enable direction : UInt8) (speedLimit : UInt16)
    (angle : UInt32) (c : Cursor β) : Cursor β :=
  c |> writeUint8 enable |> writeUint8 direction |> writeUint16 speedLimit |> writeUint32 angle

def onCommandBroadcastCurrentControl (motor1Cmd motor2Cmd motor3Cmd motor4Cmd : Int16) (c : Cursor β) :
    Cursor β :=
  c |> writeInt16 motor1Cmd |> writeInt16 motor2Cmd |> writeInt16 motor3Cmd |> writeInt16 motor4Cmd

/-- Outside broadcast mode only the enable byte is reset. -/
def initValue (isBroadcastMode : Bool) (c : Cursor β) : Cursor β :=
  if isBroadcastMode then
    c |> writeInt16 0 |> writeInt16 0 |> writeInt16 0 |> writeInt16 0
  else
    c |> writeUint8 0

end LkMotor

namespace DmMotor

/-- `static_cast<int>` of a float: truncation towards zero. -/
def truncate (value : Rat) : Int := value.num.tdiv value.den

/-- The float arithmetic is read as exact rational arithmetic. -/
def floatToUint (xFloat xMin xMax : Rat) (bits : Nat) : Int :=
  let span := xMax - xMin
  let offset := xMin
  truncate ((xFloat - offset) * ((1 <<< bits) - 1 : Int) / span)

/-- The eight CAN bytes of the MIT mode. -/
def mitControlData (pmax vmax tmax pDes vDes kp kd torque : Rat) : List UInt8 :=
  let pos := UInt16.ofInt (floatToUint pDes (-pmax) pmax 16)
  let vel := UInt16.ofInt (floatToUint vDes (-vmax) vmax 12)
  let tor := UInt16.ofInt (floatToUint torque (-tmax) tmax 12)
  let kp := UInt16.ofInt (floatToUint kp 0 500 12)
  let kd := UInt16.ofInt (floatToUint kd 0 5 12)
  [(pos >>> 8).toUInt8,
   pos.toUInt8,
   (vel >>> 4).toUInt8,
   ((vel &&& 0xF) <<< 4 ||| kp >>> 8).toUInt8,
   kp.toUInt8,
   (kd >>> 4).toUInt8,
   ((kd &&& 0xF) <<< 4 ||| tor >>> 8).toUInt8,
   tor.toUInt8]

-- The bytes reach the buffer by `memcpy`.
def onCommandMitControl (pmax vmax tmax : Rat) (enable : UInt8) (pDes vDes kp kd torque : Rat)
    (c : Cursor β) : Cursor β :=
  c |> writeUint8 enable |> Cursor.putAll (mitControlData pmax vmax tmax pDes vDes kp kd torque)

def onCommandPosWithSpeedLimitControl (enable : UInt8) (position speed : UInt32) (c : Cursor β) : Cursor β :=
  c |> writeUint8 enable |> writeFloat position |> writeFloat speed

def onCommandSpeedControl (enable : UInt8) (speed : UInt32) (c : Cursor β) : Cursor β :=
  c |> writeUint8 enable |> writeFloat speed

/-- Only the enable byte is reset. -/
def initValue (c : Cursor β) : Cursor β := c |> writeUint8 0

end DmMotor

def SuperCap.onCommand (capEnable doCharge maxChargePower allowChargePower : UInt8) (c : Cursor β) :
    Cursor β :=
  c |> writeUint8 capEnable |> writeUint8 doCharge |> writeUint8 maxChargePower
    |> writeUint8 allowChargePower

def SuperCap.initValue (c : Cursor β) : Cursor β :=
  c |> writeUint8 0 |> writeUint8 0 |> writeUint8 0 |> writeUint8 0

def motorBytes (enabled : Bool) (motor : MotorCommand) : List UInt8 :=
  if enabled then motor.enable :: uint16Bytes motor.cmd.toUInt16 else []

theorem writeMotorCommand_writes (enabled : Bool) (motor : MotorCommand) :
    Writes (β := β) (writeMotorCommand enabled motor) (motorBytes enabled motor) :=
  ((writeUint8_writes motor.enable).andThen (writeInt16_writes motor.cmd)).ite enabled

def motorsBytes (isMotorEnabled : MotorFlags) (motor1 motor2 motor3 motor4 : MotorCommand) : List UInt8 :=
  motorBytes isMotorEnabled.motor1 motor1 ++ motorBytes isMotorEnabled.motor2 motor2 ++
    motorBytes isMotorEnabled.motor3 motor3 ++ motorBytes isMotorEnabled.motor4 motor4

theorem writeMotorCommands_writes (flags : MotorFlags) (motor1 motor2 motor3 motor4 : MotorCommand) :
    Writes (β := β) (writeMotorCommands flags motor1 motor2 motor3 motor4)
      (motorsBytes flags motor1 motor2 motor3 motor4) :=
  (((writeMotorCommand_writes flags.motor1 motor1).andThen
    (writeMotorCommand_writes flags.motor2 motor2)).andThen
    (writeMotorCommand_writes flags.motor3 motor3)).andThen (writeMotorCommand_writes flags.motor4 motor4)

theorem clearMotorCommands_writes : Writes (β := β) clearMotorCommands (List.replicate 12 0) := by
  have zeros : [0] ++ uint16Bytes 0 = List.replicate 3 0 := by decide
  have motor : Writes (β := β) (fun c => writeInt16 0 (writeUint8 0 c)) (List.replicate 3 0) :=
    zeros ▸ (writeUint8_writes 0).andThen (writeInt16_writes 0)
  have motors := ((motor.andThen motor).andThen motor).andThen motor
  simp only [List.replicate_append_replicate] at motors
  exact motors

theorem writeChannels_writes (channel1 channel2 channel3 channel4 : UInt16) :
    Writes (β := β) (writeChannels channel1 channel2 channel3 channel4)
      (uint16Bytes channel1 ++ uint16Bytes channel2 ++ uint16Bytes channel3 ++ uint16Bytes channel4) :=
  (((writeUint16_writes channel1).andThen (writeUint16_writes channel2)).andThen
    (writeUint16_writes channel3)).andThen (writeUint16_writes channel4)

theorem writeAll_writes {ι : Type} {writer : ι → Cursor β → Cursor β} {bytes : ι → List UInt8}
    (written : ∀ i, Writes (writer i) (bytes i)) (items : List ι) :
    Writes (fun c => items.foldl (fun c i => writer i c) c) (items.flatMap bytes) := by
  induction items with
  | nil => exact Writes.nil
  | cons i items ih => exact (written i).andThen ih

end EcatMaster.Tasks
