import EcatMaster.Tasks.Handlers

/-! Tasks: the members of `TaskWrapper` and of its subclasses, and their virtual
`init_value` and subscribed `on_command`. -/

set_option autoImplicit false

namespace EcatMaster.Tasks
open Io Library

variable {β : Type}

/-- The subclass and its own members. The control type of an LkTech or DM motor says
which subscription exists. -/
inductive TaskBody where
  | dbusRc
  | lkMotor (isBroadcastMode : Bool) (controlType : UInt8)
  | hipnucImuCan (confFrameName : String)
  | dshot (initValue : UInt16)
  | djiMotor (isMotorEnabled : MotorFlags)
  | onboardPwm (initValue : UInt16)
  | pmuCan
  | sbusRc
  | dmMotor (controlType : UInt8) (pmax vmax tmax : Rat)
  | superCap
  | vt13Rc
  | externalPwm (initValue : UInt16) (channelNum : UInt8)
  | ms5837
  | ddMotor (isMotorEnabled : MotorFlags)
  deriving DecidableEq

namespace TaskBody

def hasPublishers : TaskBody → Bool
  | .dshot _ | .onboardPwm _ | .externalPwm _ _ => false
  | _ => true

def hasSubscribers : TaskBody → Bool
  | .dbusRc | .hipnucImuCan _ | .pmuCan | .sbusRc | .vt13Rc | .ms5837 => false
  | _ => true

/-- The base class `init_value` of a task without commands only logs. -/
def initValue : TaskBody → Cursor β → Cursor β
  | .lkMotor isBroadcastMode _ => LkMotor.initValue isBroadcastMode
  | .dshot initValue => Dshot.initValue initValue
  | .djiMotor _ => DjiMotor.initValue
  | .onboardPwm initValue => OnboardPwm.initValue initValue
  | .dmMotor _ _ _ _ => DmMotor.initValue
  | .superCap => SuperCap.initValue
  | .externalPwm initValue channelNum => ExternalPwm.initValue channelNum initValue
  | .ddMotor _ => DdMotor.initValue
  | _ => id

/-- The callback that the task has subscribed for this message type, if any. -/
def onCommand : TaskBody → CommandMessage → Option (Cursor β → Cursor β)
  | .djiMotor flags, .writeDJIMotor motor1 motor2 motor3 motor4 =>
      some (DjiMotor.onCommand flags motor1 motor2 motor3 motor4)
  | .ddMotor flags, .writeDDMotor motor1 motor2 motor3 motor4 =>
      some (DdMotor.onCommand flags motor1 motor2 motor3 motor4)
  | .onboardPwm _, .writeOnBoardPWM channel1 channel2 channel3 channel4 =>
      some (OnboardPwm.onCommand channel1 channel2 channel3 channel4)
  | .dshot _, .writeDSHOT channel1 channel2 channel3 channel4 =>
      some (Dshot.onCommand channel1 channel2 channel3 channel4)
  | .externalPwm _ channelNum, .writeExternalPWM channels beyond =>
      some (ExternalPwm.onCommand channelNum channels beyond)
  -- The configured control type decides which one of the topics is subscribed.
  | .lkMotor _ 0x01, .writeLkMotorOpenloopControl enable torque =>
      some (LkMotor.onCommandOpenloopControl enable torque)
  | .lkMotor _ 0x02, .writeLkMotorTorqueControl enable torque =>
      some (LkMotor.onCommandTorqueControl enable torque)
  | .lkMotor _ 0x03, .writeLkMotorSpeedControlWithTorqueLimit enable torqueLimit speed =>
      some (LkMotor.onCommandSpeedWithTorqueLimitControl enable torqueLimit speed)
  | .lkMotor _ 0x04, .writeLkMotorMultiRoundPositionControl enable angle =>
      some (LkMotor.onCommandMultiRoundPosControl enable angle)
  | .lkMotor _ 0x05, .writeLkMotorMultiRoundPositionControlWithSpeedLimit enable speedLimit angle =>
      some (LkMotor.onCommandMultiRoundPosWithSpeedLimitControl enable speedLimit angle)
  | .lkMotor _ 0x06, .writeLkMotorSingleRoundPositionControl enable direction angle =>
      some (LkMotor.onCommandSingleRoundPosControl enable direction angle)
  | .lkMotor _ 0x07, .writeLkMotorSingleRoundPositionControlWithSpeedLimit enable direction speedLimit angle =>
      some (LkMotor.onCommandSingleRoundPosWithSpeedLimitControl enable direction speedLimit angle)
  | .lkMotor _ 0x08, .writeLkMotorBroadcastCurrentControl motor1Cmd motor2Cmd motor3Cmd motor4Cmd =>
      some (LkMotor.onCommandBroadcastCurrentControl motor1Cmd motor2Cmd motor3Cmd motor4Cmd)
  | .dmMotor 0x01 pmax vmax tmax, .writeDmMotorMITControl enable pDes vDes kp kd torque =>
      some (DmMotor.onCommandMitControl pmax vmax tmax enable pDes vDes kp kd torque)
  | .dmMotor 0x02 _ _ _, .writeDmMotorPositionControlWithSpeedLimit enable position speed =>
      some (DmMotor.onCommandPosWithSpeedLimitControl enable position speed)
  | .dmMotor 0x03 _ _ _, .writeDmMotorSpeedControl enable speed =>
      some (DmMotor.onCommandSpeedControl enable speed)
  | .superCap, .writeSuperCap capEnable doCharge maxChargePower allowChargePower =>
      some (SuperCap.onCommand capEnable doCharge maxChargePower allowChargePower)
  | _, _ => none

def initBytes : TaskBody → List UInt8
  | .lkMotor isBroadcastMode _ => if isBroadcastMode then List.replicate 8 0 else [0]
  | .dshot initValue => (List.replicate 4 (uint16Bytes initValue)).flatten
  | .djiMotor _ => List.replicate 12 0
  | .onboardPwm initValue => (List.replicate 4 (uint16Bytes initValue)).flatten
  | .dmMotor _ _ _ _ => [0]
  | .superCap => [0, 0, 0, 0]
  | .externalPwm initValue channelNum => (List.replicate channelNum.toNat (uint16Bytes initValue)).flatten
  | .ddMotor _ => List.replicate 12 0
  | _ => []

theorem initValue_writes (body : TaskBody) : Writes (β := β) body.initValue body.initBytes := by
  cases body with
  | lkMotor isBroadcastMode controlType =>
    cases isBroadcastMode with
    | true =>
      have zero := writeInt16_writes (β := β) 0
      exact ((zero.andThen zero).andThen zero).andThen zero
    | false => exact writeUint8_writes 0
  | dshot initValue => exact (writeUint16_writes initValue).repeat 4
  | onboardPwm initValue => exact (writeUint16_writes initValue).repeat 4
  | externalPwm initValue channelNum => exact (writeUint16_writes initValue).repeat channelNum.toNat
  | djiMotor flags => exact clearMotorCommands_writes
  | ddMotor flags => exact clearMotorCommands_writes
  | dmMotor controlType pmax vmax tmax => exact writeUint8_writes 0
  | superCap =>
    have zero := writeUint8_writes (β := β) 0
    exact ((zero.andThen zero).andThen zero).andThen zero
  | dbusRc => exact Writes.nil
  | hipnucImuCan confFrameName => exact Writes.nil
  | pmuCan => exact Writes.nil
  | sbusRc => exact Writes.nil
  | vt13Rc => exact Writes.nil
  | ms5837 => exact Writes.nil

/-- The encoding of a message of the type the task has subscribed. -/
def commandBytes : TaskBody → CommandMessage → List UInt8
  | .djiMotor flags, .writeDJIMotor motor1 motor2 motor3 motor4 =>
      motorsBytes flags motor1 motor2 motor3 motor4
  | .ddMotor flags, .writeDDMotor motor1 motor2 motor3 motor4 =>
      motorsBytes flags motor1 motor2 motor3 motor4
  | _, .writeOnBoardPWM channel1 channel2 channel3 channel4
  | _, .writeDSHOT channel1 channel2 channel3 channel4 =>
      uint16Bytes channel1 ++ uint16Bytes channel2 ++ uint16Bytes channel3 ++ uint16Bytes channel4
  | .externalPwm _ channelNum, .writeExternalPWM channels beyond =>
      (List.range channelNum.toNat).flatMap fun i => uint16Bytes (channelAt channels beyond i)
  | _, .writeLkMotorOpenloopControl enable torque
  | _, .writeLkMotorTorqueControl enable torque => enable :: uint16Bytes torque.toUInt16
  | _, .writeLkMotorSpeedControlWithTorqueLimit enable torqueLimit speed =>
      enable :: uint16Bytes torqueLimit.toUInt16 ++ uint32Bytes speed.toUInt32
  | _, .writeLkMotorMultiRoundPositionControl enable angle => enable :: uint32Bytes angle.toUInt32
  | _, .writeLkMotorMultiRoundPositionControlWithSpeedLimit enable speedLimit angle =>
      enable :: uint16Bytes speedLimit ++ uint32Bytes angle.toUInt32
  | _, .writeLkMotorSingleRoundPositionControl enable direction angle =>
      enable :: direction :: uint32Bytes angle
  | _, .writeLkMotorSingleRoundPositionControlWithSpeedLimit enable direction speedLimit angle =>
      enable :: direction :: uint16Bytes speedLimit ++ uint32Bytes angle
  | _, .writeLkMotorBroadcastCurrentControl motor1Cmd motor2Cmd motor3Cmd motor4Cmd =>
      uint16Bytes motor1Cmd.toUInt16 ++ uint16Bytes motor2Cmd.toUInt16 ++
        uint16Bytes motor3Cmd.toUInt16 ++ uint16Bytes motor4Cmd.toUInt16
  | .dmMotor _ pmax vmax tmax, .writeDmMotorMITControl enable pDes vDes kp kd torque =>
      enable :: DmMotor.mitControlData pmax vmax tmax pDes vDes kp kd torque
  | _, .writeDmMotorPositionControlWithSpeedLimit enable position speed =>
      enable :: uint32Bytes position ++ uint32Bytes speed
  | _, .writeDmMotorSpeedControl enable speed => enable :: uint32Bytes speed
  | _, .writeSuperCap capEnable doCharge maxChargePower allowChargePower =>
      [capEnable, doCharge, maxChargePower, allowChargePower]
  | _, _ => []

theorem onCommand_writes (body : TaskBody) (msg : CommandMessage) {handler : Cursor β → Cursor β}
    (subscribed : body.onCommand msg = some handler) : Writes handler (body.commandBytes msg) := by
  unfold onCommand at subscribed
  split at subscribed <;> cases subscribed
  case h_1 | h_2 => exact writeMotorCommands_writes _ _ _ _ _
  case h_3 | h_4 => exact writeChannels_writes _ _ _ _
  case h_5 => exact writeAll_writes (fun i => writeUint16_writes _) _
  case h_6 | h_7 => exact (writeUint8_writes _).andThen (writeInt16_writes _)
  case h_8 => exact ((writeUint8_writes _).andThen (writeInt16_writes _)).andThen (writeInt32_writes _)
  case h_9 => exact (writeUint8_writes _).andThen (writeInt32_writes _)
  case h_10 => exact ((writeUint8_writes _).andThen (writeUint16_writes _)).andThen (writeInt32_writes _)
  case h_11 => exact ((writeUint8_writes _).andThen (writeUint8_writes _)).andThen (writeUint32_writes _)
  case h_12 =>
    exact (((writeUint8_writes _).andThen (writeUint8_writes _)).andThen (writeUint16_writes _)).andThen
      (writeUint32_writes _)
  case h_13 =>
    exact (((writeInt16_writes _).andThen (writeInt16_writes _)).andThen (writeInt16_writes _)).andThen
      (writeInt16_writes _)
  case h_14 => exact (writeUint8_writes _).andThen fun c => rfl
  case h_15 => exact ((writeUint8_writes _).andThen (writeFloat_writes _)).andThen (writeFloat_writes _)
  case h_16 => exact (writeUint8_writes _).andThen (writeFloat_writes _)
  case h_17 =>
    exact (((writeUint8_writes _).andThen (writeUint8_writes _)).andThen (writeUint8_writes _)).andThen
      (writeUint8_writes _)

end TaskBody

structure TaskWrapper where
  pdowriteOffset : UInt16
  pdoreadOffset : UInt16
  connectionLostReadAction : UInt8
  connectionLostWriteAction : UInt8
  body : TaskBody
  deriving DecidableEq

/-- Run a handler of the task on a buffer, from `pdowrite_offset` on. -/
def TaskWrapper.store (task : TaskWrapper) (cell : UInt8 → β) (handler : Cursor β → Cursor β)
    (buf : List β) : List β :=
  (handler { cell, buf, offset := task.pdowriteOffset.toNat }).buf

theorem TaskWrapper.store_eq (task : TaskWrapper) (cell : UInt8 → β) {handler : Cursor β → Cursor β}
    {bytes : List UInt8} (written : Writes handler bytes) (buf : List β) :
    task.store cell handler buf = overwrite buf task.pdowriteOffset.toNat (bytes.map cell) := by
  rw [store, written]
  rfl

end EcatMaster.Tasks
