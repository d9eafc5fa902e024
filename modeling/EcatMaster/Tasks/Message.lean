import Mathlib.Algebra.Order.Ring.Rat

/-! The command messages of `custom_msgs/msg/Write*.msg`. -/

set_option autoImplicit false

namespace EcatMaster.Tasks

structure MotorCommand where
  enable : UInt8
  cmd : Int16
  deriving DecidableEq, Repr

/-- Floats that are forwarded are 32-bit patterns, floats that are computed with are rationals. -/
inductive CommandMessage where
  | writeDJIMotor (motor1 motor2 motor3 motor4 : MotorCommand)
  | writeDDMotor (motor1 motor2 motor3 motor4 : MotorCommand)
  | writeOnBoardPWM (channel1 channel2 channel3 channel4 : UInt16)
  | writeDSHOT (channel1 channel2 channel3 channel4 : UInt16)
  /-- `beyond` is what lies in memory past the end of the array when the callback runs. -/
  | writeExternalPWM (channels beyond : List UInt16)
  | writeLkMotorOpenloopControl (enable : UInt8) (torque : Int16)
  | writeLkMotorTorqueControl (enable : UInt8) (torque : Int16)
  | writeLkMotorSpeedControlWithTorqueLimit (enable : UInt8) (torqueLimit : Int16) (speed : Int32)
  | writeLkMotorMultiRoundPositionControl (enable : UInt8) (angle : Int32)
  | writeLkMotorMultiRoundPositionControlWithSpeedLimit (enable : UInt8) (speedLimit : UInt16)
      (angle : Int32)
  | writeLkMotorSingleRoundPositionControl (enable direction : UInt8) (angle : UInt32)
  | writeLkMotorSingleRoundPositionControlWithSpeedLimit (enable direction : UInt8)
      (speedLimit : UInt16) (angle : UInt32)
  | writeLkMotorBroadcastCurrentControl (motor1Cmd motor2Cmd motor3Cmd motor4Cmd : Int16)
  | writeDmMotorMITControl (enable : UInt8) (pDes vDes kp kd torque : Rat)
  | writeDmMotorPositionControlWithSpeedLimit (enable : UInt8) (position speed : UInt32)
  | writeDmMotorSpeedControl (enable : UInt8) (speed : UInt32)
  | writeSuperCap (capEnable doCharge maxChargePower allowChargePower : UInt8)
  deriving DecidableEq

end EcatMaster.Tasks
