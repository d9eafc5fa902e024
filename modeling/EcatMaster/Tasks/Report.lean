import Mathlib.Algebra.Order.Ring.Rat

/-! The report messages of `custom_msgs/msg/Read*.msg` and `sensor_msgs/Imu`.

Of a header only what the program sets is kept: the time stamp, and the frame of
an IMU. A default value is what a new message holds before any field is set.
-/

set_option autoImplicit false

namespace EcatMaster.Tasks

/-- The sixteen keys of a keyboard word. -/
structure Keyboard where
  w : UInt8 := 0
  s : UInt8 := 0
  a : UInt8 := 0
  d : UInt8 := 0
  q : UInt8 := 0
  e : UInt8 := 0
  r : UInt8 := 0
  f : UInt8 := 0
  g : UInt8 := 0
  z : UInt8 := 0
  x : UInt8 := 0
  c : UInt8 := 0
  v : UInt8 := 0
  b : UInt8 := 0
  shift : UInt8 := 0
  ctrl : UInt8 := 0
  deriving DecidableEq

structure ReadDJIRC where
  stamp : Int := 0
  online : UInt8 := 0
  leftX : Rat := 0
  leftY : Rat := 0
  rightX : Rat := 0
  rightY : Rat := 0
  dial : Rat := 0
  leftSwitch : UInt8 := 0
  rightSwitch : UInt8 := 0
  keyboard : Keyboard := {}
  mouseX : Int16 := 0
  mouseY : Int16 := 0
  mouseLeftClicked : UInt8 := 0
  mouseRightClicked : UInt8 := 0
  deriving DecidableEq

structure ReadVT13RC where
  stamp : Int := 0
  online : UInt8 := 0
  leftX : Rat := 0
  leftY : Rat := 0
  rightX : Rat := 0
  rightY : Rat := 0
  dial : Rat := 0
  gearSwitching : UInt8 := 0
  pauseButton : UInt8 := 0
  leftCustomButton : UInt8 := 0
  rightCustomButton : UInt8 := 0
  triggerButton : UInt8 := 0
  keyboard : Keyboard := {}
  mouseX : Int16 := 0
  mouseY : Int16 := 0
  mouseZ : Int16 := 0
  mouseLeftClicked : UInt8 := 0
  mouseMidClicked : UInt8 := 0
  mouseRightClicked : UInt8 := 0
  deriving DecidableEq

/-- `init_sdo` gives `channels` its sixteen elements before the message is used. -/
structure ReadSBUSRC where
  stamp : Int := 0
  online : UInt8 := 0
  channels : List UInt16 := List.replicate 16 0
  ch17 : UInt8 := 0
  ch18 : UInt8 := 0
  failSafe : UInt8 := 0
  frameLost : UInt8 := 0
  deriving DecidableEq

/-- A float that is computed from a half-precision number. -/
inductive FloatValue where
  | finite (value : Rat)
  | infinite (negative : Bool)
  | nan
  deriving DecidableEq

structure ReadCANPMU where
  stamp : Int := 0
  online : UInt8 := 0
  temperature : FloatValue := .finite 0
  voltage : FloatValue := .finite 0
  current : FloatValue := .finite 0
  deriving DecidableEq

structure ReadMS5837BA30 where
  stamp : Int := 0
  online : UInt8 := 0
  temperature : Rat := 0
  pressure : Rat := 0
  deriving DecidableEq

/-- The six fields of one motor. The fifth is the temperature of a DJI motor and the mode
of a DD motor. -/
structure MotorFeedback where
  online : UInt8 := 0
  ecd : UInt16 := 0
  rpm : Int16 := 0
  current : Int16 := 0
  temperature : UInt8 := 0
  errorCode : UInt8 := 0
  deriving DecidableEq

structure ReadMotors where
  stamp : Int := 0
  motor1 : MotorFeedback := {}
  motor2 : MotorFeedback := {}
  motor3 : MotorFeedback := {}
  motor4 : MotorFeedback := {}
  deriving DecidableEq

structure ReadLkMotor where
  stamp : Int := 0
  online : UInt8 := 0
  enabled : UInt8 := 0
  current : Int16 := 0
  speed : Int16 := 0
  encoder : UInt16 := 0
  temperature : UInt8 := 0
  deriving DecidableEq

structure LkFeedback where
  online : UInt8 := 0
  current : Int16 := 0
  speed : Int16 := 0
  encoder : UInt16 := 0
  temperature : UInt8 := 0
  deriving DecidableEq

structure ReadLkMotorMulti where
  stamp : Int := 0
  motor1 : LkFeedback := {}
  motor2 : LkFeedback := {}
  motor3 : LkFeedback := {}
  motor4 : LkFeedback := {}
  deriving DecidableEq

structure ReadDmMotor where
  stamp : Int := 0
  online : UInt8 := 0
  disabled : UInt8 := 0
  enabled : UInt8 := 0
  overvoltage : UInt8 := 0
  undervoltage : UInt8 := 0
  overcurrent : UInt8 := 0
  mosOvertemperature : UInt8 := 0
  rotorOvertemperature : UInt8 := 0
  communicationLost : UInt8 := 0
  overload : UInt8 := 0
  position : Rat := 0
  velocity : Rat := 0
  torque : Rat := 0
  mosTemperature : UInt8 := 0
  rotorTemperature : UInt8 := 0
  deriving DecidableEq

structure ReadSuperCap where
  stamp : Int := 0
  online : UInt8 := 0
  capValid : UInt8 := 0
  capStatus : UInt8 := 0
  capRemainPercentage : UInt8 := 0
  chassisPower : UInt8 := 0
  batteryVoltage : UInt8 := 0
  chassisOnlyPower : UInt8 := 0
  deriving DecidableEq

structure Vector3 where
  x : Rat := 0
  y : Rat := 0
  z : Rat := 0
  deriving DecidableEq

structure Quaternion where
  w : Rat := 1
  x : Rat := 0
  y : Rat := 0
  z : Rat := 0
  deriving DecidableEq

structure Imu where
  stamp : Int := 0
  frameId : String := ""
  orientation : Quaternion := {}
  linearAcceleration : Vector3 := {}
  angularVelocity : Vector3 := {}
  deriving DecidableEq

/-- The message objects that are static members of a task class: all tasks of the class
fill and publish the same one. -/
inductive SharedMessage where
  | readdjirc
  | readvt13rc
  | readsbusrc
  | readcanpmu
  | readms5837ba30
  | readdjimotor
  | readddmotor
  | readlkmotor
  | readlkmotormulti
  | readdmmotor
  | readsupercap
  | imu
  deriving DecidableEq

def SharedMessage.Content : SharedMessage → Type
  | .readdjirc => ReadDJIRC
  | .readvt13rc => ReadVT13RC
  | .readsbusrc => ReadSBUSRC
  | .readcanpmu => ReadCANPMU
  | .readms5837ba30 => ReadMS5837BA30
  | .readdjimotor | .readddmotor => ReadMotors
  | .readlkmotor => ReadLkMotor
  | .readlkmotormulti => ReadLkMotorMulti
  | .readdmmotor => ReadDmMotor
  | .readsupercap => ReadSuperCap
  | .imu => Imu

/-- The content of every shared message. -/
abbrev SharedMessages := (message : SharedMessage) → message.Content

/-- What a publisher sends. -/
abbrev Report := (message : SharedMessage) × message.Content

def SharedMessages.initial : SharedMessages
  | .readdjirc => ({} : ReadDJIRC)
  | .readvt13rc => ({} : ReadVT13RC)
  | .readsbusrc => ({} : ReadSBUSRC)
  | .readcanpmu => ({} : ReadCANPMU)
  | .readms5837ba30 => ({} : ReadMS5837BA30)
  | .readdjimotor | .readddmotor => ({} : ReadMotors)
  | .readlkmotor => ({} : ReadLkMotor)
  | .readlkmotormulti => ({} : ReadLkMotorMulti)
  | .readdmmotor => ({} : ReadDmMotor)
  | .readsupercap => ({} : ReadSuperCap)
  | .imu => ({} : Imu)

end EcatMaster.Tasks
