import EcatMaster.Io.Readers
import EcatMaster.Tasks.Report
import EcatMaster.Tasks.Task

/-! The `read` and `publish_empty_message` members of the task classes.

Each takes the content of the shared message of its class to the content that is
published; a field that it does not set keeps what another call has left there.
`off` is the `pdoread_offset` of the task.
-/

set_option autoImplicit false

namespace EcatMaster.Tasks
open Io

/-- `get_slave_to_master_buf()[pdoread_offset_ + i]`. -/
def pdo (buf : List UInt8) (off i : Nat) : UInt8 := byteAt buf (off + i)

/-- Eleven bits of two adjacent bytes, from bit `low` of the first one on. -/
def bits11 (buf : List UInt8) (off i low : Nat) : Nat :=
  ((pdo buf off i).toNat >>> low ||| (pdo buf off (i + 1)).toNat <<< (8 - low)) &&& 0x07FF

/-- Eleven bits of three adjacent bytes. -/
def wideBits11 (buf : List UInt8) (off i low : Nat) : Nat :=
  ((pdo buf off i).toNat >>> low ||| (pdo buf off (i + 1)).toNat <<< (8 - low) |||
    (pdo buf off (i + 2)).toNat <<< (16 - low)) &&& 0x07FF

/-- Floats are read as rationals. -/
def getPercentage (rawData : Nat) : Rat :=
  let targetSpd : Int := rawData - 1024
  if -5 ≤ targetSpd ∧ targetSpd ≤ 5 then 0 else targetSpd / 660

def readKeyboard (keyValue : UInt16) : Keyboard :=
  let key := fun i : UInt16 => (keyValue >>> i &&& 0x01).toUInt8
  { w := key 0, s := key 1, a := key 2, d := key 3, shift := key 4, ctrl := key 5, q := key 6, e := key 7,
    r := key 8, f := key 9, g := key 10, z := key 11, x := key 12, c := key 13, v := key 14, b := key 15 }

-- The other fields of an offline remote control are left as they are.
def DbusRc.read (stamp : Int) (buf : List UInt8) (off : Nat) (msg : ReadDJIRC) : ReadDJIRC :=
  if pdo buf off 18 ≠ 0 then
    { stamp
      online := 1
      rightX := getPercentage (bits11 buf off 0 0)
      rightY := getPercentage (bits11 buf off 1 3)
      leftX := getPercentage (wideBits11 buf off 2 6)
      leftY := getPercentage (bits11 buf off 4 1)
      dial := getPercentage (bits11 buf off 16 0)
      rightSwitch := pdo buf off 5 >>> 4 &&& 0x03
      leftSwitch := pdo buf off 5 >>> 6 &&& 0x03
      mouseX := (word (pdo buf off 6) (pdo buf off 7)).toInt16
      mouseY := (word (pdo buf off 8) (pdo buf off 9)).toInt16
      mouseLeftClicked := pdo buf off 12
      mouseRightClicked := pdo buf off 13
      keyboard := readKeyboard (word (pdo buf off 14) (pdo buf off 15)) }
  else { msg with stamp, online := 0 }

def DbusRc.publishEmptyMessage (now : Int) (_ : ReadDJIRC) : ReadDJIRC := { stamp := now }

def Vt13Rc.read (stamp : Int) (buf : List UInt8) (off : Nat) (msg : ReadVT13RC) : ReadVT13RC :=
  if pdo buf off 17 ≠ 0 then
    { stamp
      online := 1
      rightX := getPercentage (bits11 buf off 0 0)
      rightY := getPercentage (bits11 buf off 1 3)
      leftX := getPercentage (wideBits11 buf off 2 6)
      leftY := getPercentage (bits11 buf off 4 1)
      dial := getPercentage (bits11 buf off 6 1)
      gearSwitching := pdo buf off 5 >>> 4 &&& 0x03
      pauseButton := pdo buf off 5 >>> 6 &&& 0x01
      leftCustomButton := pdo buf off 5 >>> 7 &&& 0x01
      rightCustomButton := pdo buf off 6 &&& 0x01
      triggerButton := pdo buf off 7 >>> 4 &&& 0x01
      mouseX := (word (pdo buf off 8) (pdo buf off 9)).toInt16
      mouseY := (word (pdo buf off 10) (pdo buf off 11)).toInt16
      mouseZ := (word (pdo buf off 12) (pdo buf off 13)).toInt16
      mouseLeftClicked := pdo buf off 14 &&& 0x03
      mouseMidClicked := pdo buf off 14 >>> 2 &&& 0x03
      mouseRightClicked := pdo buf off 14 >>> 4 &&& 0x03
      keyboard := readKeyboard (word (pdo buf off 15) (pdo buf off 16)) }
  else { msg with stamp, online := 0 }

def Vt13Rc.publishEmptyMessage (now : Int) (_ : ReadVT13RC) : ReadVT13RC := { stamp := now }

def SbusRc.read (stamp : Int) (buf : List UInt8) (off : Nat) (msg : ReadSBUSRC) : ReadSBUSRC :=
  if pdo buf off 23 ≠ 0 then
    let flag := fun mask : UInt8 => if pdo buf off 22 &&& mask ≠ 0 then (1 : UInt8) else 0
    { stamp
      online := 1
      -- The channels lie bit by bit in two groups of eleven bytes.
      channels :=
        [bits11 buf off 0 0, bits11 buf off 1 3, wideBits11 buf off 2 6, bits11 buf off 4 1,
         bits11 buf off 5 4, wideBits11 buf off 6 7, bits11 buf off 8 2, bits11 buf off 9 5,
         bits11 buf off 11 0, bits11 buf off 12 3, wideBits11 buf off 13 6, bits11 buf off 15 1,
         bits11 buf off 16 4, wideBits11 buf off 17 7, bits11 buf off 19 2, bits11 buf off 20 5].map UInt16.ofNat
      ch17 := flag 0x01
      ch18 := flag 0x02
      failSafe := flag 0x04
      frameLost := flag 0x08 }
  else { msg with stamp, online := 0 }

def SbusRc.publishEmptyMessage (now : Int) (_ : ReadSBUSRC) : ReadSBUSRC := { stamp := now }

/-- `read_float16`. -/
def float16Value (h : UInt16) : FloatValue :=
  let exp := ((h &&& 0x7C00) >>> 10).toNat
  let frac := (h &&& 0x03FF).toNat
  let sign : Rat := if h &&& 0x8000 ≠ 0 then -1 else 1
  if exp = 0 then .finite (sign * (2 ^ 14 : Rat)⁻¹ * (frac / 1024))
  else if exp = 0x1F then if frac ≠ 0 then .nan else .infinite (h &&& 0x8000 ≠ 0)
  else .finite (sign * (2 ^ exp / 2 ^ 15) * (1 + frac / 1024))

def readFloat16 : Reader FloatValue := do return float16Value (← readUint16)

def FloatValue.minus (value : FloatValue) (offset : Rat) : FloatValue :=
  match value with
  | .finite x => .finite (x - offset)
  | other => other

/-- The fields that are set only while the sensor is online. -/
def PmuCan.readFields : Reader (FloatValue × FloatValue × FloatValue) := do
  let temperature ← readFloat16
  let voltage ← readFloat16
  let current ← readFloat16
  return (temperature.minus (273 + 15 / 100), voltage, current)

def PmuCan.read (stamp : Int) (buf : List UInt8) (off : Nat) (msg : ReadCANPMU) : ReadCANPMU :=
  if pdo buf off 6 ≠ 0 then
    let (temperature, voltage, current) := (PmuCan.readFields buf off).1
    { stamp, online := 1, temperature, voltage, current }
  else { msg with stamp, online := 0 }

def PmuCan.publishEmptyMessage (now : Int) (_ : ReadCANPMU) : ReadCANPMU := { stamp := now }

def Ms5837.readFields : Reader (Rat × Rat) := do
  let temperature ← readInt32
  let pressure ← readInt32
  return ((temperature.toInt : Rat) / 100, (pressure.toInt : Rat) / 10)

def Ms5837.read (stamp : Int) (buf : List UInt8) (off : Nat) (msg : ReadMS5837BA30) : ReadMS5837BA30 :=
  if pdo buf off 8 ≠ 0 then
    let (temperature, pressure) := (Ms5837.readFields buf off).1
    { stamp, online := 1, temperature, pressure }
  else { msg with stamp, online := 0 }

def Ms5837.publishEmptyMessage (now : Int) (_ : ReadMS5837BA30) : ReadMS5837BA30 := { stamp := now }

/-- An `int16_t` times a scale. -/
def readScaled (scale : Rat) : Reader Rat := do return scale * ((← readInt16).toInt : Rat)

def HipnucImuCan.readFields : Reader (Quaternion × Vector3 × Vector3) := do
  let w ← readScaled (1 / 10000)
  let x ← readScaled (1 / 10000)
  let y ← readScaled (1 / 10000)
  let z ← readScaled (1 / 10000)
  let accelerationX ← readScaled (48828 / 10000000)
  let accelerationY ← readScaled (48828 / 10000000)
  let accelerationZ ← readScaled (48828 / 10000000)
  let velocityX ← readScaled (1 / 1000)
  let velocityY ← readScaled (1 / 1000)
  let velocityZ ← readScaled (1 / 1000)
  return (⟨w, x, y, z⟩, ⟨accelerationX, accelerationY, accelerationZ⟩, ⟨velocityX, velocityY, velocityZ⟩)

def HipnucImuCan.read (confFrameName : String) (stamp : Int) (buf : List UInt8) (off : Nat) (_ : Imu) : Imu :=
  let (orientation, linearAcceleration, angularVelocity) := (HipnucImuCan.readFields buf off).1
  { stamp, frameId := confFrameName, orientation, linearAcceleration, angularVelocity }

def HipnucImuCan.publishEmptyMessage (confFrameName : String) (now : Int) (_ : Imu) : Imu :=
  { stamp := now, frameId := confFrameName }

def readMotor : Reader MotorFeedback := do
  let online ← readUint8
  let ecd ← readUint16
  let rpm ← readInt16
  let current ← readInt16
  let temperature ← readUint8
  let errorCode ← readUint8
  return { online, ecd, rpm, current, temperature, errorCode }

-- A disabled motor has no feedback in the buffer: its fields are cleared and nothing is skipped.
def readEnabledMotor (enabled : Bool) : Reader MotorFeedback := if enabled then readMotor else return {}

def readMotors (isMotorEnabled : MotorFlags) (stamp : Int) : Reader ReadMotors := do
  let motor1 ← readEnabledMotor isMotorEnabled.motor1
  let motor2 ← readEnabledMotor isMotorEnabled.motor2
  let motor3 ← readEnabledMotor isMotorEnabled.motor3
  let motor4 ← readEnabledMotor isMotorEnabled.motor4
  return { stamp, motor1, motor2, motor3, motor4 }

def DjiMotor.read (isMotorEnabled : MotorFlags) (stamp : Int) (buf : List UInt8) (off : Nat) (_ : ReadMotors) :
    ReadMotors :=
  (readMotors isMotorEnabled stamp buf off).1

def DjiMotor.publishEmptyMessage (now : Int) (_ : ReadMotors) : ReadMotors := { stamp := now }

def DdMotor.read (isMotorEnabled : MotorFlags) (stamp : Int) (buf : List UInt8) (off : Nat) (_ : ReadMotors) :
    ReadMotors :=
  (readMotors isMotorEnabled stamp buf off).1

def DdMotor.publishEmptyMessage (now : Int) (_ : ReadMotors) : ReadMotors := { stamp := now }

namespace LkMotor

def readSingle (stamp : Int) : Reader ReadLkMotor := do
  let stateByte ← readUint8
  let current ← readInt16
  let speed ← readInt16
  let encoder ← readUint16
  let temperature ← readUint8
  return { stamp, online := stateByte &&& 0x01, enabled := stateByte >>> 2 &&& 0x01, current, speed, encoder,
           temperature }

def readOne : Reader LkFeedback := do
  let online ← readUint8
  let current ← readInt16
  let speed ← readInt16
  let encoder ← readUint16
  let temperature ← readUint8
  return { online, current, speed, encoder, temperature }

def readMulti (stamp : Int) : Reader ReadLkMotorMulti := do
  let motor1 ← readOne
  let motor2 ← readOne
  let motor3 ← readOne
  let motor4 ← readOne
  return { stamp, motor1, motor2, motor3, motor4 }

def read (stamp : Int) (buf : List UInt8) (off : Nat) (_ : ReadLkMotor) : ReadLkMotor := (readSingle stamp buf off).1

def readBroadcast (stamp : Int) (buf : List UInt8) (off : Nat) (_ : ReadLkMotorMulti) : ReadLkMotorMulti :=
  (readMulti stamp buf off).1

def publishEmptyMessage (now : Int) (_ : ReadLkMotor) : ReadLkMotor := { stamp := now }

def publishEmptyBroadcast (now : Int) (_ : ReadLkMotorMulti) : ReadLkMotorMulti := { stamp := now }

end LkMotor

namespace DmMotor

/-- The inverse direction of `floatToUint`, in exact arithmetic. -/
def uintToFloat (xInt : Nat) (xMin xMax : Rat) (bits : Nat) : Rat :=
  let span := xMax - xMin
  let offset := xMin
  (xInt : Rat) * span / ((1 <<< bits) - 1 : Nat) + offset

-- One of the flags is set, or none for a code that the switch does not know.
def read (pmax vmax tmax : Rat) (stamp : Int) (buf : List UInt8) (off : Nat) (_ : ReadDmMotor) : ReadDmMotor :=
  let code := pdo buf off 0 >>> 4
  let flag := fun state : UInt8 => if code = state then (1 : UInt8) else 0
  { stamp
    online := pdo buf off 8
    disabled := flag 0x0
    enabled := flag 0x1
    overvoltage := flag 0x8
    undervoltage := flag 0x9
    overcurrent := flag 0xA
    mosOvertemperature := flag 0xB
    rotorOvertemperature := flag 0xC
    communicationLost := flag 0xD
    overload := flag 0xE
    position := uintToFloat ((pdo buf off 1).toNat <<< 8 ||| (pdo buf off 2).toNat) (-pmax) pmax 16
    velocity := uintToFloat ((pdo buf off 3).toNat <<< 4 ||| (pdo buf off 4).toNat >>> 4) (-vmax) vmax 12
    torque := uintToFloat (((pdo buf off 4).toNat &&& 0xF) <<< 8 ||| (pdo buf off 5).toNat) (-tmax) tmax 12
    mosTemperature := pdo buf off 6
    rotorTemperature := pdo buf off 7 }

def publishEmptyMessage (now : Int) (_ : ReadDmMotor) : ReadDmMotor := { stamp := now }

end DmMotor

def SuperCap.readFields (stamp : Int) : Reader ReadSuperCap := do
  let online ← readUint8
  let capValid ← readUint8
  let capStatus ← readUint8
  let capRemainPercentage ← readUint8
  let chassisPower ← readUint8
  let batteryVoltage ← readUint8
  let chassisOnlyPower ← readUint8
  return { stamp, online, capValid, capStatus, capRemainPercentage, chassisPower, batteryVoltage, chassisOnlyPower }

def SuperCap.read (stamp : Int) (buf : List UInt8) (off : Nat) (_ : ReadSuperCap) : ReadSuperCap :=
  (SuperCap.readFields stamp buf off).1

def SuperCap.publishEmptyMessage (now : Int) (_ : ReadSuperCap) : ReadSuperCap := { stamp := now }

/-- The virtual members of a task that publishes. -/
structure Publisher where
  message : SharedMessage
  read : (stamp : Int) → (buf : List UInt8) → (off : Nat) → message.Content → message.Content
  publishEmptyMessage : (now : Int) → message.Content → message.Content

def TaskBody.publisher : TaskBody → Option Publisher
  | .dbusRc => some ⟨.readdjirc, DbusRc.read, DbusRc.publishEmptyMessage⟩
  | .vt13Rc => some ⟨.readvt13rc, Vt13Rc.read, Vt13Rc.publishEmptyMessage⟩
  | .sbusRc => some ⟨.readsbusrc, SbusRc.read, SbusRc.publishEmptyMessage⟩
  | .pmuCan => some ⟨.readcanpmu, PmuCan.read, PmuCan.publishEmptyMessage⟩
  | .ms5837 => some ⟨.readms5837ba30, Ms5837.read, Ms5837.publishEmptyMessage⟩
  | .hipnucImuCan confFrameName =>
      some ⟨.imu, HipnucImuCan.read confFrameName, HipnucImuCan.publishEmptyMessage confFrameName⟩
  | .djiMotor isMotorEnabled => some ⟨.readdjimotor, DjiMotor.read isMotorEnabled, DjiMotor.publishEmptyMessage⟩
  | .ddMotor isMotorEnabled => some ⟨.readddmotor, DdMotor.read isMotorEnabled, DdMotor.publishEmptyMessage⟩
  | .lkMotor true _ => some ⟨.readlkmotormulti, LkMotor.readBroadcast, LkMotor.publishEmptyBroadcast⟩
  | .lkMotor false _ => some ⟨.readlkmotor, LkMotor.read, LkMotor.publishEmptyMessage⟩
  | .dmMotor _ pmax vmax tmax => some ⟨.readdmmotor, DmMotor.read pmax vmax tmax, DmMotor.publishEmptyMessage⟩
  | .superCap => some ⟨.readsupercap, SuperCap.read, SuperCap.publishEmptyMessage⟩
  | .dshot _ | .onboardPwm _ | .externalPwm _ _ => none

theorem TaskBody.isSome_publisher (body : TaskBody) : body.publisher.isSome = body.hasPublishers := by
  cases body with
  | lkMotor isBroadcastMode controlType => cases isBroadcastMode <;> rfl
  | _ => rfl

end EcatMaster.Tasks
