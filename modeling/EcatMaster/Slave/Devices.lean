import EcatMaster.Library.Runs
import EcatMaster.Slave.Equations

/-! The devices of the program and the callback that configures one of them.

`slave_devices` holds a device for each slave of the first bus scan. The text of
the firmware revision is read into one buffer for all of them.
-/

set_option autoImplicit false

namespace EcatMaster.Slave
open Library Config Tasks

/-- What `ec_SDOread` stores of a reply: nothing if the read fails, else at most what was asked for. -/
abbrev SdoReply (size : Nat) := Option { bytes : List UInt8 // bytes.length ≤ size }

def SdoReply.received {size : Nat} (reply : SdoReply size) : List UInt8 :=
  match reply with
  | none => []
  | some bytes => bytes.val

/-- One call of `config_ec_slave`: the position, the connected board and its two answers. -/
structure BoardCall where
  slave : Nat
  slave_pos : 1 ≤ slave
  eepId : UInt32
  snReply : SdoReply 4
  revReply : SdoReply 3

/-- The call of `init` while the shared buffer holds this text. -/
def BoardCall.onText (c : BoardCall) (swRevStr : List UInt8) : InitCall :=
  ⟨c.eepId, c.snReply.map Subtype.val, swRevStr, c.revReply.map Subtype.val⟩

/-- `slave_devices` with `sw_rev_str_`, whose fourth byte is out of the reach of the reads. -/
structure Slaves (β : Type) where
  swRevStr : List UInt8
  terminated : swRevStr.drop 3 = [0]
  slaveDevices : List (SlaveDevice β)

theorem ecSDOread_eq (target : List UInt8) {size : Nat} (reply : SdoReply size) (fits : size ≤ target.length) :
    ecSDOread target size (reply.map Subtype.val) = reply.received ++ target.drop reply.received.length := by
  cases reply with
  | none => rfl
  | some bytes =>
    change overwrite target 0 (bytes.val.take size) = bytes.val ++ target.drop bytes.val.length
    rw [List.take_of_length_le bytes.property, overwrite_front _ _ (Nat.le_trans bytes.property fits)]

theorem SdoReply.length_received {size : Nat} (reply : SdoReply size) : reply.received.length ≤ size := by
  cases reply with
  | none => exact Nat.zero_le size
  | some bytes => exact bytes.property

theorem drop_ecSDOread {target : List UInt8} {size : Nat} (reply : SdoReply size) (fits : size ≤ target.length) :
    (ecSDOread target size (reply.map Subtype.val)).drop size = target.drop size := by
  have within := reply.length_received
  rw [ecSDOread_eq target reply fits, List.drop_append, List.drop_of_length_le within, List.nil_append,
    List.drop_drop, Nat.add_sub_of_le within]

namespace Slaves
variable {β : Type}

theorem length_swRevStr (s : Slaves β) : s.swRevStr.length = 4 := by
  have tail := congrArg List.length s.terminated
  rw [List.length_drop, List.length_singleton] at tail
  omega

/-- `init_slave_devices_vector`, with the text that is there at the start of the program. -/
def initSlaveDevicesVector (slaveCount : Nat) : Slaves β where
  swRevStr := [0, 0, 0, 0]
  terminated := rfl
  slaveDevices := List.replicate slaveCount SlaveDevice.new

theorem length_initSlaveDevicesVector (slaveCount : Nat) :
    (initSlaveDevicesVector slaveCount : Slaves β).slaveDevices.length = slaveCount :=
  List.length_replicate

/-- `slave_devices.at(index - 1)`, which throws out of range. -/
def getSlaveDevice (s : Slaves β) (index : Nat) : Option (SlaveDevice β) := s.slaveDevices[index - 1]?

theorem opened_getSlaveDevice {slaveCount index : Nat} (pos : 1 ≤ index) (inRange : index ≤ slaveCount) :
    (initSlaveDevicesVector slaveCount : Slaves β).getSlaveDevice index = some SlaveDevice.new := by
  change (List.replicate slaveCount SlaveDevice.new)[index - 1]? = _
  rw [List.getElem?_replicate, if_pos (by omega)]

section Cells
variable [Cell β]

/-- The callback returns what `init` returns; an index out of range throws before that. -/
def configEcSlave (data : ConfigurationParser) (c : BoardCall) (s : Slaves β) : Option (Bool × Slaves β) :=
  (s.getSlaveDevice c.slave).map fun d =>
    let returned := d.init data (c.onText s.swRevStr)
    (returned.1,
      { swRevStr := ecSDOread s.swRevStr 3 (c.revReply.map Subtype.val)
        terminated := by
          rw [drop_ecSDOread c.revReply (by rw [s.length_swRevStr]; decide), s.terminated]
        slaveDevices := s.slaveDevices.set (c.slave - 1) returned.2 })

def next (data : ConfigurationParser) (s : Slaves β) (c : BoardCall) : Slaves β :=
  match configEcSlave data c s with
  | none => s
  | some returned => returned.2

end Cells

end Slaves

end EcatMaster.Slave
