import EcatMaster.Slave.Regions

/-! Resetting tasks.

`init_value` and `on_command` are two layouts of the same region. A reset stays
within its task exactly if the first is not longer than the second.
-/

set_option autoImplicit false

namespace EcatMaster.Tasks
open Io Library

namespace TaskBody

/-- `init_value` has a callback to agree with: all four motors of a DJI or DD task are
enabled, an LkTech or DM motor has a control type that is handled. -/
def ResetFits : TaskBody → Prop
  | .djiMotor flags | .ddMotor flags => flags.count = 4
  -- The source sets broadcast mode for control type 8 only.
  | .lkMotor isBroadcastMode controlType =>
      1 ≤ controlType ∧ controlType ≤ 8 ∧ (isBroadcastMode = true → 7 ≤ controlType)
  | .dmMotor controlType _ _ _ => 1 ≤ controlType ∧ controlType ≤ 3
  | _ => True

theorem fourMotors (flags : MotorFlags) : flags.count = 4 ↔ 12 ≤ 3 * flags.count := by
  have first := flags.motor1.toNat_le
  have second := flags.motor2.toNat_le
  have third := flags.motor3.toNat_le
  have fourth := flags.motor4.toNat_le
  unfold MotorFlags.count
  omega

-- Without a callback there is no byte that a command would store.
theorem lkMotor_unhandled (isBroadcastMode : Bool) {controlType : UInt8}
    (unhandled : ¬(1 ≤ controlType ∧ controlType ≤ 8)) :
    (TaskBody.lkMotor isBroadcastMode controlType).commandLength = 0 := by
  have other : ∀ handled : UInt8, 1 ≤ handled ∧ handled ≤ 8 → controlType ≠ handled :=
    fun handled known same => unhandled (same ▸ known)
  change lkCommandLength controlType = 0
  simp [lkCommandLength, other]

theorem dmMotor_unhandled {controlType : UInt8} (pmax vmax tmax : Rat)
    (unhandled : ¬(1 ≤ controlType ∧ controlType ≤ 3)) :
    (TaskBody.dmMotor controlType pmax vmax tmax).commandLength = 0 := by
  have other : ∀ handled : UInt8, 1 ≤ handled ∧ handled ≤ 3 → controlType ≠ handled :=
    fun handled known same => unhandled (same ▸ known)
  change dmCommandLength controlType = 0
  simp [dmCommandLength, other]

theorem lkMotor_handled {controlType : UInt8} (handled : 1 ≤ controlType ∧ controlType ≤ 8) :
    controlType = 1 ∨ controlType = 2 ∨ controlType = 3 ∨ controlType = 4 ∨ controlType = 5 ∨ controlType = 6 ∨
      controlType = 7 ∨ controlType = 8 := by
  simp only [UInt8.le_iff_toNat_le, ← UInt8.toNat_inj, UInt8.reduceToNat] at *
  omega

theorem dmMotor_handled {controlType : UInt8} (handled : 1 ≤ controlType ∧ controlType ≤ 3) :
    controlType = 1 ∨ controlType = 2 ∨ controlType = 3 := by
  simp only [UInt8.le_iff_toNat_le, ← UInt8.toNat_inj, UInt8.reduceToNat] at *
  omega

theorem lkMotor_resetFits (isBroadcastMode : Bool) (controlType : UInt8) :
    (TaskBody.lkMotor isBroadcastMode controlType).ResetFits ↔
      (TaskBody.lkMotor isBroadcastMode controlType).initBytes.length ≤
        (TaskBody.lkMotor isBroadcastMode controlType).commandLength := by
  change 1 ≤ controlType ∧ controlType ≤ 8 ∧ (isBroadcastMode = true → 7 ≤ controlType) ↔ _
  by_cases handled : 1 ≤ controlType ∧ controlType ≤ 8
  case pos =>
    rcases lkMotor_handled handled with rfl | rfl | rfl | rfl | rfl | rfl | rfl | rfl
    all_goals cases isBroadcastMode <;> decide
  case neg =>
    rw [lkMotor_unhandled isBroadcastMode handled]
    constructor
    · intro fits
      exact absurd ⟨fits.1, fits.2.1⟩ handled
    · intro none
      cases isBroadcastMode <;> cases none

theorem dmMotor_resetFits (controlType : UInt8) (pmax vmax tmax : Rat) :
    (TaskBody.dmMotor controlType pmax vmax tmax).ResetFits ↔
      (TaskBody.dmMotor controlType pmax vmax tmax).initBytes.length ≤
        (TaskBody.dmMotor controlType pmax vmax tmax).commandLength := by
  change 1 ≤ controlType ∧ controlType ≤ 3 ↔ 1 ≤ _
  by_cases handled : 1 ≤ controlType ∧ controlType ≤ 3
  case pos =>
    rcases dmMotor_handled handled with rfl | rfl | rfl
    all_goals exact iff_of_true (by decide) (Nat.le_of_ble_eq_true rfl)
  case neg =>
    rw [dmMotor_unhandled pmax vmax tmax handled]
    exact iff_of_false handled (by decide)

theorem resetFits_iff (body : TaskBody) : body.ResetFits ↔ body.initBytes.length ≤ body.commandLength := by
  cases body with
  | djiMotor flags => exact fourMotors flags
  | ddMotor flags => exact fourMotors flags
  | lkMotor isBroadcastMode controlType => exact lkMotor_resetFits isBroadcastMode controlType
  | dmMotor controlType pmax vmax tmax => exact dmMotor_resetFits controlType pmax vmax tmax
  | externalPwm initValue channelNum =>
    exact iff_of_true trivial (Nat.le_of_eq (length_uint16s channelNum.toNat initValue))
  | _ => exact iff_of_true trivial (Nat.le_of_ble_eq_true rfl)

end TaskBody

end EcatMaster.Tasks

namespace EcatMaster.Slave
open Library Config Tasks TaskBody

def Outside (task : TaskWrapper) (i : Nat) : Prop :=
  i < task.pdowriteOffset.toNat ∨ task.pdowriteOffset.toNat + task.body.commandLength ≤ i

/-- The region of a task that has just been initialised: its initial values, and zeros where
it has fewer of them than a command has bytes. -/
def initialRegion (task : TaskWrapper) : List UInt8 :=
  (task.body.initBytes ++ List.replicate task.body.commandLength 0).take task.body.commandLength

namespace SlaveDevice

/-- Each reset touches the bytes of its own task only. -/
structure ResetsAreLocal (d : SlaveDevice UInt8) : Prop where
  /-- `init_value` changes no other byte of the memory it stores into, also past the end of
  the vector. -/
  own : ∀ task ∈ d.taskList, ∀ (memory : List UInt8) (i : Nat), Outside task i →
    (task.store id task.body.initValue memory)[i]? = memory[i]?
  /-- After `write_init_values` each subscriber reads its own initial values. -/
  initial : ∀ task ∈ d.taskList, task.body.hasSubscribers = true →
    window d.writeInitValues.commandArea task.pdowriteOffset.toNat task.body.commandLength = initialRegion task
  zero : ∀ i < d.commandArea.length, (∀ task ∈ d.taskList, Outside task i) →
    d.writeInitValues.commandArea[i]? = some 0
  /-- A lost connection changes no command of a task that keeps it. -/
  lost : ∀ task ∈ d.taskList, task.connectionLostWriteAction ≠ 0x02 →
    window d.onConnectionLost.1.commandArea task.pdowriteOffset.toNat task.body.commandLength =
      window d.commandArea task.pdowriteOffset.toNat task.body.commandLength

variable {d : SlaveDevice UInt8} {task : TaskWrapper}

theorem initBytes_apart {before after : List TaskWrapper} (apart : (before ++ task :: after).Pairwise CommandsApart)
    (fits : ∀ other ∈ before ++ task :: after, other.body.ResetFits) :
    ∀ other ∈ before ++ after, Apart other.pdowriteOffset.toNat other.body.initBytes.length
      task.pdowriteOffset.toNat task.body.commandLength := by
  intro other within
  have moved := (List.pairwise_middle Apart.symm).mp apart
  have distinct : CommandsApart task other := (List.pairwise_cons.mp moved).1 other within
  have listed : other ∈ before ++ task :: after := by
    simp only [List.mem_append, List.mem_cons] at within ⊢
    tauto
  have bound := other.body.resetFits_iff.mp (fits other listed)
  unfold CommandsApart Apart at *
  omega

theorem store_initValue (task : TaskWrapper) (memory : List UInt8) :
    task.store id task.body.initValue memory =
      overwrite memory task.pdowriteOffset.toNat task.body.initBytes := by
  rw [task.store_eq id (initValue_writes task.body), List.map_id]

theorem commandArea_writeInitValues (d : SlaveDevice UInt8) :
    d.writeInitValues.commandArea = overwriteAll (List.replicate d.commandArea.length 0)
      (initWrites id (fun task => task.body.hasSubscribers) d.taskList) := by
  rw [writeInitValues_eq]
  change (overwriteAll (overwrite d.masterToSlaveBuf.storage 0 d.zeroFill) d.subscriberWrites).take
    d.masterToSlaveBufLen.toNat = _
  rw [take_overwriteAll, take_overwrite]
  change overwriteAll (overwrite d.commandArea 0 d.zeroFill) d.subscriberWrites = _
  have covers : d.commandArea.length ≤ d.zeroFill.length := by
    simp only [commandArea, zeroFill, List.length_take, List.length_replicate]
    omega
  have zeros : d.zeroFill.take d.commandArea.length = List.replicate d.commandArea.length 0 := by
    simp only [zeroFill, List.take_replicate, List.length_replicate] at covers ⊢
    rw [Nat.min_eq_left covers]
    rfl
  rw [overwrite_all _ _ covers, zeros]
  rfl

theorem commandArea_onConnectionLost (d : SlaveDevice UInt8) :
    d.onConnectionLost.1.commandArea =
      overwriteAll d.commandArea (initWrites id (fun task => task.connectionLostWriteAction = 0x02) d.taskList) := by
  unfold onConnectionLost
  simp only [foldl_initValueOf]
  exact take_overwriteAll _ _ _

theorem window_cleared (task : TaskWrapper) {n : Nat} (inside : CommandInside task n) :
    window (overwrite (List.replicate n 0) task.pdowriteOffset.toNat task.body.initBytes)
      task.pdowriteOffset.toNat task.body.commandLength = initialRegion task := by
  apply List.ext_getElem?
  intro i
  unfold CommandInside Inside at inside
  simp only [getElem?_window, getElem?_overwrite, initialRegion, List.getElem?_take, List.getElem?_append,
    List.getElem?_replicate, List.length_replicate]
  split_ifs <;> first | rfl | omega | simp_all

-- Initial values that are too long reach the byte after the last one of a command.
theorem resetFits_of_own (own : ∀ (memory : List UInt8) (i : Nat), Outside task i →
    (task.store id task.body.initValue memory)[i]? = memory[i]?) : task.body.ResetFits := by
  rw [resetFits_iff]
  by_contra long
  have bound : task.body.commandLength < task.body.initBytes.length := by omega
  let stored := task.body.initBytes[task.body.commandLength]
  have same := own (List.replicate (task.pdowriteOffset.toNat + task.body.initBytes.length) (stored + 1))
    (task.pdowriteOffset.toNat + task.body.commandLength) (Or.inr (Nat.le_refl _))
  rw [store_initValue, getElem?_overwrite_inside _ _ _ _ (by omega) (by omega) (by simp [bound]),
    Nat.add_sub_cancel_left, List.getElem?_eq_getElem bound, List.getElem?_replicate, if_pos (by omega)] at same
  have unchanged : stored = stored + 1 := Option.some.inj same
  exact absurd unchanged (by simp)

theorem own_of_resetFits (fits : task.body.ResetFits) (memory : List UInt8) (i : Nat) (outside : Outside task i) :
    (task.store id task.body.initValue memory)[i]? = memory[i]? := by
  have bound := task.body.resetFits_iff.mp fits
  unfold Outside at outside
  rw [store_initValue]
  exact getElem?_overwrite_outside _ _ _ _ (by omega)

theorem initial_of_resetFits (apart : d.taskList.Pairwise CommandsApart)
    (fits : ∀ task ∈ d.taskList, task.body.ResetFits) (member : task ∈ d.taskList)
    (subscribes : task.body.hasSubscribers = true) (inside : CommandInside task d.commandArea.length) :
    window d.writeInitValues.commandArea task.pdowriteOffset.toNat task.body.commandLength = initialRegion task := by
  rw [commandArea_writeInitValues]
  obtain ⟨before, after, split⟩ := List.append_of_mem member
  rw [split] at apart fits ⊢
  rw [window_initWrites_own subscribes _ fun other within _ => initBytes_apart apart fits other within, List.map_id]
  exact window_cleared task inside

theorem zero_of_resetFits (fits : ∀ task ∈ d.taskList, task.body.ResetFits) {i : Nat}
    (bound : i < d.commandArea.length) (outside : ∀ task ∈ d.taskList, Outside task i) :
    d.writeInitValues.commandArea[i]? = some 0 := by
  rw [commandArea_writeInitValues, getElem?_overwriteAll_outside, List.getElem?_replicate, if_pos bound]
  intro write member
  obtain ⟨other, within, rfl⟩ := List.mem_map.mp member
  have listed := List.mem_of_mem_filter within
  have short := other.body.resetFits_iff.mp (fits other listed)
  have beside := outside other listed
  unfold Outside at beside
  simp only [List.length_map]
  omega

theorem lost_of_resetFits (apart : d.taskList.Pairwise CommandsApart)
    (fits : ∀ task ∈ d.taskList, task.body.ResetFits) (member : task ∈ d.taskList)
    (keeps : task.connectionLostWriteAction ≠ 0x02) :
    window d.onConnectionLost.1.commandArea task.pdowriteOffset.toNat task.body.commandLength =
      window d.commandArea task.pdowriteOffset.toNat task.body.commandLength := by
  rw [commandArea_onConnectionLost]
  obtain ⟨before, after, split⟩ := List.append_of_mem member
  rw [split] at apart fits ⊢
  exact window_initWrites_skipped (by simpa using keeps) _ fun other within _ => initBytes_apart apart fits other within

/-- Where no two tasks share a command byte, resets are local exactly if every task has
initial values that fit its commands. -/
theorem resetsAreLocal_iff (d : SlaveDevice UInt8) (apart : d.taskList.Pairwise CommandsApart)
    (inside : ∀ task ∈ d.taskList, CommandInside task d.commandArea.length) :
    d.ResetsAreLocal ↔ ∀ task ∈ d.taskList, task.body.ResetFits := by
  constructor
  · intro localised task member
    exact resetFits_of_own (localised.own task member)
  · intro fits
    constructor
    · intro task member
      exact own_of_resetFits (fits task member)
    · intro task member subscribes
      exact initial_of_resetFits apart fits member subscribes (inside task member)
    · intro i bound outside
      exact zero_of_resetFits fits bound outside
    · intro task member keeps
      exact lost_of_resetFits apart fits member keeps

-- All four motors are enabled, so the output begins after their twelve bytes.
def fourMotorsBoard : SlaveDevice UInt8 :=
  { (new : SlaveDevice UInt8) with
    taskList := [⟨12, 0, 0, 0x01, .onboardPwm 1500⟩, ⟨0, 0, 0, 0x02, .djiMotor ⟨true, true, true, true⟩⟩]
    masterToSlaveBuf := ⟨List.replicate 20 7, 20, Nat.le_refl 20⟩
    masterToSlaveBufLen := 20 }

theorem fourMotorsBoard_local : fourMotorsBoard.ResetsAreLocal := by
  apply (resetsAreLocal_iff fourMotorsBoard (by decide) (by decide)).mpr
  exact List.forall_mem_cons.mpr ⟨trivial, List.forall_mem_singleton.mpr rfl⟩

-- One of four motors is enabled, and a PWM output has the bytes that its command leaves free.
def sharedBoard : SlaveDevice UInt8 :=
  { (new : SlaveDevice UInt8) with
    taskList := [⟨3, 0, 0, 0x01, .onboardPwm 1500⟩, ⟨0, 0, 0, 0x02, .djiMotor ⟨true, false, false, false⟩⟩]
    masterToSlaveBuf := ⟨[1, 10, 0, 8, 7, 8, 7, 8, 7, 8, 7], 11, Nat.le_refl 11⟩
    masterToSlaveBufLen := 11 }

/-- The reset of the motor clears the initial values of the output, and its policy for a lost
connection clears the command that the output keeps. -/
theorem resets_not_local :
    sharedBoard.taskList.Pairwise CommandsApart ∧
    (∀ task ∈ sharedBoard.taskList, CommandInside task sharedBoard.commandArea.length) ∧
    sharedBoard.writeInitValues.commandArea = List.replicate 11 0 ∧
    sharedBoard.onConnectionLost.1.commandArea = List.replicate 11 0 ∧
    ¬sharedBoard.ResetsAreLocal := by
  have apart : sharedBoard.taskList.Pairwise CommandsApart := by decide
  have inside : ∀ task ∈ sharedBoard.taskList, CommandInside task sharedBoard.commandArea.length := by decide
  refine ⟨apart, inside, by decide, by decide, ?_⟩
  intro localised
  have initial := localised.initial ⟨3, 0, 0, 0x01, .onboardPwm 1500⟩ (by decide) rfl
  exact absurd initial (by decide)

end SlaveDevice

end EcatMaster.Slave
