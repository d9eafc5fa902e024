import EcatMaster.Slave.Equations
import EcatMaster.Tasks.Commands

/-! Commands in the buffer.

A callback stores its fields in its own region, so the commands of tasks whose
regions are apart do not disturb each other, in whatever order they come.
-/

set_option autoImplicit false

namespace EcatMaster.Slave
open Library Config Tasks TaskBody

/-- No byte is stored by the callbacks of both tasks. -/
def CommandsApart (first later : TaskWrapper) : Prop :=
  Apart first.pdowriteOffset.toNat first.body.commandLength later.pdowriteOffset.toNat later.body.commandLength

instance (first later : TaskWrapper) : Decidable (CommandsApart first later) :=
  inferInstanceAs (Decidable (Apart _ _ _ _))

/-- The whole region of the task lies in a buffer of this length. -/
def CommandInside (task : TaskWrapper) (len : Nat) : Prop :=
  Inside task.pdowriteOffset.toNat task.body.commandLength len

instance (task : TaskWrapper) (len : Nat) : Decidable (CommandInside task len) :=
  inferInstanceAs (Decidable (Inside _ _ _))

section OneCommand
variable {task : TaskWrapper} {msg : CommandMessage} {handler : Io.Cursor UInt8 → Io.Cursor UInt8} {buf : List UInt8}

theorem store_command (subscribed : task.body.onCommand msg = some handler) :
    task.store id handler buf = overwrite buf task.pdowriteOffset.toNat (task.body.commandBytes msg) := by
  rw [task.store_eq id (onCommand_writes task.body msg subscribed), List.map_id]

theorem window_store_command (subscribed : task.body.onCommand msg = some handler)
    (inside : CommandInside task buf.length) :
    window (task.store id handler buf) task.pdowriteOffset.toNat (task.body.commandBytes msg).length =
      task.body.commandBytes msg := by
  rw [store_command subscribed]
  apply window_overwrite_same
  rwa [length_commandBytes subscribed]

theorem fieldsAt_store_command (subscribed : task.body.onCommand msg = some handler)
    (enough : task.body.EnoughChannels msg) (inside : CommandInside task buf.length) :
    FieldsAt (task.store id handler buf) task.pdowriteOffset.toNat (task.body.commandFields msg) := by
  have holds := window_store_command subscribed inside
  rw [commandBytes_eq subscribed enough] at holds
  exact fieldsAt_of_window holds

theorem getElem?_store_command (subscribed : task.body.onCommand msg = some handler) (i : Nat)
    (outside : i < task.pdowriteOffset.toNat ∨ task.pdowriteOffset.toNat + task.body.commandLength ≤ i) :
    (task.store id handler buf)[i]? = buf[i]? := by
  rw [store_command subscribed]
  apply getElem?_overwrite_outside
  rwa [length_commandBytes subscribed]

end OneCommand

theorem store_command_comm {first later : TaskWrapper} {msg msg' : CommandMessage}
    {handler handler' : Io.Cursor UInt8 → Io.Cursor UInt8} (apart : CommandsApart first later)
    (subscribed : first.body.onCommand msg = some handler) (subscribed' : later.body.onCommand msg' = some handler')
    (buf : List UInt8) :
    later.store id handler' (first.store id handler buf) = first.store id handler (later.store id handler' buf) := by
  rw [store_command subscribed, store_command subscribed', store_command subscribed', store_command subscribed]
  apply overwrite_comm
  rwa [length_commandBytes subscribed, length_commandBytes subscribed']

namespace SlaveDevice

def commandsWrites (d : SlaveDevice UInt8) (commands : List (Nat × CommandMessage)) : List (Nat × List UInt8) :=
  commands.flatMap fun command => d.messageWrites command.1 command.2

theorem exec_commandSteps (data : ConfigurationParser) (commands : List (Nat × CommandMessage))
    (d : SlaveDevice UInt8) :
    exec (next data) d (commandSteps commands) =
      { d with masterToSlaveBuf := d.masterToSlaveBuf.copyAll (d.commandsWrites commands) } := by
  induction commands generalizing d with
  | nil => rfl
  | cons command commands ih =>
    have first := next_onCommand data d command.1 command.2
    have split : d.commandsWrites (command :: commands) =
        d.messageWrites command.1 command.2 ++ d.commandsWrites commands := List.flatMap_cons
    change exec (next data) (next data d (.onCommand command.1 command.2)) (commandSteps commands) = _
    rw [ih, first, split, ByteVec.copyAll_append]
    rfl

theorem storage_commands (data : ConfigurationParser) (commands : List (Nat × CommandMessage)) (d : SlaveDevice UInt8) :
    (exec (next data) d (commandSteps commands)).masterToSlaveBuf.storage =
      overwriteAll d.masterToSlaveBuf.storage (d.commandsWrites commands) := by
  rw [exec_commandSteps]
  rfl

theorem commandsApart_of_pairwise {tasks : List TaskWrapper} (apart : tasks.Pairwise CommandsApart) {i j : Nat}
    {task other : TaskWrapper} (here : tasks[i]? = some task) (there : tasks[j]? = some other) (different : j ≠ i) :
    CommandsApart other task := by
  obtain ⟨boundI, rfl⟩ := List.getElem?_eq_some_iff.mp here
  obtain ⟨boundJ, rfl⟩ := List.getElem?_eq_some_iff.mp there
  rw [List.pairwise_iff_getElem] at apart
  rcases Nat.lt_or_gt_of_ne different with before | after
  · exact apart j i boundJ boundI before
  · exact (apart i j boundI boundJ after).symm

theorem commandsWrites_apart {d : SlaveDevice UInt8} (apart : d.taskList.Pairwise CommandsApart) {i : Nat}
    {task : TaskWrapper} (here : d.taskList[i]? = some task) {commands : List (Nat × CommandMessage)}
    (others : ∀ command ∈ commands, command.1 = i → task.body.onCommand (β := UInt8) command.2 = none) :
    ∀ write ∈ d.commandsWrites commands,
      Apart write.1 write.2.length task.pdowriteOffset.toNat task.body.commandLength := by
  intro write member
  obtain ⟨command, within, stored⟩ := List.mem_flatMap.mp member
  rw [messageWrites, Option.mem_toList, Option.bind_eq_some_iff] at stored
  obtain ⟨other, there, written⟩ := stored
  obtain ⟨handler, subscribed, rfl⟩ := Option.map_eq_some_iff.mp written
  by_cases same : command.1 = i
  case pos =>
    -- A message of another type finds no callback, so it cannot have stored anything.
    have none := others command within same
    rw [same, here] at there
    cases there
    rw [none] at subscribed
    cases subscribed
  case neg =>
    have distinct := commandsApart_of_pairwise apart here there same
    rw [CommandsApart, ← length_commandBytes subscribed] at distinct
    simpa using distinct

theorem window_last_command (data : ConfigurationParser) {d : SlaveDevice UInt8} (before : List (Nat × CommandMessage))
    (apart : d.taskList.Pairwise CommandsApart) {i : Nat} {task : TaskWrapper} (here : d.taskList[i]? = some task)
    (inside : CommandInside task d.masterToSlaveBuf.storage.length) {after : List (Nat × CommandMessage)}
    {msg : CommandMessage} {handler : Io.Cursor UInt8 → Io.Cursor UInt8}
    (subscribed : task.body.onCommand msg = some handler)
    (last : ∀ command ∈ after, command.1 = i → task.body.onCommand (β := UInt8) command.2 = none) :
    window (exec (next data) d (commandSteps (before ++ (i, msg) :: after))).masterToSlaveBuf.storage
        task.pdowriteOffset.toNat (task.body.commandBytes msg).length = task.body.commandBytes msg := by
  have own : d.messageWrites i msg = [(task.pdowriteOffset.toNat, task.body.commandBytes msg)] := by
    simp only [messageWrites, here, Option.bind_some, commandWrite, subscribed, Option.map_some, Option.toList_some]
    congr 2
    exact List.map_id _
  have split : d.commandsWrites (before ++ (i, msg) :: after) = d.commandsWrites before ++
      (task.pdowriteOffset.toNat, task.body.commandBytes msg) :: d.commandsWrites after := by
    rw [commandsWrites, List.flatMap_append, List.flatMap_cons, own]
    rfl
  rw [storage_commands, split, overwriteAll_append, overwriteAll_cons, window_overwriteAll_apart]
  · apply window_overwrite_same
    rw [length_commandBytes subscribed, length_overwriteAll]
    exact inside
  · rw [length_commandBytes subscribed]
    exact commandsWrites_apart apart here last

/-- Each command is stored field by field in the region of its task and nowhere else, so
commands of tasks whose regions are apart commute and each region holds its last command. -/
theorem commands_encoded_and_independent :
    (∀ (task : TaskWrapper) (msg : CommandMessage) (handler : Io.Cursor UInt8 → Io.Cursor UInt8) (buf : List UInt8),
      task.body.onCommand msg = some handler → task.body.EnoughChannels msg → CommandInside task buf.length →
        FieldsAt (task.store id handler buf) task.pdowriteOffset.toNat (task.body.commandFields msg) ∧
        (fieldBytes (task.body.commandFields msg)).length = task.body.commandLength ∧
        (task.store id handler buf).length = buf.length ∧
        ∀ i, i < task.pdowriteOffset.toNat ∨ task.pdowriteOffset.toNat + task.body.commandLength ≤ i →
          (task.store id handler buf)[i]? = buf[i]?) ∧
    (∀ (first later : TaskWrapper) (msg msg' : CommandMessage)
      (handler handler' : Io.Cursor UInt8 → Io.Cursor UInt8) (buf : List UInt8),
      CommandsApart first later → first.body.onCommand msg = some handler → later.body.onCommand msg' = some handler' →
        later.store id handler' (first.store id handler buf) =
          first.store id handler (later.store id handler' buf)) ∧
    (∀ (data : ConfigurationParser) (d : SlaveDevice UInt8) (i : Nat) (task : TaskWrapper)
      (before after : List (Nat × CommandMessage)) (msg : CommandMessage)
      (handler : Io.Cursor UInt8 → Io.Cursor UInt8),
      d.taskList.Pairwise CommandsApart → d.taskList[i]? = some task →
      CommandInside task d.masterToSlaveBuf.storage.length →
      task.body.onCommand msg = some handler → task.body.EnoughChannels msg →
      (∀ command ∈ after, command.1 = i → task.body.onCommand (β := UInt8) command.2 = none) →
        FieldsAt (exec (next data) d (commandSteps (before ++ (i, msg) :: after))).masterToSlaveBuf.storage
          task.pdowriteOffset.toNat (task.body.commandFields msg)) := by
  refine ⟨?encoded, ?commute, ?last⟩
  case encoded =>
    intro task msg handler buf subscribed enough inside
    refine ⟨fieldsAt_store_command subscribed enough inside, ?_, ?_, getElem?_store_command subscribed⟩
    · rw [← commandBytes_eq subscribed enough, length_commandBytes subscribed]
    · rw [store_command subscribed, length_overwrite]
  case commute =>
    intro first later msg msg' handler handler' buf apart subscribed subscribed'
    exact store_command_comm apart subscribed subscribed' buf
  case last =>
    intro data d i task before after msg handler apart here inside subscribed enough last
    have holds := window_last_command data before apart here inside subscribed last
    rw [commandBytes_eq subscribed enough] at holds
    exact fieldsAt_of_window holds

-- A PWM output, and behind it two of the four motors of a DJI task.
def pwmTask : TaskWrapper := ⟨0, 0, 0, 0, .onboardPwm 1500⟩

def motorTask : TaskWrapper := ⟨8, 0, 0, 0, .djiMotor ⟨false, true, false, true⟩⟩

def motorMessage : CommandMessage := .writeDJIMotor ⟨1, 10⟩ ⟨1, -5⟩ ⟨1, 20⟩ ⟨0, 300⟩

def commandDevice : SlaveDevice UInt8 :=
  { (new : SlaveDevice UInt8) with
    taskList := [pwmTask, motorTask]
    masterToSlaveBuf := ⟨List.replicate 14 0, 14, Nat.le_refl 14⟩ }

theorem commands_encoded_and_independent_at :
    FieldsAt (motorTask.store id (DjiMotor.onCommand ⟨false, true, false, true⟩ ⟨1, 10⟩ ⟨1, -5⟩ ⟨1, 20⟩ ⟨0, 300⟩)
      (List.replicate 14 0)) 8 [.uint8 1, .int16 (-5), .uint8 0, .int16 300] ∧
    motorTask.store id (DjiMotor.onCommand ⟨false, true, false, true⟩ ⟨1, 10⟩ ⟨1, -5⟩ ⟨1, 20⟩ ⟨0, 300⟩)
        (pwmTask.store id (OnboardPwm.onCommand 1 2 3 4) (List.replicate 14 0)) =
      pwmTask.store id (OnboardPwm.onCommand 1 2 3 4)
        (motorTask.store id (DjiMotor.onCommand ⟨false, true, false, true⟩ ⟨1, 10⟩ ⟨1, -5⟩ ⟨1, 20⟩ ⟨0, 300⟩)
          (List.replicate 14 0)) ∧
    FieldsAt (exec (next receiverData) commandDevice (commandSteps ([(0, .writeOnBoardPWM 1 2 3 4)] ++
      (1, motorMessage) :: [(0, .writeOnBoardPWM 5 6 7 8)]))).masterToSlaveBuf.storage 8
        [.uint8 1, .int16 (-5), .uint8 0, .int16 300] := by
  obtain ⟨encoded, commute, last⟩ := commands_encoded_and_independent
  refine ⟨?_, ?_, ?_⟩
  · exact (encoded motorTask motorMessage _ (List.replicate 14 0) rfl trivial (by decide)).1
  · exact commute pwmTask motorTask (.writeOnBoardPWM 1 2 3 4) motorMessage _ _ (List.replicate 14 0)
      (by decide) rfl rfl
  · refine last receiverData commandDevice 1 motorTask _ _ motorMessage _ ?_ rfl ?_ rfl trivial ?_
    · decide
    · decide
    · decide

end SlaveDevice

end EcatMaster.Slave
