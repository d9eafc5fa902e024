import EcatMaster.Slave.Reset
import EcatMaster.Slave.Registers
import EcatMaster.Slave.Representation
import EcatMaster.Slave.Startup
import EcatMaster.Slave.TaskList
import EcatMaster.Tasks.Isolation

/-! The storage that the operations use.

No operation compares the offset of a task with the length of a vector, and nothing does when
the tasks are made. Here the indices that the tasks use are listed with those of the
device, and compared with the storage over whole runs.
-/

set_option autoImplicit false

namespace EcatMaster.Tasks

theorem TaskBody.subscribes {body : TaskBody} (stores : body.commandLength ≠ 0) :
    ∃ msg handler, body.onCommand (β := UInt8) msg = some handler := by
  have idle : MotorCommand := ⟨0, 0⟩
  cases body with
  | djiMotor flags => exact ⟨.writeDJIMotor idle idle idle idle, _, rfl⟩
  | ddMotor flags => exact ⟨.writeDDMotor idle idle idle idle, _, rfl⟩
  | dshot initValue => exact ⟨.writeDSHOT 0 0 0 0, _, rfl⟩
  | onboardPwm initValue => exact ⟨.writeOnBoardPWM 0 0 0 0, _, rfl⟩
  | externalPwm initValue channelNum => exact ⟨.writeExternalPWM [] [], _, rfl⟩
  | superCap => exact ⟨.writeSuperCap 0 0 0 0, _, rfl⟩
  | lkMotor isBroadcastMode controlType =>
    have handled : 1 ≤ controlType ∧ controlType ≤ 8 := by
      by_contra unhandled
      exact stores (lkMotor_unhandled isBroadcastMode unhandled)
    rcases lkMotor_handled handled with rfl | rfl | rfl | rfl | rfl | rfl | rfl | rfl
    · exact ⟨.writeLkMotorOpenloopControl 0 0, _, rfl⟩
    · exact ⟨.writeLkMotorTorqueControl 0 0, _, rfl⟩
    · exact ⟨.writeLkMotorSpeedControlWithTorqueLimit 0 0 0, _, rfl⟩
    · exact ⟨.writeLkMotorMultiRoundPositionControl 0 0, _, rfl⟩
    · exact ⟨.writeLkMotorMultiRoundPositionControlWithSpeedLimit 0 0 0, _, rfl⟩
    · exact ⟨.writeLkMotorSingleRoundPositionControl 0 0 0, _, rfl⟩
    · exact ⟨.writeLkMotorSingleRoundPositionControlWithSpeedLimit 0 0 0 0, _, rfl⟩
    · exact ⟨.writeLkMotorBroadcastCurrentControl 0 0 0 0, _, rfl⟩
  | dmMotor controlType pmax vmax tmax =>
    have handled : 1 ≤ controlType ∧ controlType ≤ 3 := by
      by_contra unhandled
      exact stores (dmMotor_unhandled pmax vmax tmax unhandled)
    rcases dmMotor_handled handled with rfl | rfl | rfl
    · exact ⟨.writeDmMotorMITControl 0 0 0 0 0 0, _, rfl⟩
    · exact ⟨.writeDmMotorPositionControlWithSpeedLimit 0 0 0, _, rfl⟩
    · exact ⟨.writeDmMotorSpeedControl 0 0, _, rfl⟩
  | _ => exact absurd rfl stores

theorem TaskBody.readLength_unpublished {body : TaskBody} (unpublished : ¬body.hasPublishers = true) :
    body.readLength = 0 := by
  cases body with
  | dshot initValue => rfl
  | onboardPwm initValue => rfl
  | externalPwm initValue channelNum => rfl
  | _ => exact absurd rfl unpublished

end EcatMaster.Tasks

namespace EcatMaster.Slave
open Library Config Tasks

theorem Access.within_iff (vec : Vec) (off len : Nat) (sizes : Vec → Nat) :
    Access.Within sizes ⟨vec, off, len⟩ ↔ Inside off len (sizes vec) := by
  unfold Within Inside
  dsimp only
  constructor
  · intro within
    by_cases empty : len = 0
    · exact Or.inl empty
    · have last := within (len - 1) (by omega)
      exact Or.inr (by omega)
  · intro inside i bound
    omega

theorem Access.within_of_le {vec : Vec} {first : Int} {count : Nat} {sizes : Vec → Nat} (low : 0 ≤ first)
    (high : first + count ≤ sizes vec) : Access.Within sizes ⟨vec, first, count⟩ := by
  intro i inside
  dsimp only at inside ⊢
  omega

namespace SlaveDevice

/-- The bytes that `read` of the publishing tasks indexes. -/
def readElements (d : SlaveDevice UInt8) : List Access :=
  (d.taskList.filter fun task => task.body.hasPublishers).map fun task =>
    ⟨.slaveToMaster, task.pdoreadOffset.toNat, task.body.readLength⟩

def storeElements (write : Nat × List UInt8) : Access := ⟨.masterToSlave, write.1, write.2.length⟩

def taskElements (d : SlaveDevice UInt8) : Step → List Access
  | .process _ => if d.isConfigured && d.counts then d.readElements else []
  | .connectionLost => d.lostWrites.map storeElements
  | .onCommand task msg => (d.messageWrites task msg).map storeElements
  | _ => []

/-- Every index that the step uses is one of the storage. -/
def InStorage (data : ConfigurationParser) (d : SlaveDevice UInt8) (s : Step) : Prop :=
  ∀ access ∈ d.accesses (.step s) ++ d.taskElements s, access.Within (next data d s).storageSize

/-- The module has room for a triple in both directions, and each task stays in the two vectors with
its commands, its initial values and its inputs. -/
structure LaidOut (d : SlaveDevice UInt8) : Prop where
  outputs : 3 ≤ d.masterToSlaveBufLen.toNat
  inputs : 3 ≤ d.slaveToMasterBufLen.toNat
  commands : ∀ task ∈ d.taskList,
    Inside task.pdowriteOffset.toNat task.body.commandLength d.masterToSlaveBufLen.toNat
  initValues : ∀ task ∈ d.taskList,
    Inside task.pdowriteOffset.toNat task.body.initBytes.length d.masterToSlaveBufLen.toNat
  reads : ∀ task ∈ d.taskList, Inside task.pdoreadOffset.toNat task.body.readLength d.slaveToMasterBufLen.toNat

structure Backed (e d : SlaveDevice UInt8) : Prop where
  tasks : d.taskList = e.taskList
  outputs : e.masterToSlaveBufLen.toNat ≤ d.masterToSlaveBuf.storage.length
  inputs : e.slaveToMasterBufLen.toNat ≤ d.slaveToMasterBuf.storage.length
  stored : Typed.Stored d
  args : d.argBuf.length = d.argBufLen.toNat
  low : 1 ≤ d.sendingArgBufIdx.toNat
  high : d.sendingArgBufIdx.toNat ≤ d.argBufLen.toNat

section Steps
variable {data : ConfigurationParser} {e d : SlaveDevice UInt8}

theorem next_storage (data : ConfigurationParser) (d : SlaveDevice UInt8) (s : Step) :
    d.masterToSlaveBuf.storage.length ≤ (next data d s).masterToSlaveBuf.storage.length ∧
      d.slaveToMasterBuf.storage.length ≤ (next data d s).slaveToMasterBuf.storage.length := by
  by_cases calls : ∃ call, s = .init call
  case neg =>
    have kept := next_kept data d (not_exists.mp calls)
    exact ⟨kept.outputStorage.ge, kept.inputStorage.ge⟩
  case pos =>
    obtain ⟨call, rfl⟩ := calls
    rw [next, step]
    rcases init_vectors data call d with ⟨output, _, input, _⟩ | ⟨_, _, output, _, input, _⟩
    · rw [output, input]
      exact ⟨le_rfl, le_rfl⟩
    · rw [output, input]
      exact ⟨ByteVec.length_le_resize d.masterToSlaveBuf.clear _ _,
        ByteVec.length_le_resize d.slaveToMasterBuf.clear _ _⟩

theorem argIdx_next (data : ConfigurationParser) (d : SlaveDevice UInt8) (s : Step) :
    (next data d s).sendingArgBufIdx = d.sendingArgBufIdx ∨ (next data d s).sendingArgBufIdx = 1 ∨
      (next data d s).sendingArgBufIdx = d.nextArgIdx := by
  cases s with
  | preRecover => exact Or.inr (Or.inl rfl)
  | process currentTime =>
    cases configured : d.isConfigured with
    | false =>
      rw [next_process_skipped configured]
      exact Or.inl rfl
    | true =>
      rw [next_process configured]
      dsimp only [argIdxAfter]
      split
      · exact Or.inr (Or.inr rfl)
      · exact Or.inl rfl
  | init call =>
    rw [next, step]
    rcases init_cases data call d with ⟨_, outcome⟩ | ⟨_, _, outcome⟩ | ⟨_, _, _, outcome⟩
    all_goals
      rw [outcome]
      exact Or.inl rfl
  | connectionLost =>
    rw [next_connectionLost]
    exact Or.inl rfl
  | onCommand task msg =>
    rw [next_onCommand]
    exact Or.inl rfl
  | exitReset =>
    rw [next_exitReset]
    exact Or.inl rfl
  | _ => exact Or.inl rfl

theorem Backed.next (backed : Backed e d) (s : Step) : Backed e (next data d s) := by
  obtain ⟨argBuf, argBufLen, tasks⟩ := next_setUp data d s
  obtain ⟨output, input⟩ := next_storage data d s
  have range : 1 ≤ (SlaveDevice.next data d s).sendingArgBufIdx.toNat ∧
      (SlaveDevice.next data d s).sendingArgBufIdx.toNat ≤ d.argBufLen.toNat := by
    rcases argIdx_next data d s with same | first | moved
    · rw [same]
      exact ⟨backed.low, backed.high⟩
    · rw [first]
      exact ⟨Nat.le_refl 1, backed.low.trans backed.high⟩
    · rw [moved]
      exact nextArgIdx_within backed.low backed.high
  exact {
    tasks := tasks.trans backed.tasks
    outputs := backed.outputs.trans output
    inputs := backed.inputs.trans input
    stored := Typed.stored_next data s backed.stored
    args := by rw [argBuf, argBufLen, backed.args]
    low := range.1
    high := by rw [argBufLen]; exact range.2 }

theorem sendArgElements_within (backed : Backed e d) {sizes : Vec → Nat} (outputs : 3 ≤ sizes .masterToSlave)
    (inputs : 3 ≤ sizes .slaveToMaster) (args : sizes .arg = d.argBufLen.toNat) :
    ∀ access ∈ d.sendArgElements, access.Within sizes := by
  obtain ⟨low, high⟩ := nextArgIdx_within backed.low backed.high
  have current := backed.low
  have bound := backed.high
  unfold sendArgElements
  simp only [List.forall_mem_append, List.forall_mem_cons]
  refine ⟨⟨⟨?_, ?_, List.forall_mem_nil _⟩, ?_⟩, ?_⟩
  · exact Access.within_of_le (by omega) (by omega)
  · exact Access.within_of_le (by omega) (by omega)
  · split
    case isFalse => exact List.forall_mem_nil _
    case isTrue =>
      simp only [List.forall_mem_cons]
      refine ⟨?_, ?_, List.forall_mem_nil _⟩
      all_goals exact Access.within_of_le (by omega) (by omega)
  · split
    case isTrue => exact List.forall_mem_nil _
    case isFalse =>
      simp only [List.forall_mem_cons]
      refine ⟨?_, ?_, List.forall_mem_nil _⟩
      all_goals exact Access.within_of_le (by omega) (by omega)

theorem inside_of_le {off len total larger : Nat} (inside : Inside off len total) (le : total ≤ larger) :
    Inside off len larger := by
  unfold Inside at *
  omega

section Tasks
variable (laidOut : e.LaidOut) (backed : Backed e d) {sizes : Vec → Nat}
include laidOut backed

theorem initValueElements_storage (outputs : e.masterToSlaveBufLen.toNat ≤ sizes .masterToSlave) :
    ∀ access ∈ d.initValueElements, access.Within sizes := by
  intro access member
  obtain ⟨task, chosen, rfl⟩ := List.mem_map.mp member
  rw [Access.within_iff]
  have listed : task ∈ e.taskList := backed.tasks ▸ List.mem_of_mem_filter chosen
  exact inside_of_le (laidOut.initValues task listed) outputs

theorem readElements_within (inputs : e.slaveToMasterBufLen.toNat ≤ sizes .slaveToMaster) :
    ∀ access ∈ d.readElements, access.Within sizes := by
  intro access member
  obtain ⟨task, chosen, rfl⟩ := List.mem_map.mp member
  rw [Access.within_iff]
  have listed : task ∈ e.taskList := backed.tasks ▸ List.mem_of_mem_filter chosen
  exact inside_of_le (laidOut.reads task listed) inputs

theorem lostWrites_within (outputs : e.masterToSlaveBufLen.toNat ≤ sizes .masterToSlave) :
    ∀ access ∈ d.lostWrites.map storeElements, access.Within sizes := by
  intro access member
  obtain ⟨write, stored, rfl⟩ := List.mem_map.mp member
  obtain ⟨task, chosen, rfl⟩ := List.mem_map.mp stored
  rw [storeElements, Access.within_iff, initWrite, List.length_map]
  have listed : task ∈ e.taskList := backed.tasks ▸ List.mem_of_mem_filter chosen
  exact inside_of_le (laidOut.initValues task listed) outputs

theorem messageWrites_within (outputs : e.masterToSlaveBufLen.toNat ≤ sizes .masterToSlave) (i : Nat)
    (msg : CommandMessage) : ∀ access ∈ (d.messageWrites i msg).map storeElements, access.Within sizes := by
  intro access member
  obtain ⟨write, stored, rfl⟩ := List.mem_map.mp member
  rw [messageWrites, Option.mem_toList, Option.bind_eq_some_iff] at stored
  obtain ⟨task, here, written⟩ := stored
  obtain ⟨handler, subscribed, rfl⟩ := Option.map_eq_some_iff.mp written
  rw [storeElements, Access.within_iff, List.length_map, TaskBody.length_commandBytes subscribed]
  have listed : task ∈ e.taskList := backed.tasks ▸ List.mem_of_getElem? here
  exact inside_of_le (laidOut.commands task listed) outputs

theorem inStorage (s : Step) : InStorage data d s := by
  have after : Backed e (SlaveDevice.next data d s) := backed.next s
  have outputs : e.masterToSlaveBufLen.toNat ≤ (SlaveDevice.next data d s).storageSize .masterToSlave := after.outputs
  have inputs : e.slaveToMasterBufLen.toNat ≤ (SlaveDevice.next data d s).storageSize .slaveToMaster := after.inputs
  have args : (SlaveDevice.next data d s).storageSize .arg = d.argBufLen.toNat := by
    obtain ⟨argBuf, _, _⟩ := next_setUp data d s
    exact (congrArg List.length argBuf).trans backed.args
  have initValues := initValueElements_storage laidOut backed outputs
  unfold InStorage accesses
  simp only [List.forall_mem_append]
  refine ⟨⟨Typed.copies_within data s backed.stored, ?_⟩, ?_⟩
  · cases s with
    | process currentTime =>
      have sent := sendArgElements_within backed (laidOut.outputs.trans outputs) (laidOut.inputs.trans inputs) args
      intro access member
      rw [elements, List.mem_ite_nil_right, List.mem_append, List.mem_ite_nil_right, List.mem_ite_nil_right] at member
      rcases member.2 with argument | initial
      · exact sent access argument.2
      · exact initValues access initial.2
    | exitReset =>
      intro access member
      rw [elements, List.mem_ite_nil_right] at member
      exact initValues access member.2
    | _ => exact List.forall_mem_nil _
  · cases s with
    | process currentTime =>
      intro access member
      rw [taskElements, List.mem_ite_nil_right] at member
      exact readElements_within laidOut backed inputs access member.2
    | connectionLost => exact lostWrites_within laidOut backed outputs
    | onCommand task msg => exact messageWrites_within laidOut backed outputs task msg
    | _ => exact List.forall_mem_nil _

end Tasks

end Steps

theorem registered_room (eepId : UInt32) : (registeredModule eepId).slaveToMasterBufLen.toNat = 0 ∨
    3 ≤ (registeredModule eepId).masterToSlaveBufLen.toNat ∧
      3 ≤ (registeredModule eepId).slaveToMasterBufLen.toNat := by
  unfold registeredModule
  split_ifs <;> decide

/-- What `setup_ecat` makes has arguments to send, and vectors of the lengths that are recorded. -/
structure Opened (d : SlaveDevice UInt8) : Prop where
  backed : Backed d d
  output : d.masterToSlaveBuf.storage.length = d.masterToSlaveBufLen.toNat
  input : d.slaveToMasterBuf.storage.length = d.slaveToMasterBufLen.toNat
  room : d.slaveToMasterBufLen.toNat = 0 ∨ 3 ≤ d.masterToSlaveBufLen.toNat ∧ 3 ≤ d.slaveToMasterBufLen.toNat
  isConfigured : d.isConfigured = true
  sending : d.sending = true

section Runs
variable {data : ConfigurationParser} {d : SlaveDevice UInt8}

theorem opened (configured : Configured data d) (nonempty : 1 ≤ d.argBufLen.toNat) : d.Opened := by
  obtain ⟨call, sn, sdoLen, argBuf, taskList, _, length, rfl⟩ := configured_eq configured
  have nonempty : 1 ≤ sdoLen.toNat := nonempty
  have arguments : sdoLen ≠ 0 := by
    rintro rfl
    exact absurd nonempty (by decide)
  have output := ByteVec.length_resize_empty (registeredModule call.eepId).masterToSlaveBufLen.toNat
    (Cell.store (β := UInt8) .allocation 0)
  have input := ByteVec.length_resize_empty (registeredModule call.eepId).slaveToMasterBufLen.toNat (0 : UInt8)
  refine ⟨⟨rfl, output.ge, input.ge, ⟨output.ge, input.ge⟩, length, Nat.le_refl 1, nonempty⟩, output, input,
    registered_room call.eepId, rfl, ?_⟩
  simp [sending, arguments, new]

def Safe (data : ConfigurationParser) (d : SlaveDevice UInt8) : Prop := ∀ run, Along (next data) (InStorage data) d run

theorem Safe.reached (safe : d.Safe data) (run : List Step) (s : Step) :
    InStorage data (exec (next data) d run) s := by
  have along := safe (run ++ [s])
  rw [along_append] at along
  exact along.2.1

theorem Safe.room (safe : d.Safe data) (opened : d.Opened) :
    3 ≤ d.masterToSlaveBufLen.toNat ∧ 3 ≤ d.slaveToMasterBufLen.toNat := by
  rcases opened.room with empty | room
  case inr => exact room
  have first : (⟨.slaveToMaster, 1, 1⟩ : Access) ∈ d.accesses (.step (.process 0)) := by
    simp [accesses, elements, opened.isConfigured, opened.sending, sendArgElements]
  have within := safe.reached [] (.process 0) _ (List.mem_append_left _ first)
  have inside := (Access.within_iff .slaveToMaster 1 1 _).mp within
  have kept := (next_kept data d (s := .process 0) fun _ => Step.noConfusion).inputStorage
  have length : (next data d (.process 0)).storageSize .slaveToMaster = 0 := kept.trans (opened.input.trans empty)
  unfold Inside at inside
  simp only [exec, length] at inside
  omega

theorem Safe.commands (safe : d.Safe data) (opened : d.Opened) : ∀ task ∈ d.taskList,
    Inside task.pdowriteOffset.toNat task.body.commandLength d.masterToSlaveBufLen.toNat := by
  intro task member
  by_cases empty : task.body.commandLength = 0
  · exact Or.inl empty
  obtain ⟨msg, handler, subscribed⟩ := TaskBody.subscribes empty
  obtain ⟨i, here⟩ := List.getElem?_of_mem member
  have stores : d.messageWrites i msg =
      [(task.pdowriteOffset.toNat, (task.body.commandBytes msg).map (Cell.store .command))] := by
    simp [messageWrites, here, commandWrite, subscribed]
  have listed : ⟨.masterToSlave, task.pdowriteOffset.toNat, task.body.commandLength⟩ ∈ d.taskElements (.onCommand i msg) := by
    simp [taskElements, stores, storeElements, TaskBody.length_commandBytes subscribed]
  have within := safe.reached [] (.onCommand i msg) _ (List.mem_append_right _ listed)
  have kept := (next_kept data d (s := .onCommand i msg) fun _ => Step.noConfusion).outputStorage
  have length : (next data d (.onCommand i msg)).storageSize .masterToSlave = d.masterToSlaveBufLen.toNat :=
    kept.trans opened.output
  rwa [exec, Access.within_iff, length] at within

theorem exec_kept (d : SlaveDevice UInt8) {run : List Step} (noInit : ∀ s ∈ run, ∀ call, s ≠ .init call) :
    Kept d (exec (next data) d run) :=
  (along_of_forall d noInit).exec_invariant (Kept.refl d) fun e _ kept other => kept.trans (next_kept data e other)

theorem steps_noInit (c : Cycle) : ∀ s ∈ c.steps, ∀ call, s ≠ .init call := by
  rintro s member call rfl
  simp [Cycle.steps, commandSteps] at member

/-- A run in which the slave comes into work: its slave answers each frame at once. -/
theorem exists_working (configured : Configured data d) (nonempty : 1 ≤ d.argBufLen.toNat)
    (room : 3 ≤ d.masterToSlaveBufLen.toNat ∧ 3 ≤ d.slaveToMasterBufLen.toNat) :
    ∃ run, (∀ s ∈ run, ∀ call, s ≠ .init call) ∧ (exec (next data) d run).isReady = true ∧
      (exec (next data) d run).isArgSent = true ∧ (exec (next data) d run).isConfigured = true := by
  let turn : Turn := ⟨[], [], [], 0, 0, []⟩
  let slave := Booting.promptSlave d.argBufLen
  let run := List.replicate (d.argBufLen.toNat + 2) turn
  obtain ⟨starting, measure⟩ := Booting.start_starting configured (Booting.start_fits configured nonempty room.1 room.2)
  have undisturbed : Along (Booting.next data slave) Booting.Undisturbed (Booting.start d) run := by
    have same : Along (Booting.next data slave) (fun _ t => t = turn) (Booting.start d) run :=
      along_of_forall _ fun t member => List.eq_of_mem_replicate member
    refine same.transfer (I := fun _ => True) trivial (fun _ _ _ _ => trivial) ?_
    rintro b t _ rfl _ write member
    cases member
  have enough : (Booting.start d).left < run.countP Turn.good := by
    rw [measure, List.countP_replicate]
    exact Nat.lt_succ_self _
  have working := Booting.starting_works starting (Booting.promptSlave_protocol d.argBufLen) undisturbed enough
  have fits : Booting.Fits (exec (Booting.next data slave) (Booting.start d) run).device :=
    exec_invariant (I := fun b : Booting => Booting.Fits b.device) starting.fits fun b t fits =>
      Booting.next_fits data slave t fits
  have same : (exec (Booting.next data slave) (Booting.start d) run).device = exec (next data) d
      (labels (Booting.next data slave) (fun b t => (b.cycle slave t).steps) (Booting.start d) run) :=
    exec_component (fun _ _ => rfl) (Booting.start d) run
  refine ⟨_, ?_, same ▸ working.ready, same ▸ working.sent, same ▸ fits.configured⟩
  intro s member
  obtain ⟨first, t, rest, _, within⟩ := mem_labels member
  exact steps_noInit _ s within

theorem Safe.initValues (safe : d.Safe data) (opened : d.Opened) {run : List Step}
    (noInit : ∀ s ∈ run, ∀ call, s ≠ .init call) (sent : (exec (next data) d run).isArgSent = true) :
    ∀ task ∈ d.taskList, Inside task.pdowriteOffset.toNat task.body.initBytes.length d.masterToSlaveBufLen.toNat := by
  intro task member
  have kept : Kept d (exec (next data) d run) := exec_kept d noInit
  by_cases stores : task.body.hasSubscribers = true
  case neg =>
    have empty := initBytes_subscribers task
    rw [if_neg stores] at empty
    exact Or.inl (by rw [← empty]; rfl)
  case pos =>
    have listed : ⟨.masterToSlave, task.pdowriteOffset.toNat, task.body.initBytes.length⟩ ∈
        (exec (next data) d run).elements .exitReset := by
      rw [elements, if_pos sent]
      exact List.mem_map.mpr ⟨task, List.mem_filter.mpr ⟨kept.taskList ▸ member, stores⟩, rfl⟩
    have within := safe.reached run .exitReset _ (List.mem_append_left _ (List.mem_append_right _ listed))
    have last := next_kept data (exec (next data) d run) (s := .exitReset) fun _ => Step.noConfusion
    have length : (next data (exec (next data) d run) .exitReset).storageSize .masterToSlave = d.masterToSlaveBufLen.toNat :=
      (kept.trans last).outputStorage.trans opened.output
    rwa [Access.within_iff, length] at within

theorem Safe.reads (safe : d.Safe data) (opened : d.Opened) {run : List Step}
    (noInit : ∀ s ∈ run, ∀ call, s ≠ .init call) (ready : (exec (next data) d run).isReady = true)
    (configured : (exec (next data) d run).isConfigured = true) :
    ∀ task ∈ d.taskList, Inside task.pdoreadOffset.toNat task.body.readLength d.slaveToMasterBufLen.toNat := by
  intro task member
  let w := exec (next data) d run
  let echo : Step := .receiveFromSlave ⟨w.masterStatus, []⟩
  have kept : Kept d (exec (next data) d (run ++ [echo])) := by
    rw [exec_append]
    exact (exec_kept d noInit).trans (next_kept data w fun _ => Step.noConfusion)
  have counted : (exec (next data) d (run ++ [echo])).isConfigured = true ∧
      (exec (next data) d (run ++ [echo])).counts = true := by
    rw [exec_append]
    have now : (w.receiveFromSlave ⟨w.masterStatus, []⟩).readyAfter = true := by
      rw [readyAfter, receiveFromSlave, ready]
      rfl
    have waits : (w.receiveFromSlave ⟨w.masterStatus, []⟩).handshakes = false := by rw [handshakes, now]; rfl
    refine ⟨configured, ?_⟩
    change (w.receiveFromSlave ⟨w.masterStatus, []⟩).counts = true
    rw [counts, statusBefore, now, waits]
    simp [receiveFromSlave]
  by_cases publishes : task.body.hasPublishers = true
  case neg => exact Or.inl (TaskBody.readLength_unpublished publishes)
  case pos =>
    have listed : ⟨.slaveToMaster, task.pdoreadOffset.toNat, task.body.readLength⟩ ∈
        (exec (next data) d (run ++ [echo])).taskElements (.process 0) := by
      rw [taskElements, counted.1, counted.2, Bool.and_self, if_pos rfl]
      exact List.mem_map.mpr ⟨task, List.mem_filter.mpr ⟨kept.taskList ▸ member, publishes⟩, rfl⟩
    have within := safe.reached (run ++ [echo]) (.process 0) _ (List.mem_append_right _ listed)
    have last := next_kept data (exec (next data) d (run ++ [echo])) (s := .process 0) fun _ => Step.noConfusion
    have length : (next data (exec (next data) d (run ++ [echo])) (.process 0)).storageSize .slaveToMaster =
        d.slaveToMasterBufLen.toNat := (kept.trans last).inputStorage.trans opened.input
    rwa [Access.within_iff, length] at within

end Runs

/-- A configured device uses no index outside of its storage in any run, if and only if its module has room
for a triple and each of its tasks stays in the vectors. -/
theorem memory_safe_iff (data : ConfigurationParser) (d : SlaveDevice UInt8) (configured : Configured data d)
    (nonempty : 1 ≤ d.argBufLen.toNat) :
    (∀ run, Along (next data) (InStorage data) d run) ↔ d.LaidOut := by
  have opened := opened configured nonempty
  constructor
  · intro safe
    have room := Safe.room safe opened
    obtain ⟨run, noInit, ready, sent, configured⟩ := exists_working configured nonempty room
    exact ⟨room.1, room.2, Safe.commands safe opened, Safe.initValues safe opened noInit sent,
      Safe.reads safe opened noInit ready configured⟩
  · intro laidOut run
    exact along_of_invariant opened.backed (fun _ s backed => backed.next s) fun _ s backed => inStorage laidOut backed s

/-- The output stays in the vectors; with an offset of 200 it does not, and is accepted all the same. -/
theorem memory_safe_pwm :
    (∀ run, Along (next (pwmData 0x01)) (InStorage (pwmData 0x01)) (setUp (pwmData 0x01) boardCall) run) ∧
      ¬∀ run, Along (next farPwmData) (InStorage farPwmData) (setUp farPwmData boardCall) run := by
  constructor
  · apply (memory_safe_iff (pwmData 0x01) _ pwm_keep_bytes_configured (by decide)).mpr
    exact ⟨by decide, by decide, by decide, by decide, by decide⟩
  · intro safe
    have laidOut := (memory_safe_iff farPwmData _ (configured_setUp rfl rfl) (by decide)).mp safe
    exact absurd laidOut.commands (by decide)

end SlaveDevice

end EcatMaster.Slave
