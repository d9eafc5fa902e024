import EcatMaster.Library.Registers
import EcatMaster.Slave.Commands
import EcatMaster.Slave.Identity
import EcatMaster.Slave.Regions

/-! The command buffer as a bank of registers.

The region of a task is a register with a live value in the command buffer and a saved
one in the backup. What a step of the device does to it is known from the task alone:
no other task takes part in it.
-/

set_option autoImplicit false

namespace EcatMaster.Slave
open Library Library.Register Config Tasks

namespace SlaveDevice

def register (task : TaskWrapper) (d : SlaveDevice UInt8) : Register UInt8 where
  live := window d.commandArea task.pdowriteOffset.toNat task.body.regionLength
  saved := window d.backupArea task.pdowriteOffset.toNat task.body.regionLength

/-- `write_init_values`. -/
def initialisations (task : TaskWrapper) : List (Operation UInt8) := [.clear 0, .store task.body.initBytes]

def spills (task : TaskWrapper) (d : SlaveDevice UInt8) : List (Operation UInt8) :=
  d.sendingWrites.map fun write => .spill task.pdowriteOffset.toNat write.2

def handovers (task : TaskWrapper) (d : SlaveDevice UInt8) : List (Operation UInt8) :=
  if d.handshakes && d.masterStatus != MASTER_READY then
    if d.reconnectedTimes = 0 then initialisations task
    else if d.masterToSlaveBufBackup.size = d.masterToSlaveBufLen.toNat then [.restore]
    else []
  else []

/-- What a step does to the register of the task with index `i`. -/
def operations (i : Nat) (task : TaskWrapper) (d : SlaveDevice UInt8) : Step → List (Operation UInt8)
  | .process _ => if d.isConfigured then spills task d ++ handovers task d else []
  | .exitReset => if d.isArgSent then initialisations task else []
  | .connectionLost => (if task.connectionLostWriteAction = 0x02 then [.store task.body.initBytes] else []) ++ [.save]
  | .onCommand j msg =>
      if j = i then (task.body.onCommand (β := UInt8) msg).toList.map fun _ => .store (task.body.commandBytes msg)
      else []
  | _ => []

/-- The register of a task that shares no byte with the other ones. -/
structure Placed (i : Nat) (task : TaskWrapper) (d : SlaveDevice UInt8) : Prop where
  here : d.taskList[i]? = some task
  apart : ∀ j other, d.taskList[j]? = some other → j ≠ i → RegionsApart other task
  inside : task.pdowriteOffset.toNat + task.body.regionLength ≤ d.masterToSlaveBufLen.toNat
  allocated : d.Allocated
  known : d.sn ≠ 0

section Steps
variable {data : ConfigurationParser} {d : SlaveDevice UInt8} {i : Nat} {task : TaskWrapper}

theorem len_next (data : ConfigurationParser) (d : SlaveDevice UInt8) (known : d.sn ≠ 0) (s : Step) :
    (next data d s).masterToSlaveBufLen = d.masterToSlaveBufLen := by
  cases s with
  | connectionLost => exact (next_kept data d (by simp)).outputLen
  | init call => exact (next_backup data (s := .init call) known).2
  | _ => exact (next_kept data d (by simp)).outputLen

theorem Placed.next (placed : Placed i task d) (s : Step) : Placed i task (next data d s) := by
  have list := (next_setUp data d s).2.2
  refine ⟨?_, ?_, ?_, next_allocated data s placed.allocated, ?_⟩
  · rw [list]
    exact placed.here
  · rw [list]
    exact placed.apart
  · rw [len_next data d placed.known]
    exact placed.inside
  · rw [next_sn placed.known]
    exact placed.known

theorem live_eq (placed : Placed i task d) :
    (d.register task).live = window d.masterToSlaveBuf.storage task.pdowriteOffset.toNat task.body.regionLength :=
  window_take _ placed.inside

theorem live_kept (placed : Placed i task d) {writes : List (Nat × List UInt8)}
    (others : ∀ write ∈ writes, Apart write.1 write.2.length task.pdowriteOffset.toNat task.body.regionLength) :
    window (overwriteAll d.masterToSlaveBuf.storage writes) task.pdowriteOffset.toNat task.body.regionLength =
      (d.register task).live := by
  rw [live_eq placed]
  exact window_overwriteAll_apart _ _ _ _ others

theorem Placed.split (placed : Placed i task d) :
    ∃ before after, d.taskList = before ++ task :: after ∧ ∀ other ∈ before ++ after, RegionsApart other task := by
  obtain ⟨before, after, list, others⟩ := others_split placed.here
  refine ⟨before, after, list, fun other member => ?_⟩
  obtain ⟨j, different, found⟩ := others other member
  exact placed.apart j other found different

theorem window_initialised (placed : Placed i task d) (chosen : TaskWrapper → Bool) (xs : List UInt8) :
    window (overwriteAll xs (initWrites id chosen d.taskList)) task.pdowriteOffset.toNat task.body.regionLength =
      overlay 0 0 (if chosen task then task.body.initBytes else [])
        (window xs task.pdowriteOffset.toNat task.body.regionLength) := by
  obtain ⟨before, after, list, others⟩ := placed.split
  have away : ∀ other ∈ before ++ after, chosen other = true → Apart other.pdowriteOffset.toNat
      other.body.initBytes.length task.pdowriteOffset.toNat task.body.regionLength :=
    fun other member _ => (others other member).initBytes
  rw [list]
  cases taken : chosen task with
  | true => rw [window_initWrites_own taken xs away, window_overwrite, overlay_own, List.map_id, if_pos rfl]
  | false => rw [window_initWrites_skipped taken xs away, if_neg Bool.false_ne_true, overlay_nil]

theorem window_zeroed (xs : List UInt8) {off len n : Nat} (inside : off + len ≤ n) :
    window (overwrite xs 0 (List.replicate n 0)) off len = (window xs off len).map fun _ => 0 := by
  rw [window_overwrite]
  apply List.ext_getElem?
  intro k
  rw [getElem?_overlay, List.getElem?_map, getElem?_window]
  by_cases bound : k < len
  · have zero : (List.replicate n (0 : UInt8))[off + k]? = some 0 := by
      rw [List.getElem?_replicate, if_pos (by omega)]
    simp [zero]
  · simp [bound]

theorem initBytes_subscribers (task : TaskWrapper) :
    (if task.body.hasSubscribers then task.body.initBytes else []) = task.body.initBytes := by
  obtain ⟨_, _, _, _, body⟩ := task
  cases body <;> rfl

theorem live_initialisations (placed : Placed i task d) :
    window (d.initialised d.masterToSlaveBuf).storage task.pdowriteOffset.toNat task.body.regionLength =
      (exec Register.apply (d.register task) (initialisations task)).live := by
  have zeroed := window_zeroed (ByteVec.storage d.masterToSlaveBuf) placed.inside
  rw [← live_eq placed] at zeroed
  have written := window_initialised placed (fun task => task.body.hasSubscribers)
    (overwrite d.masterToSlaveBuf.storage 0 (List.replicate d.masterToSlaveBufLen.toNat 0))
  rw [initBytes_subscribers, zeroed] at written
  exact written

theorem live_sent (placed : Placed i task d) :
    window (overwriteAll d.masterToSlaveBuf.storage d.sendingWrites) task.pdowriteOffset.toNat task.body.regionLength =
      (exec Register.apply (d.register task) (spills task d)).live := by
  unfold spills sendingWrites argWrites
  split_ifs with sending sent
  · exact (live_eq placed).symm
  · change window (overwrite _ _ _) _ _ = overlay _ 0 _ (d.register task).live
    rw [window_overwrite, live_eq placed]
  · exact (live_eq placed).symm

theorem live_restored (placed : Placed i task d) (taken : d.handshakes = true) :
    window (d.restored d.masterToSlaveBuf).storage task.pdowriteOffset.toNat task.body.regionLength =
      (exec Register.apply (d.register task) (handovers task d)).live := by
  rw [← window_take _ placed.inside, take_restored placed.allocated]
  unfold writesInitValues handedOver handovers
  by_cases ready : d.masterStatus = MASTER_READY
  · simp only [ready, ne_eq, not_true_eq_false, false_and, if_false, bne_self_eq_false, Bool.and_false,
      Bool.false_eq_true]
    rfl
  · by_cases first : d.reconnectedTimes = 0
    · simp only [ready, first, taken, ne_eq, not_false_eq_true, and_self, if_true, bne_iff_ne, Bool.and_eq_true]
      rw [window_take _ placed.inside]
      exact live_initialisations placed
    · by_cases kept : d.masterToSlaveBufBackup.size = d.masterToSlaveBufLen.toNat
      · simp only [ready, first, kept, taken, ne_eq, not_false_eq_true, and_false, if_true, if_false, and_self,
          bne_iff_ne, Bool.and_eq_true]
        rfl
      · simp only [ready, first, kept, taken, ne_eq, not_false_eq_true, and_false, if_true, if_false, and_self,
          bne_iff_ne, Bool.and_eq_true]
        rfl

theorem unsaved_handed (d : SlaveDevice UInt8) (task : TaskWrapper) :
    ∀ op ∈ spills task d ++ handovers task d, op.Unsaved := by
  intro op member
  rcases List.mem_append.mp member with sent | handed
  · obtain ⟨write, _, rfl⟩ := List.mem_map.mp sent
    trivial
  · unfold handovers initialisations at handed
    split_ifs at handed <;> simp at handed
    · rcases handed with rfl | rfl <;> trivial
    · rw [handed]
      trivial

theorem register_process (placed : Placed i task d) (currentTime : Int) (configured : d.isConfigured = true) :
    (next data d (.process currentTime)).register task =
      exec Register.apply (d.register task) (spills task d ++ handovers task d) := by
  have saved := saved_unsaved (d.register task) (unsaved_handed d task)
  have live : window d.bufferAfter.storage task.pdowriteOffset.toNat task.body.regionLength =
      (exec Register.apply (d.register task) (spills task d ++ handovers task d)).live := by
    cases taken : d.handshakes with
    | true =>
      have nothing := sendingWrites_handshake taken
      have none : spills task d = [] := by rw [spills, nothing]; rfl
      rw [none, List.nil_append, ← live_restored placed taken, bufferAfter, taken, if_pos rfl, nothing]
      rfl
    | false =>
      have none : handovers task d = [] := by rw [handovers, taken]; rfl
      rw [none, List.append_nil, ← live_sent placed, bufferAfter, taken]
      rfl
  rw [next_process configured]
  refine congrArg₂ Register.mk ?_ saved.symm
  exact (window_take _ placed.inside).trans live

theorem register_connectionLost (placed : Placed i task d) :
    (next data d .connectionLost).register task =
      exec Register.apply (d.register task) (operations i task d .connectionLost) := by
  have live : ((next data d .connectionLost).register task).live =
      (exec Register.apply (d.register task)
        (if task.connectionLostWriteAction = 0x02 then [.store task.body.initBytes] else [])).live := by
    have written := window_initialised placed (fun task => task.connectionLostWriteAction = 0x02) d.masterToSlaveBuf.storage
    rw [← live_eq placed] at written
    rw [live_eq (placed.next _), next_connectionLost]
    refine written.trans ?_
    by_cases chosen : task.connectionLostWriteAction = 0x02
    · simp only [chosen, decide_true, if_true]
      rfl
    · simp only [chosen, decide_false, if_false, Bool.false_eq_true, overlay_nil]
      rfl
  have saved := (backup_connectionLost data placed.allocated).1
  rw [operations, exec_append]
  refine congrArg₂ Register.mk live ?_
  rw [saved]
  exact live

theorem messageWrites_other {j : Nat} (placed : Placed i task d) (other : j ≠ i) (msg : CommandMessage) :
    ∀ write ∈ d.messageWrites j msg,
      Apart write.1 write.2.length task.pdowriteOffset.toNat task.body.regionLength := by
  intro write member
  rw [messageWrites, Option.mem_toList, Option.bind_eq_some_iff] at member
  obtain ⟨wrapper, there, written⟩ := member
  obtain ⟨handler, subscribed, rfl⟩ := Option.map_eq_some_iff.mp written
  have apart := placed.apart j wrapper there other
  have bound := wrapper.body.length_commandBytes_le msg subscribed
  unfold RegionsApart at apart
  unfold Apart at *
  simp only [List.length_map]
  omega

theorem register_onCommand (placed : Placed i task d) (j : Nat) (msg : CommandMessage) :
    (next data d (.onCommand j msg)).register task =
      exec Register.apply (d.register task) (operations i task d (.onCommand j msg)) := by
  have live : ((next data d (.onCommand j msg)).register task).live =
      (exec Register.apply (d.register task) (operations i task d (.onCommand j msg))).live := by
    rw [live_eq (placed.next _), next_onCommand, operations]
    by_cases own : j = i
    · subst own
      rw [if_pos rfl, messageWrites, placed.here, Option.bind_some, commandWrite]
      cases task.body.onCommand (β := UInt8) msg with
      | none => exact (live_eq placed).symm
      | some handler =>
        change window (overwrite _ _ _) _ _ = overlay 0 0 _ (d.register task).live
        rw [window_overwrite, overlay_own, live_eq placed]
        exact congrArg (overlay 0 0 · _) (List.map_id _)
    · rw [if_neg own]
      exact live_kept placed (messageWrites_other placed own msg)
  have saved : ∀ op ∈ operations i task d (.onCommand j msg), op.Unsaved := by
    intro op member
    rw [operations] at member
    split at member
    · obtain ⟨_, _, rfl⟩ := List.mem_map.mp member
      trivial
    · cases member
  refine congrArg₂ Register.mk live (Eq.trans ?_ (saved_unsaved (d.register task) saved).symm)
  rw [next_onCommand]
  rfl

theorem register_init (placed : Placed i task d) (call : InitCall) :
    (next data d (.init call)).register task = d.register task := by
  have kept := next_backup data (s := .init call) placed.known
  have same : (next data d (.init call)).masterToSlaveBuf = d.masterToSlaveBuf := by
    rcases init_vectors data call d with ⟨same, _⟩ | ⟨unknown, _⟩
    · exact same
    · exact absurd unknown placed.known
  unfold register commandArea backupArea
  rw [kept.1, kept.2, same]

theorem register_next (placed : Placed i task d) (s : Step) :
    (next data d s).register task = exec Register.apply (d.register task) (operations i task d s) := by
  cases s with
  | process currentTime =>
    rw [operations]
    split
    case isTrue configured => exact register_process placed currentTime configured
    case isFalse skipped => rw [next_process_skipped (Bool.eq_false_iff.mpr skipped), exec]
  | exitReset =>
    rw [next_exitReset, operations]
    split
    case isTrue =>
      refine congrArg₂ Register.mk ?_ rfl
      exact (window_take _ placed.inside).trans (live_initialisations placed)
    case isFalse => rfl
  | connectionLost => exact register_connectionLost placed
  | init call => exact register_init placed call
  | onCommand j msg => exact register_onCommand placed j msg
  | _ => rfl

end Steps

/-- A slave with both tasks, each in a region of its own. -/
def motorBoard : SlaveDevice UInt8 :=
  { commandDevice with
    sn := 7
    isConfRosDone := true
    isEcatConfDone := true
    masterToSlaveBufLen := 20
    masterToSlaveBuf := ⟨List.replicate 24 0, 24, Nat.le_refl 24⟩ }

theorem motorTask_placed : Placed 1 motorTask motorBoard where
  here := rfl
  apart := by
    intro j other found different
    match j with
    | 0 =>
      cases found
      exact (by decide : RegionsApart pwmTask motorTask)
    | 1 => exact absurd rfl different
    | j + 2 => cases found
  inside := by decide
  allocated := (by decide : 20 ≤ 24)
  known := by decide

/-- Commands for both tasks, a lost connection, and another command for the first one. -/
def lostBoard : List Step :=
  [.onCommand 1 motorMessage, .onCommand 0 (.writeOnBoardPWM 1 2 3 4), .connectionLost,
   .onCommand 0 (.writeOnBoardPWM 5 6 7 8), .transferToSlave]

end SlaveDevice

end EcatMaster.Slave
