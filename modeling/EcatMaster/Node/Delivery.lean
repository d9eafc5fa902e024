import EcatMaster.Library.Progress
import EcatMaster.Node.Shutdown
import EcatMaster.Node.Wire
import EcatMaster.Slave.Registers

/-! A command on its way to the wire.

A callback only stores its command; the frames leave the program in the data thread. As
long as the slave stays in work, each of its frames carries the last command for a task,
and such a frame comes after a bounded number of turns of the data thread.
-/

set_option autoImplicit false

namespace EcatMaster.Slave
open Library Library.Register Config Tasks

namespace SlaveDevice
variable {data : ConfigurationParser} {d : SlaveDevice UInt8} {j : Nat} {task : TaskWrapper}

structure InWork (d : SlaveDevice UInt8) : Prop where
  ready : d.isReady = true
  status : MASTER_READY ≤ d.masterStatus

def KeepsWork : Step → Prop
  | .receiveFromSlave _ | .process _ | .transferToSlave | .recoverState | .onCommand _ _ => True
  | .exitReset | .preRecover | .init _ | .resetState | .connectionLost => False

theorem inWork_next {s : Step} (work : InWork d) (keeps : KeepsWork s) : InWork (next data d s) := by
  cases s with
  | process currentTime =>
    cases configured : d.isConfigured with
    | false => rwa [next_process_skipped configured]
    | true =>
      rw [next_process configured]
      refine ⟨?_, statusAfter_ready work.status⟩
      simp only [readyAfter, work.ready, Bool.true_or]
  | onCommand k msg =>
    rw [next_onCommand]
    exact ⟨work.ready, work.status⟩
  | receiveFromSlave inputs => exact ⟨work.ready, work.status⟩
  | transferToSlave => exact work
  | recoverState => exact ⟨rfl, work.status⟩
  | _ => exact keeps.elim

/-- The step neither takes the slave out of work nor stores to the region of the task. -/
def Steady (j : Nat) (task : TaskWrapper) : Step → Prop
  | .receiveFromSlave _ | .process _ | .transferToSlave | .recoverState => True
  | .onCommand k msg => k = j → (task.body.onCommand (β := UInt8) msg).isNone = true
  | .exitReset | .preRecover | .init _ | .resetState | .connectionLost => False

instance (j : Nat) (task : TaskWrapper) (s : Step) : Decidable (Steady j task s) :=
  match s with
  | .receiveFromSlave _ | .process _ | .transferToSlave | .recoverState => .isTrue trivial
  | .onCommand k msg => inferInstanceAs (Decidable (k = j → (task.body.onCommand (β := UInt8) msg).isNone = true))
  | .exitReset | .preRecover | .init _ | .resetState | .connectionLost => .isFalse id

theorem Steady.keepsWork {s : Step} (steady : Steady j task s) : KeepsWork s := by
  cases s <;> trivial

theorem operations_steady {s : Step} (work : InWork d) (steady : Steady j task s) : operations j task d s = [] := by
  cases s with
  | process currentTime =>
    have stores : spills task d = [] := by rw [spills, sendingWrites_ready work.status]; rfl
    have restores : handovers task d = [] := by simp [handovers, handshakes, readyAfter, work.ready]
    rw [operations, stores, restores]
    split <;> rfl
  | onCommand k msg =>
    rw [operations]
    split
    case isTrue own =>
      rw [Option.isNone_iff_eq_none.mp (steady own)]
      rfl
    case isFalse => rfl
  | receiveFromSlave inputs => rfl
  | transferToSlave => rfl
  | recoverState => rfl
  | _ => exact steady.elim

/-- The region of the task holds this command, and the slave is in work. -/
structure Carrying (j : Nat) (task : TaskWrapper) (bytes : List UInt8) (d : SlaveDevice UInt8) : Prop where
  work : InWork d
  placed : Placed j task d
  holds : (d.register task).live.take bytes.length = bytes

theorem carrying_next {bytes : List UInt8} {s : Step} (carrying : Carrying j task bytes d) (steady : Steady j task s) :
    Carrying j task bytes (next data d s) where
  work := inWork_next carrying.work steady.keepsWork
  placed := carrying.placed.next s
  holds := by
    rw [register_next carrying.placed, operations_steady carrying.work steady]
    exact carrying.holds

theorem carrying_command {msg : CommandMessage} {handler : Io.Cursor UInt8 → Io.Cursor UInt8} (work : InWork d)
    (placed : Placed j task d) (subscribed : task.body.onCommand msg = some handler) :
    Carrying j task (task.body.commandBytes msg) (next data d (.onCommand j msg)) where
  work := by
    rw [next_onCommand]
    exact ⟨work.ready, work.status⟩
  placed := placed.next _
  holds := by
    have fits : (task.body.commandBytes msg).length ≤ (d.register task).live.length := by
      have bound := task.body.length_commandBytes_le msg subscribed
      have inside := placed.inside
      have allocated := placed.allocated
      unfold Allocated at allocated
      rw [live_eq placed, window, List.length_take, List.length_drop]
      omega
    rw [register_next placed, operations, if_pos rfl, subscribed]
    exact take_overlay fits

theorem carrying_frame {bytes : List UInt8} (carrying : Carrying j task bytes d)
    (within : bytes.length ≤ task.body.regionLength) :
    window d.transferToSlave.data task.pdowriteOffset.toNat bytes.length = bytes := by
  have bytesOf : d.transferToSlave.data = d.commandArea := List.map_id _
  rw [bytesOf]
  refine Eq.trans ?_ carrying.holds
  change window _ _ _ = List.take _ (List.take _ _)
  rw [List.take_take, Nat.min_eq_left within]
  rfl

end SlaveDevice

end EcatMaster.Slave

namespace EcatMaster.Node
open Library Config Slave SlaveDevice Tasks

namespace Threads
variable {data : ConfigurationParser} {i j : Nat} {task : TaskWrapper}

def stepsAt (i : Nat) (t : Threads UInt8) (a : Action) : List Step :=
  (ownAction i (t.target a)).flatMap fun m => (t.stations[i]?.bind fun s => s.stepOf m).toList

/-- The action leaves the slave in work and the region of the task alone. -/
def SteadyAt (i j : Nat) (task : TaskWrapper) (t : Threads UInt8) (a : Action) : Prop :=
  ∀ s ∈ t.stepsAt i a, Steady j task s

instance (i j : Nat) (task : TaskWrapper) (t : Threads UInt8) (a : Action) : Decidable (SteadyAt i j task t a) :=
  inferInstanceAs (Decidable (∀ _ ∈ _, _))

theorem station_next (data : ConfigurationParser) (t : Threads UInt8) (a : Action) {s : Station UInt8}
    (here : t.stations[i]? = some s) :
    ∃ s', (t.next data a).stations[i]? = some s' ∧
      s'.device = exec (SlaveDevice.next data) s.device (t.stepsAt i a) := by
  rw [next_stations, getElem?_aimed, here, stepsAt, here, Option.map_some]
  refine ⟨_, rfl, ?_⟩
  cases t.target a with
  | none => rfl
  | some aim =>
    obtain ⟨k, m⟩ := aim
    by_cases own : k = i
    · simp only [ownAction, own, if_true, exec, List.flatMap_singleton, Option.bind_some]
      exact Station.next_steps s m
    · simp only [ownAction, own, if_false]
      rfl

def CarriedAt (i j : Nat) (task : TaskWrapper) (bytes : List UInt8) (t : Threads UInt8) : Prop :=
  ∃ s, t.stations[i]? = some s ∧ Carrying j task bytes s.device

theorem carriedAt_next {bytes : List UInt8} {t : Threads UInt8} {a : Action} (carried : CarriedAt i j task bytes t)
    (steady : SteadyAt i j task t a) : CarriedAt i j task bytes (t.next data a) := by
  obtain ⟨s, here, carrying⟩ := carried
  obtain ⟨s', there, device⟩ := station_next data t a here
  refine ⟨s', there, ?_⟩
  rw [device]
  have run : Along (SlaveDevice.next data) (fun _ step => Steady j task step) s.device (t.stepsAt i a) :=
    along_of_forall _ steady
  exact run.exec_invariant carrying fun d step carrying steady => carrying_next carrying steady

theorem frame_carried {bytes : List UInt8} {t : Threads UInt8} {run : List Action} {frame : Frame}
    (carried : CarriedAt i j task bytes t) (steady : Along (next data) (SteadyAt i j task) t run)
    (within : bytes.length ≤ task.body.regionLength) (sent : .frame i frame ∈ log data t run) :
    window frame.data task.pdowriteOffset.toNat bytes.length = bytes := by
  obtain ⟨first, a, rest, rfl, marked⟩ := mem_labels sent
  obtain ⟨s, found, rfl⟩ := frame_marked marked
  have before := ((along_append _ _ _).mp steady).1
  obtain ⟨s', here, carrying⟩ := before.exec_invariant carried fun _ _ carried steady => carriedAt_next carried steady
  cases here.symm.trans found
  exact carrying_frame carrying within

/-- The data thread is in its loop, and no exit has been requested. -/
structure Cycling (i : Nat) (t : Threads UInt8) : Prop where
  started : t.data ≠ .absent
  stays : t.data.leaves = false
  running : t.running = true
  exiting : t.exiting = false
  idle : t.shutdown = .idle
  inside : i < t.stations.length

theorem cycling_next (data : ConfigurationParser) {t : Threads UInt8} {a : Action} (cycling : Cycling i t)
    (other : a.isShutdown = false) :
    Cycling i (t.next data a) := by
  have inside := cycling.inside
  rw [← length_next data t a] at inside
  cases a with
  | shutdown => cases other
  | data io =>
    refine ⟨fun absent => ?_, Bool.eq_false_iff.mpr fun leaves => ?_, cycling.running, cycling.exiting, cycling.idle,
      inside⟩
    · exact cycling.started (dataStep_absent (show DataStep t t.data .absent from absent ▸ t.dataStep))
    · rcases dataStep_leaves t.dataStep leaves with before | stopped
      · rw [cycling.stays] at before
        cases before
      · rw [cycling.running] at stopped
        cases stopped
  | _ => exact ⟨cycling.started, cycling.stays, cycling.running, cycling.exiting, cycling.idle, inside⟩

/-- The turns of the data thread before it stands before the transfer of slave `i`. -/
def transferLeft (slaves i : Nat) : DataPhase → Nat
  | .transfer k => if k ≤ i then i - k else slaves - k + 1 + (4 * slaves + i + 8)
  | .exitReset k => slaves - k + 1 + i
  | .exitCheck => i + 1
  | .process k => slaves - k + 1 + (i + 1)
  | .checkReady k => slaves - k + 1 + (slaves + i + 2)
  | .receive k => slaves - k + 1 + (2 * slaves + i + 3)
  | .exchange => 3 * slaves + i + 5
  | .loop => 3 * slaves + i + 6
  | .starting | .send => 3 * slaves + i + 7
  | .absent | .cleanup _ | .ended => 0

def sendLeft (i : Nat) (t : Threads UInt8) : Nat := transferLeft t.stations.length i t.data

theorem transferLeft_step {t : Threads UInt8} {place after : DataPhase} (step : DataStep t place after)
    (running : t.running = true) (noExit : t.exiting = false) (started : place ≠ .absent)
    (stays : place.leaves = false) (inside : i < t.stations.length) (elsewhere : place ≠ .transfer i) :
    transferLeft t.stations.length i after + 1 ≤ transferLeft t.stations.length i place := by
  cases step with
  | absent => exact absurd rfl started
  | leave stopped =>
    rw [running] at stopped
    cases stopped
  | reset exiting pending =>
    rw [noExit] at exiting
    cases exiting
  | cleanup more => cases stays
  | cleaned done => cases stays
  | ended => cases stays
  | transfer more =>
    rename_i k
    have apart : k ≠ i := fun same => elsewhere (congrArg DataPhase.transfer same)
    simp only [transferLeft]
    split_ifs <;> omega
  | transferred done =>
    simp only [transferLeft]
    split_ifs <;> omega
  | _ =>
    simp only [transferLeft, Nat.zero_le, if_true]
    omega

theorem transfer_reached (data : ConfigurationParser) {t : Threads UInt8} {run : List Action} (cycling : Cycling i t)
    (noShutdown : ∀ a ∈ run, a.isShutdown = false)
    (turns : 6 * t.stations.length + 9 ≤ run.countP Action.isData) :
    ∃ first rest, run = first ++ rest ∧ (exec (next data) t first).data = .transfer i := by
  have step : ∀ (s : Threads UInt8) (a : Action), Cycling i s → a.isShutdown = false → ¬s.data = .transfer i →
      (s.next data a).data = .transfer i ∨
        Cycling i (s.next data a) ∧ sendLeft i (s.next data a) + a.isData.toNat ≤ sendLeft i s := by
    intro s a cycling other elsewhere
    refine Or.inr ⟨cycling_next data cycling other, ?_⟩
    rw [sendLeft, length_next, sendLeft]
    by_cases turn : a.isData = true
    · cases a with
      | data io =>
        exact transferLeft_step s.dataStep cycling.running cycling.exiting cycling.started cycling.stays cycling.inside
          elsewhere
      | _ => cases turn
    · rw [(next_other data s (Bool.eq_false_iff.mpr turn)).1, Bool.eq_false_iff.mpr turn]
      exact Nat.le_refl _
  refine Along.reaches (Q := fun s => s.data = .transfer i) step cycling (along_of_forall t noShutdown)
    (Nat.lt_of_lt_of_le ?_ turns)
  have inside := cycling.inside
  rw [sendLeft]
  cases t.data <;> simp only [transferLeft]
  all_goals first | omega | (split_ifs <;> omega)

theorem transfer_made (data : ConfigurationParser) {t : Threads UInt8} {run : List Action}
    (phase : t.data = .transfer i)
    (inside : i < t.stations.length) (turn : 1 ≤ run.countP Action.isData) :
    ∃ frame, .frame i frame ∈ log data t run := by
  induction run generalizing t with
  | nil => cases turn
  | cons a run ih =>
    by_cases here : a.isData = true
    · cases a with
      | data io =>
        have marked : t.marks (.data io) = _ := dataMarks_transfer phase inside
        rw [log, labels, marked]
        exact ⟨_, List.mem_append_left _ (List.mem_singleton_self _)⟩
      | _ => cases here
    · have other := Bool.eq_false_iff.mpr here
      rw [List.countP_cons_of_neg here] at turn
      have inside' := inside
      rw [← length_next data t a] at inside'
      obtain ⟨frame, sent⟩ := ih (t := t.next data a) ((next_other data t other).1.trans phase) inside' turn
      exact ⟨frame, List.mem_append_right _ sent⟩

/-- A node at work, with one slave. -/
def workingNode : Threads UInt8 where
  stations := [.start { motorBoard with isReady := true, isArgSent := true, masterStatus := MASTER_READY }]
  data := .loop
  checker := .loop
  shutdown := .idle
  running := true
  exiting := false
  exitingResetCalled := false
  inOperational := true
  allSlaveReady := true
  wkc := 1
  expectedWkc := 1
  docheckstate := false

/-- Data cycles with a command for the other task among them. -/
def busyRun : List Action := List.replicate 8 silent ++ .command 0 0 (.writeOnBoardPWM 1 2 3 4) :: List.replicate 8 silent

end Threads

end EcatMaster.Node
