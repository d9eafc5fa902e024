import EcatMaster.Node.Setup
import EcatMaster.Library.Families

/-! The threads of a running node.

The data thread, the state checker, `on_shutdown` and the subscriptions share the
slaves and the flags of the node. An action is what one of them does without giving
a lock away or reading a shared flag again, so every order of actions is one of the
interleavings of the program. What the bus and SOEM answer is part of the action.
-/

set_option autoImplicit false

namespace EcatMaster.Node
open Library Config Slave Tasks

/-- `datacycle_callback`; a loop over the slaves stands before the slave with its index. -/
inductive DataPhase where
  | absent
  | starting
  | loop
  | exchange
  | receive (slave : Nat)
  | checkReady (slave : Nat)
  | process (slave : Nat)
  | exitCheck
  | exitReset (slave : Nat)
  | transfer (slave : Nat)
  | send
  | cleanup (slave : Nat)
  | ended
  deriving DecidableEq, Repr

/-- `state_check_callback`; within a pass the station of the slave knows the section. -/
inductive CheckerPhase where
  | absent
  | loop
  | pass (slave : Nat)
  | ended
  deriving DecidableEq, Repr

/-- `on_shutdown`, before and within its call. -/
inductive ShutdownPhase where
  | idle
  | waiting
  | stopping
  | joinData
  | joinChecker
  | closing
  | closed
  deriving DecidableEq, Repr

structure Threads (β : Type) where
  stations : List (Station β)
  data : DataPhase
  checker : CheckerPhase
  shutdown : ShutdownPhase
  running : Bool
  exiting : Bool
  exitingResetCalled : Bool
  inOperational : Bool
  allSlaveReady : Bool
  wkc : Int
  expectedWkc : Int
  docheckstate : Bool

/-- What the bus and the clock give to the data thread. -/
structure Exchange where
  wkc : Int
  inputs : Inputs
  currentTime : Int
  deriving DecidableEq

inductive Action where
  | data (io : Exchange)
  /-- With what `rclcpp::ok` says and SOEM answers. -/
  | check (ok : Bool) (answer : Answer)
  | shutdown
  | command (slave task : Nat) (msg : CommandMessage)
  deriving DecidableEq

def Action.isData : Action → Bool
  | .data _ => true
  | _ => false

def Action.isCheck : Action → Bool
  | .check _ _ => true
  | _ => false

def Action.isShutdown : Action → Bool
  | .shutdown => true
  | _ => false

/-- What leaves the program. -/
inductive Mark where
  | systemStarted
  /-- The exit reset comes to a slave; `written` tells whether it writes the initial values. -/
  | exitReset (slave : Nat) (written : Bool)
  | frame (slave : Nat) (frame : Frame)
  | send
  | close
  deriving DecidableEq, Repr

/-- The section of the loop body for one slave. -/
def DataPhase.move (io : Exchange) : DataPhase → Option (Nat × Slave.Move)
  | .receive i => some (i, .receiveFromSlave io.inputs)
  | .process i => some (i, .process io.currentTime)
  | .exitReset i => some (i, .exitReset)
  | .transfer i => some (i, .transferToSlave)
  | _ => none

def CheckerPhase.move (answer : Answer) : CheckerPhase → Option (Nat × Slave.Move)
  | .pass i => some (i, .check answer)
  | _ => none

namespace Threads
variable {β : Type}

def target (t : Threads β) : Action → Option (Nat × Slave.Move)
  | .data io => t.data.move io
  | .check _ answer => t.checker.move answer
  | .shutdown => none
  | .command i task msg => some (i, .onCommand task msg)

/-- `*slave->get_slave_status_ptr() < SLAVE_CONFIRM_READY || !slave->is_ready()` is false. -/
def confirmed (s : Station β) : Bool := SLAVE_CONFIRM_READY ≤ s.device.slaveStatus && s.device.isReady

def nextSlave (t : Threads β) (i : Nat) (turn : Nat → DataPhase) (done : DataPhase) : DataPhase :=
  if i < t.stations.length then turn (i + 1) else done

def dataNext (t : Threads β) : DataPhase :=
  match t.data with
  | .absent => .absent
  | .starting => .loop
  | .loop => if t.running then .exchange else .cleanup 0
  | .exchange => .receive 0
  | .receive i => t.nextSlave i .receive (if t.allSlaveReady then .process 0 else .checkReady 0)
  -- The first slave that is not confirmed ends the loop.
  | .checkReady i => if t.stations[i]?.any confirmed then .checkReady (i + 1) else .process 0
  | .process i => t.nextSlave i .process .exitCheck
  | .exitCheck => if t.exiting && !t.exitingResetCalled then .exitReset 0 else .transfer 0
  | .exitReset i => t.nextSlave i .exitReset (.transfer 0)
  | .transfer i => t.nextSlave i .transfer .send
  | .send => .loop
  | .cleanup i => t.nextSlave i .cleanup .ended
  | .ended => .ended

def allReady (t : Threads β) : Bool :=
  match t.data with
  | .checkReady i => t.stations.length ≤ i
  | _ => false

def resetDone (t : Threads β) : Bool :=
  match t.data with
  | .exitReset i => t.stations.length ≤ i
  | _ => false

def dataTurn (io : Exchange) (t : Threads β) : Threads β :=
  { t with
    data := t.dataNext
    inOperational := t.inOperational || t.data == .starting
    wkc := if t.data = .exchange then io.wkc else t.wkc
    allSlaveReady := t.allSlaveReady || t.allReady
    exitingResetCalled := t.exitingResetCalled || t.resetDone }

def needsCheck (t : Threads β) : Bool := t.inOperational && (t.wkc < t.expectedWkc || t.docheckstate)

/-- Where the checker goes; a pass stays at a slave until the last section of its body. -/
def checkNext (ok : Bool) (t : Threads β) : CheckerPhase :=
  match t.checker with
  | .absent => .absent
  | .loop => if t.running && ok then if t.needsCheck then .pass 0 else .loop else .ended
  | .pass i =>
    match t.stations[i]? with
    | none => .loop
    | some s => if s.phase = .tail then .pass (i + 1) else .pass i
  | .ended => .ended

def notOperational (s : Station β) : Bool := s.phase == .branch && s.state != EC_STATE_OPERATIONAL

/-- Cleared where a pass starts, set where it finds a slave that is not operational. -/
def docheckNext (ok : Bool) (t : Threads β) : Bool :=
  match t.checker with
  | .loop => t.docheckstate && !(t.running && ok && t.needsCheck)
  | .pass i => t.docheckstate || t.stations[i]?.any notOperational
  | _ => t.docheckstate

def checkTurn (ok : Bool) (t : Threads β) : Threads β :=
  { t with checker := t.checkNext ok, docheckstate := t.docheckNext ok }

/-- A thread that was not started cannot be joined. -/
def dataJoins (t : Threads β) : Bool := t.data == .ended || t.data == .absent

def checkerJoins (t : Threads β) : Bool := t.checker == .ended || t.checker == .absent

def shutdownNext (t : Threads β) : ShutdownPhase :=
  match t.shutdown with
  | .idle => .waiting
  | .waiting => if t.exitingResetCalled then .stopping else .waiting
  | .stopping => .joinData
  | .joinData => if t.dataJoins then .joinChecker else .joinData
  | .joinChecker => if t.checkerJoins then .closing else .joinChecker
  | .closing => .closed
  | .closed => .closed

def shutdownTurn (t : Threads β) : Threads β :=
  { t with
    shutdown := t.shutdownNext
    exiting := t.exiting || t.shutdown == .idle
    running := t.running && t.shutdown != .stopping }

def control (t : Threads β) : Action → Threads β
  | .data io => t.dataTurn io
  | .check ok _ => t.checkTurn ok
  | .shutdown => t.shutdownTurn
  | .command _ _ _ => t

/-- A turn of the data thread, with what it has found. -/
inductive DataStep (t : Threads β) : DataPhase → DataPhase → Prop where
  | absent : DataStep t .absent .absent
  | starting : DataStep t .starting .loop
  | enter (running : t.running = true) : DataStep t .loop .exchange
  | leave (stopped : t.running = false) : DataStep t .loop (.cleanup 0)
  | exchange : DataStep t .exchange (.receive 0)
  | receive {i : Nat} (more : i < t.stations.length) : DataStep t (.receive i) (.receive (i + 1))
  | received {i : Nat} (done : t.stations.length ≤ i) (ready : t.allSlaveReady = true) :
      DataStep t (.receive i) (.process 0)
  | check {i : Nat} (done : t.stations.length ≤ i) (waiting : t.allSlaveReady = false) :
      DataStep t (.receive i) (.checkReady 0)
  | confirm {i : Nat} (more : i < t.stations.length) : DataStep t (.checkReady i) (.checkReady (i + 1))
  | checked {i : Nat} : DataStep t (.checkReady i) (.process 0)
  | process {i : Nat} (more : i < t.stations.length) : DataStep t (.process i) (.process (i + 1))
  | processed {i : Nat} (done : t.stations.length ≤ i) : DataStep t (.process i) .exitCheck
  | reset (exiting : t.exiting = true) (pending : t.exitingResetCalled = false) :
      DataStep t .exitCheck (.exitReset 0)
  | keep (other : ¬(t.exiting = true ∧ t.exitingResetCalled = false)) : DataStep t .exitCheck (.transfer 0)
  | exitReset {i : Nat} (more : i < t.stations.length) : DataStep t (.exitReset i) (.exitReset (i + 1))
  | resetDone {i : Nat} (done : t.stations.length ≤ i) : DataStep t (.exitReset i) (.transfer 0)
  | transfer {i : Nat} (more : i < t.stations.length) : DataStep t (.transfer i) (.transfer (i + 1))
  | transferred {i : Nat} (done : t.stations.length ≤ i) : DataStep t (.transfer i) .send
  | send : DataStep t .send .loop
  | cleanup {i : Nat} (more : i < t.stations.length) : DataStep t (.cleanup i) (.cleanup (i + 1))
  | cleaned {i : Nat} (done : t.stations.length ≤ i) : DataStep t (.cleanup i) .ended
  | ended : DataStep t .ended .ended

theorem dataStep (t : Threads β) : DataStep t t.data t.dataNext := by
  unfold dataNext nextSlave
  cases t.data with
  | absent => exact .absent
  | starting => exact .starting
  | loop =>
    dsimp only
    split_ifs with running
    · exact .enter running
    · exact .leave (Bool.eq_false_iff.mpr running)
  | exchange => exact .exchange
  | receive i =>
    dsimp only
    split_ifs with more ready
    · exact .receive more
    · exact .received (Nat.not_lt.mp more) ready
    · exact .check (Nat.not_lt.mp more) (Bool.eq_false_iff.mpr ready)
  | checkReady i =>
    dsimp only
    split_ifs with found
    · cases here : t.stations[i]? with
      | none =>
        rw [here] at found
        cases found
      | some s => exact .confirm (List.getElem?_eq_some_iff.mp here).1
    · exact .checked
  | process i =>
    dsimp only
    split_ifs with more
    · exact .process more
    · exact .processed (Nat.not_lt.mp more)
  | exitCheck =>
    dsimp only
    split_ifs with pending
    · simp only [Bool.and_eq_true, Bool.not_eq_true'] at pending
      exact .reset pending.1 pending.2
    · simp only [Bool.and_eq_true, Bool.not_eq_true'] at pending
      exact .keep pending
  | exitReset i =>
    dsimp only
    split_ifs with more
    · exact .exitReset more
    · exact .resetDone (Nat.not_lt.mp more)
  | transfer i =>
    dsimp only
    split_ifs with more
    · exact .transfer more
    · exact .transferred (Nat.not_lt.mp more)
  | send => exact .send
  | cleanup i =>
    dsimp only
    split_ifs with more
    · exact .cleanup more
    · exact .cleaned (Nat.not_lt.mp more)
  | ended => exact .ended

theorem dataNext_transfer {t : Threads β} {i : Nat} (phase : t.data = .transfer i) (more : i < t.stations.length) :
    t.dataNext = .transfer (i + 1) := by
  rw [dataNext, phase]
  exact if_pos more

theorem dataNext_transferred {t : Threads β} {i : Nat} (phase : t.data = .transfer i)
    (done : t.stations.length ≤ i) : t.dataNext = .send := by
  rw [dataNext, phase]
  exact if_neg (Nat.not_lt.mpr done)

theorem dataNext_send {t : Threads β} (phase : t.data = .send) : t.dataNext = .loop := by
  rw [dataNext, phase]

inductive ShutdownStep (t : Threads β) : ShutdownPhase → ShutdownPhase → Prop where
  | call : ShutdownStep t .idle .waiting
  | wait (pending : t.exitingResetCalled = false) : ShutdownStep t .waiting .waiting
  | called (done : t.exitingResetCalled = true) : ShutdownStep t .waiting .stopping
  | stop : ShutdownStep t .stopping .joinData
  | waitData (runs : t.dataJoins = false) : ShutdownStep t .joinData .joinData
  | joinData (joins : t.dataJoins = true) : ShutdownStep t .joinData .joinChecker
  | waitChecker (runs : t.checkerJoins = false) : ShutdownStep t .joinChecker .joinChecker
  | joinChecker (joins : t.checkerJoins = true) : ShutdownStep t .joinChecker .closing
  | close : ShutdownStep t .closing .closed
  | closed : ShutdownStep t .closed .closed

theorem shutdownStep (t : Threads β) : ShutdownStep t t.shutdown t.shutdownNext := by
  unfold shutdownNext
  cases t.shutdown with
  | idle => exact .call
  | waiting =>
    dsimp only
    split_ifs with called
    · exact .called called
    · exact .wait (Bool.eq_false_iff.mpr called)
  | stopping => exact .stop
  | joinData =>
    dsimp only
    split_ifs with joins
    · exact .joinData joins
    · exact .waitData (Bool.eq_false_iff.mpr joins)
  | joinChecker =>
    dsimp only
    split_ifs with joins
    · exact .joinChecker joins
    · exact .waitChecker (Bool.eq_false_iff.mpr joins)
  | closing => exact .close
  | closed => exact .closed

section Cells
variable [Cell β] (data : ConfigurationParser)

def next (t : Threads β) (a : Action) : Threads β :=
  { t.control a with stations := aimed (Station.next data) t.stations (t.target a) }

variable {data}

def dataMarks (t : Threads β) : List Mark :=
  match t.data with
  | .checkReady i => if i < t.stations.length then [] else [.systemStarted]
  | .exitReset i => (t.stations[i]?.map fun s => .exitReset i s.device.isArgSent).toList
  | .transfer i => (t.stations[i]?.map fun s => .frame i s.device.transferToSlave).toList
  | .send => [.send]
  | _ => []

def marks (t : Threads β) : Action → List Mark
  | .data _ => t.dataMarks
  | .shutdown => if t.shutdown = .closing then [.close] else []
  | _ => []

def log (data : ConfigurationParser) (t : Threads β) (run : List Action) : List Mark := labels (next data) marks t run

/-- The node as its setup leaves it. -/
def start (n : EthercatNode β) (expectedWkc : Int) : Threads β where
  stations := n.slaves.slaveDevices.map .start
  data := if n.dataThread then .starting else .absent
  checker := if n.checkerThread then .loop else .absent
  shutdown := .idle
  running := n.running
  exiting := n.exiting
  exitingResetCalled := n.exitingResetCalled
  inOperational := false
  allSlaveReady := false
  wkc := 0
  expectedWkc
  docheckstate := false

theorem dataMarks_transfer {t : Threads β} {i : Nat} (phase : t.data = .transfer i) (more : i < t.stations.length) :
    t.dataMarks = [.frame i (t.stations.get ⟨i, more⟩).device.transferToSlave] := by
  simp only [dataMarks, phase, List.getElem?_eq_getElem more]
  rfl

theorem dataMarks_exitReset {t : Threads β} {i : Nat} (phase : t.data = .exitReset i) (more : i < t.stations.length) :
    t.dataMarks = [.exitReset i (t.stations.get ⟨i, more⟩).device.isArgSent] := by
  simp only [dataMarks, phase, List.getElem?_eq_getElem more]
  rfl

theorem dataMarks_send {t : Threads β} (phase : t.data = .send) : t.dataMarks = [.send] := by
  rw [dataMarks, phase]

theorem next_other (data : ConfigurationParser) (t : Threads β) {a : Action} (other : a.isData = false) :
    (t.next data a).data = t.data ∧ (t.next data a).exitingResetCalled = t.exitingResetCalled := by
  cases a with
  | data io => cases other
  | _ => exact ⟨rfl, rfl⟩

/-- The slaves are a family of stations, each of which runs on what is aimed at it. -/
theorem next_stations (t : Threads β) (a : Action) :
    (t.next data a).stations = aimed (Station.next data) t.stations (t.target a) := rfl

theorem length_next (data : ConfigurationParser) (t : Threads β) (a : Action) :
    (t.next data a).stations.length = t.stations.length :=
  length_aimed ..

/-- The sections of the checker that are left at a slave. -/
def sectionsLeft : Phase → Nat
  | .idle => 5
  | .branch => 4
  | .reconfig => 3
  | .reset => 2
  | .tail => 1

theorem sectionsLeft_le (phase : Phase) : 1 ≤ sectionsLeft phase ∧ sectionsLeft phase ≤ 5 := by
  cases phase <;> decide

omit [Cell β] in
theorem advance_nearer (s : Station β) (device : SlaveDevice β) (answer : Answer) (more : s.phase ≠ .tail) :
    sectionsLeft (s.advance device answer).phase + 1 ≤ sectionsLeft s.phase := by
  unfold Station.advance
  cases phase : s.phase with
  | idle => exact Nat.le_refl _
  | branch =>
    dsimp only
    cases s.branch with
    | restarted =>
      dsimp only
      cases answer.succeeds
      · exact (by decide : 2 ≤ 4)
      · exact (by decide : 4 ≤ 4)
    | _ => exact (by decide : 2 ≤ 4)
  | reconfig =>
    dsimp only
    split_ifs <;> exact Nat.le_refl _
  | reset => exact Nat.le_refl _
  | tail => exact absurd phase more

theorem next_phase (s : Station β) {m : Slave.Move} (other : ∀ answer, m ≠ .check answer) :
    (s.next data m).phase = s.phase := by
  cases m with
  | check answer => exact absurd rfl (other answer)
  | _ => rfl

omit [Cell β] in
theorem target_other {t : Threads β} {a : Action} (other : a.isCheck = false) {i : Nat} {m : Slave.Move}
    (aim : t.target a = some (i, m)) (answer : Answer) : m ≠ .check answer := by
  rintro rfl
  cases a with
  | check ok answer => cases other
  | shutdown => cases aim
  | command slave task msg => cases aim
  | data io =>
    rw [target] at aim
    unfold DataPhase.move at aim
    split at aim <;> cases aim

theorem other_phase (data : ConfigurationParser) (t : Threads β) {a : Action} (other : a.isCheck = false) (i : Nat) :
    (t.next data a).stations[i]?.map Station.phase = t.stations[i]?.map Station.phase :=
  map_aimed (fun _ _ aim s => next_phase s (target_other other aim)) t.stations i

/-- A section of a pass: the pass is over, it goes on to the next slave, or it stays at this one. -/
theorem check_pass (data : ConfigurationParser) {t : Threads β} {i : Nat} (phase : t.checker = .pass i)
    (ok : Bool) (answer : Answer) :
    (t.stations[i]? = none ∧ t.checkNext ok = .loop) ∨
    ∃ s, t.stations[i]? = some s ∧
      (t.next data (.check ok answer)).stations[i]? = some (s.next data (.check answer)) ∧
      (s.phase = .tail ∧ t.checkNext ok = .pass (i + 1) ∧ (s.next data (.check answer)).phase = .idle ∨
        s.phase ≠ .tail ∧ t.checkNext ok = .pass i ∧
          sectionsLeft (s.next data (.check answer)).phase + 1 ≤ sectionsLeft s.phase) := by
  cases here : t.stations[i]? with
  | none =>
    refine Or.inl ⟨rfl, ?_⟩
    rw [checkNext, phase]
    simp only [here]
  | some s =>
    refine Or.inr ⟨s, rfl, ?_, ?_⟩
    · rw [next_stations, getElem?_aimed, here, target, phase, CheckerPhase.move, ownAction, if_pos rfl]
      rfl
    · by_cases last : s.phase = .tail
      case pos =>
        refine Or.inl ⟨last, ?_, ?_⟩
        · rw [checkNext, phase]
          simp only [here, last, if_true]
        · rw [Station.next, Station.advance, last]
      case neg =>
        refine Or.inr ⟨last, ?_, advance_nearer s _ answer last⟩
        rw [checkNext, phase]
        simp only [here, last, if_false]

end Cells

end Threads

def silent : Action := .data ⟨0, ⟨0, []⟩, 0⟩

def silentCheck : Action := .check true ⟨EC_STATE_NONE, none, false⟩

def receiverNode : EthercatNode UInt8 :=
  started (receiverBus fun _ => EC_STATE_OPERATIONAL)
    ⟨[48, 48, 56, 0], rfl, [(SlaveDevice.init receiverData boardCall SlaveDevice.new).2]⟩
    [SlaveDevice.setUp receiverData boardCall]

theorem receiver_setup :
    setupEcat receiverData (receiverBus fun _ => EC_STATE_OPERATIONAL) = .ok (true, receiverNode) := rfl

end EcatMaster.Node
