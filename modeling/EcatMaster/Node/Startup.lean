import EcatMaster.Node.Cycles
import EcatMaster.Slave.Startup

/-! A node comes into work.

The node runs with slaves that follow the protocol. Frames may be lost and answers late,
for each slave in its own way, and the threads take their turns in any order. What a slave
hears and says depends on its own frames only, so its data cycles are those of a slave
that comes into work alone.
-/

set_option autoImplicit false

namespace EcatMaster.Node
open Library Config Slave SlaveDevice Booting Tasks

/-- The node and, for each of its slaves, the frames that have gone out to it, the last one first,
and how many answers to the last frame have been read. -/
structure Network where
  threads : Threads UInt8
  frames : Nat → List Frame
  heard : Nat → Nat

/-- Which thread goes on. A turn of the data thread tells which frame of the slave it stands
before has been answered by now. -/
inductive Tick where
  | data (age : Nat) (bytes : List UInt8) (wkc currentTime : Int)
  | check (ok : Bool) (answer : Answer)
  | shutdown
  | command (slave task : Nat) (msg : CommandMessage)
  deriving DecidableEq

namespace Network
variable (data : ConfigurationParser) (slaves : Nat → Frame → List UInt8 → Inputs)

def reads (n : Network) (age : Nat) (bytes : List UInt8) : Inputs :=
  match n.threads.data with
  | .receive i =>
      answer (slaves i) (n.frames i)
        ((n.threads.stations[i]?.map fun s => s.device.slaveToMasterBufLen.toNat).getD 0) age bytes
  | _ => ⟨SLAVE_INITIALIZING, []⟩

def action (n : Network) : Tick → Action
  | .data age bytes wkc currentTime => .data ⟨wkc, n.reads slaves age bytes, currentTime⟩
  | .check ok answer => .check ok answer
  | .shutdown => .shutdown
  | .command slave task msg => .command slave task msg

def hears (n : Network) (i : Nat) : Tick → Bool
  | .data age _ _ _ => n.threads.data == .receive i && age == 0
  | _ => false

def next (n : Network) (tick : Tick) : Network where
  threads := n.threads.next data (n.action slaves tick)
  frames := fun i => ((n.threads.marks (n.action slaves tick)).filterMap (Threads.frameOf i)).reverse ++ n.frames i
  heard := fun i => n.heard i + (n.hears i tick).toNat

def start (node : EthercatNode UInt8) (expectedWkc : Int) : Network := ⟨.start node expectedWkc, fun _ => [], fun _ => 0⟩

/-- The tick is no command for a slave out of work that reaches the triple after the processing block. -/
def Behind (i : Nat) (n : Network) : Tick → Prop
  | .command k task msg => k = i → n.threads.data.stageAt i = .transfer →
      ∀ s ∈ n.threads.stations[i]?, s.device.isReady = false → ∀ write ∈ s.device.messageWrites task msg, 3 ≤ write.1
  | _ => True

instance (i : Nat) (n : Network) (tick : Tick) : Decidable (Behind i n tick) :=
  match tick with
  | .command k _ _ => inferInstanceAs (Decidable (k = i → _ → ∀ _ ∈ _, _ → ∀ _ ∈ _, _))
  | .data _ _ _ _ | .check _ _ | .shutdown => .isTrue trivial

/-- The slave is left to its data cycles: neither the state checker nor the exit touches it. -/
structure Calm (i : Nat) (n : Network) (tick : Tick) : Prop where
  cycles : n.threads.CyclesAt i (n.action slaves tick)
  behind : n.Behind i tick

instance (i : Nat) (n : Network) (tick : Tick) : Decidable (n.Calm slaves i tick) :=
  decidable_of_iff (n.threads.CyclesAt i (n.action slaves tick) ∧ n.Behind i tick)
    ⟨fun ⟨cycles, behind⟩ => ⟨cycles, behind⟩, fun ⟨cycles, behind⟩ => ⟨cycles, behind⟩⟩

/-- The cycle that is under way has read this. -/
def Heard (inputs : Inputs) : Begun → Prop
  | .idle _ => True
  | .received _ found _ | .processed _ found _ _ _ => found = inputs

/-- What slave `i` of the network has done: the cycles of a slave alone that have led to `b`, and a part
of the next one. -/
structure Follows (slave : Frame → List UInt8 → Inputs) (d : SlaveDevice UInt8) (i : Nat) (n : Network)
    (turns : List Turn) (b : Booting) (begun : Begun) (age : Nat) (bytes : List UInt8) : Prop where
  past : b = exec (Booting.next data slave) (Booting.start d) turns
  undisturbed : Along (Booting.next data slave) Undisturbed (Booting.start d) turns
  device : ∃ s, n.threads.stations[i]? = some s ∧ s.device = exec (SlaveDevice.next data) b.device begun.steps
  stage : begun.stage = n.threads.data.stageAt i
  frames : n.frames i = b.frames
  read : Heard (answer slave b.frames b.device.slaveToMasterBufLen.toNat age bytes) begun
  heard : n.heard i ≤ turns.countP Turn.good + (if begun.stage = .receive then 0 else (age == 0).toNat)
  behind : (exec (SlaveDevice.next data) b.device begun.steps).isReady = false →
    ∀ write ∈ b.device.commandsWrites begun.beforeTransfer, 3 ≤ write.1

section Slave
variable {data slaves} {slave : Frame → List UInt8 → Inputs} {d : SlaveDevice UInt8} {i : Nat} {n : Network}
  {turns : List Turn} {b : Booting} {begun : Begun} {age : Nat} {bytes : List UInt8} {tick : Tick}

theorem Follows.device_next (follows : Follows data slave d i n turns b begun age bytes) {steps : List Step}
    (taken : n.threads.stepsAt i (n.action slaves tick) = steps) :
    ∃ s, (n.next data slaves tick).threads.stations[i]? = some s ∧
      s.device = exec (SlaveDevice.next data) b.device (begun.steps ++ steps) := by
  obtain ⟨s, here, device⟩ := follows.device
  obtain ⟨s', there, after⟩ := Threads.station_next data n.threads (n.action slaves tick) here
  refine ⟨s', there, ?_⟩
  rw [exec_append, ← device, ← taken]
  exact after

theorem Follows.frames_next (follows : Follows data slave d i n turns b begun age bytes) {steps : List Step}
    (taken : n.threads.stepsAt i (n.action slaves tick) = steps) :
    (n.next data slaves tick).frames i =
      (labels (SlaveDevice.next data) stepFrame (exec (SlaveDevice.next data) b.device begun.steps) steps).reverse ++
        b.frames := by
  obtain ⟨s, here, device⟩ := follows.device
  rw [← device, ← taken, ← Threads.frames_next data here, ← follows.frames]
  rfl

theorem Follows.quiet (follows : Follows data slave d i n turns b begun age bytes)
    (none : n.threads.stepsAt i (n.action slaves tick) = [])
    (same : (n.next data slaves tick).threads.data.stageAt i = n.threads.data.stageAt i)
    (unheard : n.hears i tick = false) :
    Follows data slave d i (n.next data slaves tick) turns b begun age bytes where
  past := follows.past
  undisturbed := follows.undisturbed
  device := by simpa using follows.device_next none
  stage := follows.stage.trans same.symm
  frames := follows.frames_next none
  read := follows.read
  heard := by simpa [next, unheard] using follows.heard
  behind := follows.behind

theorem Follows.receive (follows : Follows data (slaves i) d i n turns b begun age bytes) {age' : Nat}
    {bytes' : List UInt8}
    {wkc currentTime : Int} (place : n.threads.data = .receive i)
    (taken : n.threads.stepsAt i (n.action slaves (.data age' bytes' wkc currentTime)) =
      [.receiveFromSlave (n.reads slaves age' bytes')])
    (after : (n.next data slaves (.data age' bytes' wkc currentTime)).threads.data.stageAt i = .process) :
    ∃ begun',
      Follows data (slaves i) d i (n.next data slaves (.data age' bytes' wkc currentTime)) turns b begun' age' bytes' := by
  have waits : begun.stage = .receive := by rw [follows.stage, place, DataPhase.stageAt, if_pos (Nat.le_refl i)]
  obtain ⟨before, rfl⟩ : ∃ before, begun = .idle before := by
    cases begun with
    | idle before => exact ⟨before, rfl⟩
    | _ => cases waits
  have steps : (Begun.received before (n.reads slaves age' bytes') []).steps =
      (Begun.idle before).steps ++ [.receiveFromSlave (n.reads slaves age' bytes')] := rfl
  refine ⟨.received before (n.reads slaves age' bytes') [], ?_⟩
  exact
    { past := follows.past
      undisturbed := follows.undisturbed
      device := by
        rw [steps]
        exact follows.device_next taken
      stage := after.symm
      frames := follows.frames_next taken
      read := by
        obtain ⟨s, here, device⟩ := follows.device
        rw [Begun.steps, exec_commandSteps] at device
        simp [Heard, reads, place, here, device, follows.frames]
      heard := by
        have before := follows.heard
        simp only [next, hears, place, beq_self_eq_true, Bool.true_and, Begun.stage] at before ⊢
        simpa using before
      behind := fun _ _ member => absurd member List.not_mem_nil }

theorem Follows.process (follows : Follows data slave d i n turns b begun age bytes) {age' : Nat} {bytes' : List UInt8}
    {wkc currentTime : Int} (place : n.threads.data = .process i)
    (taken : n.threads.stepsAt i (n.action slaves (.data age' bytes' wkc currentTime)) = [.process currentTime])
    (after : (n.next data slaves (.data age' bytes' wkc currentTime)).threads.data.stageAt i = .transfer) :
    ∃ begun', Follows data slave d i (n.next data slaves (.data age' bytes' wkc currentTime)) turns b begun' age bytes := by
  have waits : begun.stage = .process := by rw [follows.stage, place, DataPhase.stageAt, if_pos (Nat.le_refl i)]
  obtain ⟨before, inputs, between, rfl⟩ : ∃ before inputs between, begun = .received before inputs between := by
    cases begun with
    | received before inputs between => exact ⟨before, inputs, between, rfl⟩
    | _ => cases waits
  have steps : (Begun.processed before inputs between currentTime []).steps =
      (Begun.received before inputs between).steps ++ [.process currentTime] := by simp [Begun.steps, commandSteps]
  refine ⟨.processed before inputs between currentTime [], ?_⟩
  exact
    { past := follows.past
      undisturbed := follows.undisturbed
      device := by
        rw [steps]
        exact follows.device_next taken
      stage := after.symm
      frames := follows.frames_next taken
      read := follows.read
      heard := by
        have before := follows.heard
        have elsewhere : (DataPhase.process i == DataPhase.receive i) = false := beq_eq_false_iff_ne.mpr (by simp)
        simpa [next, hears, place, elsewhere, Begun.stage] using before
      behind := fun _ _ member => absurd member List.not_mem_nil }

theorem Follows.transfer (follows : Follows data slave d i n turns b begun age bytes) {count : UInt16}
    (boots : Boots count b) (protocol : Protocol count slave) {age' : Nat} {bytes' : List UInt8}
    {wkc currentTime : Int} (place : n.threads.data = .transfer i)
    (taken : n.threads.stepsAt i (n.action slaves (.data age' bytes' wkc currentTime)) = [.transferToSlave])
    (after : (n.next data slaves (.data age' bytes' wkc currentTime)).threads.data.stageAt i = .receive) :
    ∃ turns' b',
      Follows data slave d i (n.next data slaves (.data age' bytes' wkc currentTime)) turns' b' (.idle []) age bytes := by
  have waits : begun.stage = .transfer := by rw [follows.stage, place, DataPhase.stageAt, if_pos (Nat.le_refl i)]
  obtain ⟨before, inputs, between, time, later, rfl⟩ :
      ∃ before inputs between time later, begun = .processed before inputs between time later := by
    cases begun with
    | processed before inputs between time later => exact ⟨before, inputs, between, time, later, rfl⟩
    | _ => cases waits
  obtain ⟨turn, turn_eq⟩ : ∃ turn : Turn, turn = ⟨before, between, later, time, age, bytes⟩ := ⟨_, rfl⟩
  have cycle : (b.cycle slave turn).steps = (Begun.processed before inputs between time later).steps ++ [.transferToSlave] := by
    have read : inputs = b.inputs slave turn := by
      rw [turn_eq]
      exact follows.read
    simp [Booting.cycle, Cycle.steps, Begun.steps, turn_eq, read]
  have device : (b.next data slave turn).device =
      exec (SlaveDevice.next data) b.device (Begun.processed before inputs between time later).steps := by
    rw [Booting.next, cycle, exec_append]
    rfl
  have undisturbed : b.Undisturbed turn := by
    intro unsent write member
    rcases boots.stage with starting | working
    · rw [← boots.count_eq] at protocol
      have waiting := next_waits data turn starting protocol unsent
      rw [device] at waiting
      rw [turn_eq] at member
      exact follows.behind waiting write member
    · rw [working.sent] at unsent
      cases unsent
  refine ⟨turns ++ [turn], b.next data slave turn, ?_⟩
  exact
    { past := by
        rw [exec_append, ← follows.past]
        rfl
      undisturbed := by
        rw [along_append, ← follows.past]
        exact ⟨follows.undisturbed, undisturbed, trivial⟩
      device := by
        rw [Begun.steps, device]
        have last := follows.device_next taken
        rwa [exec_append] at last
      stage := after.symm
      frames := by
        rw [follows.frames_next taken, ← device]
        rfl
      read := trivial
      heard := by
        have before := follows.heard
        have elsewhere : (DataPhase.transfer i == DataPhase.receive i) = false := beq_eq_false_iff_ne.mpr (by simp)
        have good : turn.good = (age == 0) := by rw [turn_eq]; rfl
        simp only [next, hears, place, elsewhere, Bool.false_and, Bool.toNat_false, Nat.add_zero, List.countP_append,
          List.countP_singleton, good, Begun.stage] at before ⊢
        cases answered : age == 0 <;> simpa [answered] using before
      behind := fun _ _ member => absurd member List.not_mem_nil }

theorem messageWrites_exec (d : SlaveDevice UInt8) (steps : List Step) (task : Nat) (msg : CommandMessage) :
    (exec (SlaveDevice.next data) d steps).messageWrites task msg = d.messageWrites task msg := by
  have tasks : (exec (SlaveDevice.next data) d steps).taskList = d.taskList :=
    exec_invariant (I := fun e : SlaveDevice UInt8 => e.taskList = d.taskList) rfl fun e s same =>
      (next_setUp data e s).2.2.trans same
  rw [messageWrites, messageWrites, tasks]

theorem Follows.command (follows : Follows data slave d i n turns b begun age bytes) {task : Nat} {msg : CommandMessage}
    (calm : n.Calm slaves i (.command i task msg))
    (taken : n.threads.stepsAt i (n.action slaves (.command i task msg)) = [.onCommand task msg]) :
    Follows data slave d i (n.next data slaves (.command i task msg)) turns b (begun.command (task, msg)) age bytes where
  past := follows.past
  undisturbed := follows.undisturbed
  device := by
    rw [Begun.steps_command]
    exact follows.device_next taken
  stage := (begun.stage_command _).trans follows.stage
  frames := follows.frames_next taken
  read := by
    have read := follows.read
    cases begun <;> exact read
  heard := by
    rw [Begun.stage_command]
    exact follows.heard
  behind := by
    intro waiting write member
    have before : (exec (SlaveDevice.next data) b.device begun.steps).isReady = false := by
      rw [Begun.steps_command, exec_append, exec, exec, next_onCommand] at waiting
      exact waiting
    cases begun with
    | processed first inputs between time later =>
      rw [Begun.command, Begun.beforeTransfer, commandsWrites, List.flatMap_append, List.flatMap_singleton,
        List.mem_append] at member
      rcases member with earlier | now
      · exact follows.behind before write earlier
      · obtain ⟨s, here, device⟩ := follows.device
        refine calm.behind rfl follows.stage.symm s here (by rwa [device]) write ?_
        rwa [device, messageWrites_exec]
    | _ => cases member

/-- Every tick takes the slave on in its cycles. -/
theorem Follows.next {count : UInt16} (protocol : Protocol count (slaves i)) (boots : Boots count b)
    (follows : Follows data (slaves i) d i n turns b begun age bytes) (calm : n.Calm slaves i tick) :
    ∃ turns b begun age bytes, Follows data (slaves i) d i (n.next data slaves tick) turns b begun age bytes := by
  obtain ⟨s, here, _⟩ := follows.device
  have quiet := calm.cycles
  cases tick with
  | data age' bytes' wkc currentTime =>
    have turn := Threads.slaveTurn here ⟨wkc, n.reads slaves age' bytes', currentTime⟩
    generalize taken : n.threads.stepsAt i (.data ⟨wkc, n.reads slaves age' bytes', currentTime⟩) = steps at turn
    generalize place : n.threads.data = phase at turn
    cases turn with
    | receive next =>
      obtain ⟨begun, after⟩ := follows.receive place taken next
      exact ⟨turns, b, begun, _, _, after⟩
    | process next =>
      obtain ⟨begun, after⟩ := follows.process place taken next
      exact ⟨turns, b, begun, _, _, after⟩
    | transfer next =>
      obtain ⟨turns, b, after⟩ := follows.transfer boots protocol place taken next
      exact ⟨turns, b, _, _, _, after⟩
    | exitReset =>
      have outside : OfCycle .exitReset := quiet _ (by rw [action, taken]; exact List.mem_singleton_self _)
      exact outside.elim
    | elsewhere other same =>
      refine ⟨turns, b, begun, age, bytes, follows.quiet taken ?_ ?_⟩
      · rw [place]
        exact same
      · rw [hears, place, beq_eq_false_iff_ne.mpr other]
        rfl
  | check ok answer =>
    have none : n.threads.stepsAt i (.check ok answer) = [] :=
      List.eq_nil_iff_forall_not_mem.mpr fun step member => Threads.check_apart here member (quiet step member)
    exact ⟨turns, b, begun, age, bytes, follows.quiet none rfl rfl⟩
  | shutdown => exact ⟨turns, b, begun, age, bytes, follows.quiet rfl rfl rfl⟩
  | command k task msg =>
    have taken := Threads.stepsAt_command here k task msg
    by_cases own : k = i
    · subst own
      rw [if_pos rfl] at taken
      exact ⟨turns, b, _, age, bytes, follows.command calm taken⟩
    · rw [if_neg own] at taken
      exact ⟨turns, b, begun, age, bytes, follows.quiet taken rfl rfl⟩

theorem working_step {d : SlaveDevice UInt8} {frames : List Frame} {s : Step} (working : Working ⟨d, frames⟩)
    (within : OfCycle s) :
    Working ⟨SlaveDevice.next data d s, frames⟩ := by
  cases s with
  | process currentTime =>
    have ready : d.isReady = true := working.ready
    have sent : d.isArgSent = true := working.sent
    cases configured : d.isConfigured with
    | false => rwa [next_process_skipped configured]
    | true =>
      rw [next_process configured]
      exact ⟨by simp [readyAfter, ready], by simp [argSentAfter, sent], statusAfter_ready working.status⟩
  | onCommand k msg =>
    rw [next_onCommand]
    exact ⟨working.ready, working.sent, working.status⟩
  | receiveFromSlave inputs => exact ⟨working.ready, working.sent, working.status⟩
  | transferToSlave => exact working
  | _ => exact within.elim

theorem begun_within (begun : Begun) : ∀ s ∈ begun.steps, OfCycle s := by
  intro s member
  cases begun <;> simp only [Begun.steps, commandSteps, List.mem_append, List.mem_map, List.mem_cons] at member
  all_goals grind [OfCycle]

end Slave

theorem start_follows {node : EthercatNode UInt8} (expectedWkc : Int) {slave : Frame → List UInt8 → Inputs}
    {d : SlaveDevice UInt8} {i : Nat} (here : node.slaves.slaveDevices[i]? = some d) :
    Follows data slave d i (start node expectedWkc) [] (Booting.start d) (.idle []) 0 [] where
  past := rfl
  undisturbed := trivial
  device := ⟨.start d, by simp [start, Threads.start, here], rfl⟩
  stage := by
    simp only [start, Threads.start]
    split <;> rfl
  frames := rfl
  read := trivial
  heard := Nat.le_refl 0
  behind := fun _ _ member => absurd member List.not_mem_nil

structure Served (slave : Frame → List UInt8 → Inputs) (d : SlaveDevice UInt8) : Prop where
  protocol : Protocol d.argBufLen slave
  nonempty : 1 ≤ d.argBufLen.toNat
  outputs : 3 ≤ d.masterToSlaveBufLen.toNat
  inputs : 3 ≤ d.slaveToMasterBufLen.toNat

/-- Under every order of the threads, whatever frames are lost or late and whatever becomes of the other
slaves, a slave with `n` arguments is in work once `n + 3` answers to its last frame have been read. -/
theorem network_works (data : ConfigurationParser) {bus : Bus} {node : EthercatNode UInt8}
    (returned : setupEcat data bus = .ok (true, node)) (expectedWkc : Int) (slaves : Nat → Frame → List UInt8 → Inputs)
    {i : Nat} {d : SlaveDevice UInt8} (here : node.slaves.slaveDevices[i]? = some d) (served : Served (slaves i) d)
    (run : List Tick) (calm : Along (next data slaves) (Calm slaves i) (start node expectedWkc) run)
    (heard : d.argBufLen.toNat + 3 ≤ (exec (next data slaves) (start node expectedWkc) run).heard i) :
    ∃ s, (exec (next data slaves) (start node expectedWkc) run).threads.stations[i]? = some s ∧
      Working ⟨s.device, (exec (next data slaves) (start node expectedWkc) run).frames i⟩ := by
  obtain ⟨protocol, nonempty, outputs, inputs⟩ := served
  have configured := setup_configured returned d (List.mem_of_getElem? here)
  obtain ⟨starting, measure⟩ := start_starting configured (start_fits configured nonempty outputs inputs)
  have follows : ∃ turns b begun age bytes,
      Follows data (slaves i) d i (exec (next data slaves) (start node expectedWkc) run) turns b begun age bytes :=
    calm.exec_invariant
      (I := fun n => ∃ turns b begun age bytes, Follows data (slaves i) d i n turns b begun age bytes)
      ⟨[], _, _, 0, [], start_follows data expectedWkc here⟩
      fun n tick ⟨turns, b, begun, age, bytes, follows⟩ calm => by
        have boots : Boots d.argBufLen b := by
          rw [follows.past]
          exact follows.undisturbed.exec_invariant ⟨starting.fits, rfl, Or.inl starting⟩
            fun _ _ boots apart => boots_next data boots protocol apart
        exact follows.next protocol boots calm
  obtain ⟨turns, b, begun, age, bytes, follows⟩ := follows
  have open_le : (if begun.stage = .receive then 0 else (age == 0).toNat) ≤ 1 := by
    split
    · exact Nat.zero_le 1
    · exact Bool.toNat_le _
  have bound := follows.heard
  have working : Working b := by
    rw [follows.past]
    exact starting_works starting protocol follows.undisturbed (by omega)
  obtain ⟨s, there, device⟩ := follows.device
  refine ⟨s, there, ?_⟩
  rw [device]
  have within : Along (SlaveDevice.next data) (fun _ s => OfCycle s) b.device begun.steps :=
    along_of_forall _ (begun_within begun)
  exact within.exec_invariant (I := fun e => Working ⟨e, _⟩) ⟨working.ready, working.sent, working.status⟩
    fun _ _ working within => working_step working within

def reading (age : Nat) : Tick := .data age [] 1 0

/-- Data cycles of one slave: one answer comes late, the others answer the last frame. -/
def lateRun : List Tick :=
  reading 0 :: ([0, 0, 1, 0, 0, 0, 0].flatMap fun age =>
    List.replicate 11 (reading age) ++ [.check true ⟨EC_STATE_OPERATIONAL, none, false⟩])

theorem network_works_receiver :
    ∃ s, (exec (next receiverData fun _ => promptSlave 2) (start receiverNode 1) lateRun).threads.stations[0]? = some s ∧
      Working ⟨s.device, (exec (next receiverData fun _ => promptSlave 2) (start receiverNode 1) lateRun).frames 0⟩ :=
  network_works receiverData receiver_setup 1 (fun _ => promptSlave 2) (i := 0) rfl
    ⟨promptSlave_protocol 2, by decide, by decide, by decide⟩ lateRun (by decide +kernel) (by decide +kernel)

end Network

end EcatMaster.Node
