import EcatMaster.Slave.Checker
import EcatMaster.Slave.Devices

/-! `EthercatNode::setup_ecat`, and `on_shutdown` after it.

The bus is scanned twice: the devices are made for the slaves of the first scan,
the hooks are called for those of the second one. The threads are started only if
the slaves get operational, but the result does not depend on it, and the shutdown
waits for the data thread.
-/

set_option autoImplicit false

namespace EcatMaster.Node
open Library Config Slave SlaveDevice

/-- A slave of the second scan: what its board is and answers when SOEM calls the hook. -/
structure BoardAnswer where
  eepId : UInt32
  snReply : SdoReply 4
  revReply : SdoReply 3

/-- What the bus does during one call of `setup_ecat`. -/
structure Bus where
  initialised : Bool
  scanned : Nat
  rescanned : List BoardAnswer
  -- `ec_slave[0].state` after each turn of the polling loop.
  polled : Nat → UInt16

/-- SOEM calls the hook once for each slave that it maps, in their order. -/
def Bus.calls (bus : Bus) : List BoardCall :=
  bus.rescanned.mapIdx fun i board => ⟨i + 1, Nat.succ_pos i, board.eepId, board.snReply, board.revReply⟩

/-- How `setup_ecat` can end without returning. -/
inductive Abort where
  | outOfRange (slave : Nat)
  | taskList (failure : Failure)

structure EthercatNode (β : Type) where
  slaves : Slaves β
  state : UInt16
  dataThread : Bool
  checkerThread : Bool
  running : Bool
  exiting : Bool
  exitingResetCalled : Bool

namespace EthercatNode
variable {β : Type}

/-- The constructor. -/
def new : EthercatNode β where
  slaves := .initSlaveDevicesVector 0
  state := EC_STATE_NONE
  dataThread := false
  checkerThread := false
  running := true
  exiting := false
  exitingResetCalled := false

def withDevices (slaves : Slaves β) (slaveDevices : List (SlaveDevice β)) : EthercatNode β :=
  { (new : EthercatNode β) with slaves := { slaves with slaveDevices } }

end EthercatNode

/-- `do … while (chk-- && ec_slave[0].state != EC_STATE_OPERATIONAL)`, from the given turn on. -/
def pollLoop (polled : Nat → UInt16) : Nat → Nat → UInt16
  | 0, turn => polled turn
  | chk + 1, turn => if polled turn ≠ EC_STATE_OPERATIONAL then pollLoop polled chk (turn + 1) else polled turn

section Setup
variable {β : Type} [Cell β]

/-- The hooks that `ec_config_map` calls; SOEM ignores what they return. -/
def configMap (data : ConfigurationParser) : List BoardCall → Slaves β → Except Abort (Slaves β)
  | [], s => .ok s
  | c :: calls, s =>
    match s.configEcSlave data c with
    | none => .error (.outOfRange c.slave)
    | some returned => configMap data calls returned.2

omit [Cell β] in
/-- The loop over the devices, which the first `false` ends. -/
def initTaskLists (data : ConfigurationParser) : List (SlaveDevice β) → Except Abort (Bool × List (SlaveDevice β))
  | [] => .ok (true, [])
  | d :: devices =>
    match initTaskList data d with
    | .error failure => .error (.taskList failure)
    | .ok (false, d) => .ok (false, d :: devices)
    | .ok (true, d) => (initTaskLists data devices).map fun (done, devices) => (done, d :: devices)

def setupEcat (data : ConfigurationParser) (bus : Bus) : Except Abort (Bool × EthercatNode β) := do
  if ¬bus.initialised then
    return (false, .new)
  if bus.scanned = 0 then
    return (false, .new)
  let slaves ← configMap data bus.calls (.initSlaveDevicesVector bus.scanned)
  let (done, slaveDevices) ← initTaskLists data slaves.slaveDevices
  let node := EthercatNode.withDevices slaves slaveDevices
  if ¬done then
    return (false, node)
  let state := pollLoop bus.polled 50 0
  let started := state == EC_STATE_OPERATIONAL
  -- Also where no thread was started.
  return (true, { node with state, dataThread := started, checkerThread := started })

end Setup

inductive Move where
  /-- One turn of the data thread, with the inputs of each slave. -/
  | dataCycle (inputs : Nat → Inputs) (currentTime : Int)
  /-- A step of the checker or of a subscription on one slave. -/
  | slaveStep (slave : Nat) (s : Step)
  | onShutdown
  /-- `on_shutdown` after its wait. -/
  | stop

section Moves
variable {β : Type} [Cell β]

/-- What a turn of the data thread does with one slave. Each phase goes over all slaves, but
no phase of a slave looks at another one. -/
def cycleSteps (resets : Bool) (inputs : Inputs) (currentTime : Int) : List Step :=
  [.receiveFromSlave inputs, .process currentTime] ++ (if resets then [.exitReset] else []) ++ [.transferToSlave]

def next (data : ConfigurationParser) (n : EthercatNode β) : Move → EthercatNode β
  | .dataCycle inputs currentTime =>
    if n.dataThread ∧ n.running then
      let resets := n.exiting && !n.exitingResetCalled
      let devices := n.slaves.slaveDevices.mapIdx fun i d =>
        exec (SlaveDevice.next data) d (cycleSteps resets (inputs i) currentTime)
      { n with
        slaves := { n.slaves with slaveDevices := devices }
        exitingResetCalled := n.exitingResetCalled || n.exiting }
    else n
  | .slaveStep slave s =>
    let devices := n.slaves.slaveDevices.modify (slave - 1) (SlaveDevice.next data · s)
    { n with slaves := { n.slaves with slaveDevices := devices } }
  | .onShutdown => { n with exiting := true }
  | .stop => if n.exiting ∧ n.exitingResetCalled then { n with running := false } else n

end Moves

/-- The polling loop has at most 51 turns. -/
theorem pollLoop_operational (polled : Nat → UInt16) (chk turn : Nat) :
    pollLoop polled chk turn = EC_STATE_OPERATIONAL ↔ ∃ i ≤ chk, polled (turn + i) = EC_STATE_OPERATIONAL := by
  induction chk generalizing turn with
  | zero =>
    constructor
    · intro reached
      exact ⟨0, Nat.le_refl 0, reached⟩
    · intro ⟨i, within, reached⟩
      rw [Nat.le_zero.mp within] at reached
      exact reached
  | succ chk ih =>
    rw [pollLoop]
    split
    case isTrue other =>
      rw [ih]
      constructor
      · intro ⟨i, within, reached⟩
        exact ⟨i + 1, Nat.succ_le_succ within, by rw [← reached, Nat.add_assoc, Nat.add_comm 1 i]⟩
      · rintro ⟨_ | i, within, reached⟩
        · exact absurd reached other
        · exact ⟨i, Nat.le_of_succ_le_succ within, by rw [← reached, Nat.add_assoc, Nat.add_comm 1 i]⟩
    case isFalse here =>
      have reached := not_not.mp here
      exact ⟨fun _ => ⟨0, Nat.zero_le _, reached⟩, fun _ => reached⟩

section Mapping
variable {β : Type} [Cell β] {data : ConfigurationParser}

theorem configEcSlave_none_iff (data : ConfigurationParser) (c : BoardCall) (s : Slaves β) :
    s.configEcSlave data c = none ↔ s.slaveDevices.length < c.slave := by
  have pos := c.slave_pos
  unfold Slaves.configEcSlave Slaves.getSlaveDevice
  rw [Option.map_eq_none_iff, List.getElem?_eq_none_iff]
  omega

theorem length_configEcSlave {c : BoardCall} {s : Slaves β} {returned : Bool × Slaves β}
    (called : s.configEcSlave data c = some returned) :
    returned.2.slaveDevices.length = s.slaveDevices.length := by
  obtain ⟨d, _, rfl⟩ := Option.map_eq_some_iff.mp called
  exact List.length_set

theorem configMap_ok_iff (calls : List BoardCall) (s : Slaves β) :
    (∃ s', configMap data calls s = .ok s') ↔ ∀ c ∈ calls, c.slave ≤ s.slaveDevices.length := by
  induction calls generalizing s with
  | nil => exact ⟨fun _ => nofun, fun _ => ⟨s, rfl⟩⟩
  | cons c calls ih =>
    rw [configMap, List.forall_mem_cons, ← Nat.not_lt, ← configEcSlave_none_iff data]
    cases called : s.configEcSlave data c with
    | none => simp
    | some returned => simp [ih, length_configEcSlave called]

theorem configMap_error {calls : List BoardCall} {s : Slaves β} {abort : Abort}
    (ended : configMap data calls s = .error abort) : ∃ slave, abort = .outOfRange slave := by
  induction calls generalizing s with
  | nil => cases ended
  | cons c calls ih =>
    rw [configMap] at ended
    split at ended
    · cases ended
      exact ⟨c.slave, rfl⟩
    · exact ih ended

theorem calls_inRange (bus : Bus) (count : Nat) :
    (∀ c ∈ bus.calls, c.slave ≤ count) ↔ bus.rescanned.length ≤ count := by
  constructor
  · intro inRange
    by_contra more
    have last : count < bus.rescanned.length := Nat.not_le.mp more
    have called := inRange _ (List.mem_mapIdx.mpr ⟨count, last, rfl⟩)
    exact absurd called (Nat.not_succ_le_self count)
  · intro few c member
    obtain ⟨i, bound, rfl⟩ := List.mem_mapIdx.mp member
    exact Nat.le_trans bound few

end Mapping

section Outcomes
variable {β : Type} [Cell β] {data : ConfigurationParser} {bus : Bus}

def Bus.Mapped (bus : Bus) : Prop := bus.initialised = true ∧ bus.scanned ≠ 0

def TasksMade (data : ConfigurationParser) (bus : Bus) (slaves : Slaves β) (devices : List (SlaveDevice β)) : Prop :=
  bus.Mapped ∧ configMap data bus.calls (.initSlaveDevicesVector bus.scanned) = .ok slaves ∧
    initTaskLists data slaves.slaveDevices = .ok (true, devices)

/-- The node as `setup_ecat` leaves it at its end. -/
def started (bus : Bus) (slaves : Slaves β) (devices : List (SlaveDevice β)) : EthercatNode β :=
  { EthercatNode.withDevices slaves devices with
    state := pollLoop bus.polled 50 0
    dataThread := pollLoop bus.polled 50 0 == EC_STATE_OPERATIONAL
    checkerThread := pollLoop bus.polled 50 0 == EC_STATE_OPERATIONAL }

omit [Cell β] in
theorem initTaskLists_error {devices : List (SlaveDevice β)} {abort : Abort}
    (ended : initTaskLists data devices = .error abort) : ∃ failure, abort = .taskList failure := by
  induction devices generalizing abort with
  | nil => cases ended
  | cons d devices ih =>
    rw [initTaskLists] at ended
    split at ended
    · cases ended
      exact ⟨_, rfl⟩
    · cases ended
    · cases rest : initTaskLists data devices with
      | error other =>
        rw [rest] at ended
        cases ended
        exact ih rest
      | ok others =>
        rw [rest] at ended
        cases ended

instance (bus : Bus) : Decidable bus.Mapped := inferInstanceAs (Decidable (_ ∧ _))

theorem setupEcat_eq (data : ConfigurationParser) (bus : Bus) :
    (setupEcat data bus : Except Abort (Bool × EthercatNode β)) =
      if bus.Mapped then
        (configMap data bus.calls (.initSlaveDevicesVector bus.scanned)).bind fun slaves =>
          (initTaskLists data slaves.slaveDevices).bind fun result =>
            if result.1 then .ok (true, started bus slaves result.2)
            else .ok (false, .withDevices slaves result.2)
      else .ok (false, .new) := by
  unfold setupEcat
  by_cases mapped : bus.Mapped
  · rw [if_pos mapped, if_neg (not_not.mpr mapped.1), if_neg mapped.2]
    cases configMap data bus.calls (.initSlaveDevicesVector bus.scanned : Slaves β) with
    | error abort => rfl
    | ok slaves =>
      change (initTaskLists data slaves.slaveDevices).bind _ = (initTaskLists data slaves.slaveDevices).bind _
      congr 1
      funext result
      obtain ⟨done, devices⟩ := result
      cases done with
      | false => rfl
      | true => rfl
  · rw [if_neg mapped]
    split
    case isTrue => rfl
    case isFalse opened =>
      rw [if_pos (not_not.mp fun found => mapped ⟨not_not.mp opened, found⟩)]
      rfl

theorem setupEcat_true_iff (node : EthercatNode β) :
    setupEcat data bus = .ok (true, node) ↔
      ∃ slaves devices, TasksMade data bus slaves devices ∧ node = started bus slaves devices := by
  rw [setupEcat_eq]
  constructor
  · intro returned
    split at returned
    case isFalse => cases returned
    case isTrue mapped =>
      obtain ⟨slaves, mapping, returned⟩ := bind_ok returned
      obtain ⟨⟨done, devices⟩, lists, returned⟩ := bind_ok returned
      cases done with
      | false => cases returned
      | true =>
        cases returned
        exact ⟨slaves, devices, ⟨mapped, mapping, lists⟩, rfl⟩
  · rintro ⟨slaves, devices, ⟨mapped, mapping, lists⟩, rfl⟩
    rw [if_pos mapped, mapping, Except.bind, lists]
    rfl

theorem setupEcat_outOfRange_iff (slave : Nat) :
    (setupEcat data bus : Except Abort (Bool × EthercatNode β)) = .error (.outOfRange slave) ↔
      bus.Mapped ∧ configMap data bus.calls (.initSlaveDevicesVector bus.scanned : Slaves β) =
        .error (.outOfRange slave) := by
  rw [setupEcat_eq]
  split
  case isFalse unmapped => exact ⟨nofun, fun failed => absurd failed.1 unmapped⟩
  case isTrue mapped =>
    cases mapping : configMap data bus.calls (.initSlaveDevicesVector bus.scanned : Slaves β) with
    | error abort =>
      change (Except.error abort : Except Abort (Bool × EthercatNode β)) = _ ↔ _
      rw [Except.error.injEq, Except.error.injEq, and_iff_right mapped]
    | ok slaves =>
      refine ⟨fun ended => ?_, nofun⟩
      -- What comes after the mapping does not look up a device.
      cases lists : initTaskLists data slaves.slaveDevices with
      | error abort =>
        obtain ⟨failure, rfl⟩ := initTaskLists_error lists
        rw [Except.bind, lists] at ended
        cases ended
      | ok result =>
        rw [Except.bind, lists, Except.bind] at ended
        split at ended <;> cases ended

theorem configMap_found (data : ConfigurationParser) (mapped : bus.rescanned.length ≤ bus.scanned) :
    ∃ slaves : Slaves β, configMap data bus.calls (.initSlaveDevicesVector bus.scanned) = .ok slaves := by
  apply (configMap_ok_iff _ _).mpr
  rw [Slaves.length_initSlaveDevicesVector]
  exact (calls_inRange bus bus.scanned).mpr mapped

theorem configMap_missing (data : ConfigurationParser) (more : ¬bus.rescanned.length ≤ bus.scanned) :
    ∃ slave,
      configMap data bus.calls (.initSlaveDevicesVector bus.scanned : Slaves β) = .error (.outOfRange slave) := by
  cases mapping : configMap data bus.calls (.initSlaveDevicesVector bus.scanned : Slaves β) with
  | error abort =>
    obtain ⟨slave, rfl⟩ := configMap_error mapping
    exact ⟨slave, rfl⟩
  | ok slaves =>
    have inRange := (configMap_ok_iff _ _).mp ⟨slaves, mapping⟩
    rw [Slaves.length_initSlaveDevicesVector] at inRange
    exact absurd ((calls_inRange bus bus.scanned).mp inRange) more

structure Waits (n : EthercatNode β) : Prop where
  dataThread : n.dataThread = true
  running : n.exitingResetCalled = false → n.running = true

theorem waits_next {n : EthercatNode β} (waits : Waits n) (move : Move) : Waits (next data n move) := by
  cases move with
  | dataCycle inputs currentTime =>
    rw [next]
    split
    case isTrue active => exact ⟨waits.dataThread, fun _ => active.2⟩
    case isFalse => exact waits
  | slaveStep slave s => exact ⟨waits.dataThread, waits.running⟩
  | onShutdown => exact ⟨waits.dataThread, waits.running⟩
  | stop =>
    rw [next]
    split
    case isTrue called =>
      refine ⟨waits.dataThread, fun pending => ?_⟩
      rw [show _ = false from pending] at called
      exact absurd called.2 Bool.false_ne_true
    case isFalse => exact waits

theorem dataCycle_ends {n : EthercatNode β} (waits : Waits n) (exiting : n.exiting = true) (inputs : Nat → Inputs)
    (currentTime : Int) : (next data n (.dataCycle inputs currentTime)).exitingResetCalled = true := by
  rw [next]
  split
  case isTrue active =>
    change (n.exitingResetCalled || n.exiting) = true
    rw [exiting, Bool.or_true]
  case isFalse idle =>
    cases called : n.exitingResetCalled with
    | true => rfl
    | false => exact absurd ⟨waits.dataThread, waits.running called⟩ idle

theorem noThread_exec {n : EthercatNode β} (noThread : n.dataThread = false) (pending : n.exitingResetCalled = false)
    (run : List Move) : (exec (next data) n run).exitingResetCalled = false := by
  have kept : ∀ (m : EthercatNode β) (move : Move), (m.dataThread = false ∧ m.exitingResetCalled = false) →
      (next data m move).dataThread = false ∧ (next data m move).exitingResetCalled = false := by
    intro m move ⟨noThread, pending⟩
    cases move with
    | dataCycle inputs currentTime =>
      rw [next, if_neg (fun active => Bool.false_ne_true (noThread.symm.trans active.1))]
      exact ⟨noThread, pending⟩
    | slaveStep slave s => exact ⟨noThread, pending⟩
    | onShutdown => exact ⟨noThread, pending⟩
    | stop =>
      rw [next, if_neg (fun called => Bool.false_ne_true (pending.symm.trans called.2))]
      exact ⟨noThread, pending⟩
  exact (exec_invariant (I := fun m : EthercatNode β => m.dataThread = false ∧ m.exitingResetCalled = false)
    ⟨noThread, pending⟩ kept).2

/-! ## When the setup is sound -/

/-- Success means that the slaves are operational and both threads run, each hook finds its
device, and where `run` registers `on_shutdown`, a turn of the data thread ends its wait. -/
structure SetupSound (β : Type) [Cell β] (data : ConfigurationParser) (bus : Bus) : Prop where
  operational : ∀ node : EthercatNode β, setupEcat data bus = .ok (true, node) →
    (∃ turn ≤ 50, bus.polled turn = EC_STATE_OPERATIONAL) ∧ node.dataThread = true ∧ node.checkerThread = true
  deviceFound : ∀ slave, (setupEcat data bus : Except Abort (Bool × EthercatNode β)) ≠ .error (.outOfRange slave)
  waitEnds : ∀ node : EthercatNode β, setupEcat data bus = .ok (true, node) → ∀ run : List Move,
    (exec (next data) node run).exiting = true → ∀ inputs currentTime,
      (next data (exec (next data) node run) (.dataCycle inputs currentTime)).exitingResetCalled = true

omit [Cell β] in
theorem started_threads (slaves : Slaves β) (devices : List (SlaveDevice β))
    (reached : ∃ turn ≤ 50, bus.polled turn = EC_STATE_OPERATIONAL) :
    (started bus slaves devices).dataThread = true ∧ (started bus slaves devices).checkerThread = true := by
  have state : pollLoop bus.polled 50 0 = EC_STATE_OPERATIONAL := by
    obtain ⟨turn, within, seen⟩ := reached
    exact (pollLoop_operational _ _ _).mpr ⟨turn, within, by rw [Nat.zero_add, seen]⟩
  exact ⟨beq_iff_eq.mpr state, beq_iff_eq.mpr state⟩

/-- The second scan may not find more slaves than the first one, and a node whose tasks could all
be made must get operational in one of the 51 turns. -/
theorem setup_sound_iff (data : ConfigurationParser) (bus : Bus) :
    SetupSound β data bus ↔
      (bus.Mapped → bus.rescanned.length ≤ bus.scanned) ∧
      ((∃ (slaves : Slaves β) (devices : List (SlaveDevice β)), TasksMade data bus slaves devices) →
        ∃ turn ≤ 50, bus.polled turn = EC_STATE_OPERATIONAL) := by
  constructor
  · intro sound
    constructor
    · intro mapped
      by_contra more
      obtain ⟨slave, mapping⟩ := configMap_missing (β := β) data more
      exact sound.deviceFound slave ((setupEcat_outOfRange_iff slave).mpr ⟨mapped, mapping⟩)
    · rintro ⟨slaves, devices, made⟩
      exact (sound.operational _ ((setupEcat_true_iff _).mpr ⟨slaves, devices, made, rfl⟩)).1
  · intro ⟨fits, polls⟩
    refine ⟨?_, ?_, ?_⟩
    · intro node returned
      obtain ⟨slaves, devices, made, rfl⟩ := (setupEcat_true_iff node).mp returned
      have reached := polls ⟨slaves, devices, made⟩
      exact ⟨reached, started_threads slaves devices reached⟩
    · intro slave ended
      obtain ⟨mapped, failed⟩ := (setupEcat_outOfRange_iff slave).mp ended
      obtain ⟨slaves, mapping⟩ := configMap_found (β := β) data (fits mapped)
      rw [mapping] at failed
      cases failed
    · intro node returned run exiting inputs currentTime
      obtain ⟨slaves, devices, made, rfl⟩ := (setupEcat_true_iff node).mp returned
      have threads := started_threads slaves devices (polls ⟨slaves, devices, made⟩)
      have waits : Waits (exec (next data) (started bus slaves devices) run) :=
        exec_invariant ⟨threads.1, fun _ => rfl⟩ fun _ move => (waits_next · move)
      exact dataCycle_ends waits exiting inputs currentTime

def Opened (data : ConfigurationParser) (d : SlaveDevice β) : Prop :=
  d = SlaveDevice.new ∨ ∃ call, d = (init data call SlaveDevice.new).2

/-- The hooks are called for different slaves, so each finds a new device. -/
theorem configMap_opened {calls : List BoardCall} {s s' : Slaves β} (mapping : configMap data calls s = .ok s')
    (apart : calls.Pairwise fun c c' => c.slave ≠ c'.slave)
    (fresh : ∀ c ∈ calls, s.getSlaveDevice c.slave = some SlaveDevice.new)
    (opened : ∀ d ∈ s.slaveDevices, Opened data d) : ∀ d ∈ s'.slaveDevices, Opened data d := by
  induction calls generalizing s with
  | nil =>
    cases mapping
    exact opened
  | cons c calls ih =>
    obtain ⟨others, apart⟩ := List.pairwise_cons.mp apart
    obtain ⟨here, fresh⟩ := List.forall_mem_cons.mp fresh
    rw [configMap, Slaves.configEcSlave, here] at mapping
    refine ih mapping apart ?_ ?_
    · intro other member
      have pos := c.slave_pos
      have pos' := other.slave_pos
      have distinct := others other member
      change (s.slaveDevices.set (c.slave - 1) _)[other.slave - 1]? = _
      rw [List.getElem?_set_ne (by omega)]
      exact fresh other member
    · intro d member
      rcases List.mem_or_eq_of_mem_set member with old | rfl
      · exact opened d old
      · exact Or.inr ⟨_, rfl⟩

theorem calls_apart (bus : Bus) : bus.calls.Pairwise fun c c' => c.slave ≠ c'.slave := by
  rw [List.pairwise_iff_getElem]
  intro i j inRange inRange' before
  simp only [Bus.calls, List.getElem_mapIdx]
  omega

omit [Cell β] in
theorem initTaskLists_true {devices made : List (SlaveDevice β)}
    (returned : initTaskLists data devices = .ok (true, made)) {d' : SlaveDevice β}
    (member : d' ∈ made) : ∃ d ∈ devices, initTaskList data d = .ok (true, d') := by
  induction devices generalizing made with
  | nil =>
    cases returned
    cases member
  | cons d devices ih =>
    rw [initTaskLists] at returned
    split at returned
    · cases returned
    · cases returned
    case h_3 first here =>
      cases rest : initTaskLists data devices with
      | error abort =>
        rw [rest] at returned
        cases returned
      | ok result =>
        obtain ⟨done, others⟩ := result
        rw [rest] at returned
        cases returned
        rcases List.mem_cons.mp member with rfl | later
        · exact ⟨d, List.mem_cons_self, here⟩
        · obtain ⟨e, within, made⟩ := ih rest later
          exact ⟨e, List.mem_cons_of_mem d within, made⟩

theorem opened_configured {d d' : SlaveDevice β} (opened : Opened data d)
    (made : initTaskList data d = .ok (true, d')) : Configured data d' := by
  have passed : d.isSwRevCheckPassed = true := by
    by_contra unchecked
    unfold initTaskList at made
    rw [if_pos unchecked] at made
    cases made
  obtain ⟨_, _, _, _, found, _⟩ := ((initTaskList_cases made).resolve_left fun ended => nomatch ended.1).2
  rcases opened with rfl | ⟨call, rfl⟩
  · cases passed
  · have fresh : (SlaveDevice.new : SlaveDevice β).sn = 0 := rfl
    have recent := init_passed (d := (SlaveDevice.new : SlaveDevice β)) rfl passed
    rw [init_sn_fresh fresh] at found
    have accepted := (init_accepts_iff data SlaveDevice.new call).mpr ⟨Or.inl fresh, recent, _, found⟩
    exact ⟨call, _, Prod.ext accepted rfl, made⟩

/-- The threads start on devices that `init` has accepted and whose tasks are made. -/
theorem setup_configured {node : EthercatNode β} (returned : setupEcat data bus = .ok (true, node)) :
    ∀ d ∈ node.slaves.slaveDevices, Configured data d := by
  obtain ⟨slaves, devices, ⟨_, mapping, lists⟩, rfl⟩ := (setupEcat_true_iff node).mp returned
  intro d' member
  obtain ⟨d, within, made⟩ := initTaskLists_true lists member
  refine opened_configured ?_ made
  have inRange := (configMap_ok_iff bus.calls _).mp ⟨slaves, mapping⟩
  refine configMap_opened mapping (calls_apart bus) ?_ ?_ d within
  · intro c called
    have bound := inRange c called
    rw [Slaves.length_initSlaveDevicesVector] at bound
    exact Slaves.opened_getSlaveDevice c.slave_pos bound
  · intro d new
    exact Or.inl (List.eq_of_mem_replicate new)

end Outcomes

def receiverBoard : BoardAnswer :=
  ⟨3, some ⟨[7, 0, 0, 0], by decide⟩, some ⟨[48, 48, 56], by decide⟩⟩

def receiverBus (polled : Nat → UInt16) : Bus := ⟨true, 1, [receiverBoard], polled⟩

theorem receiver_tasksMade (polled : Nat → UInt16) :
    ∃ (slaves : Slaves UInt8) (devices : List (SlaveDevice UInt8)),
      TasksMade receiverData (receiverBus polled) slaves devices :=
  ⟨⟨[48, 48, 56, 0], rfl, [(init receiverData boardCall SlaveDevice.new).2]⟩, [setUp receiverData boardCall],
    ⟨rfl, Nat.one_ne_zero⟩, rfl, rfl⟩

/-- A bus that stays in SAFE_OP: the setup returns `true` without threads, and no move of the
node ends the wait of `on_shutdown`. -/
theorem stuck_node_registered :
    let bus := receiverBus fun _ => EC_STATE_SAFE_OP
    (∃ node : EthercatNode UInt8, setupEcat receiverData bus = .ok (true, node) ∧ node.dataThread = false ∧
      ∀ run, (exec (next receiverData) node (.onShutdown :: run)).exitingResetCalled = false) ∧
    ¬SetupSound UInt8 receiverData bus := by
  intro bus
  obtain ⟨slaves, devices, made⟩ := receiver_tasksMade fun _ => EC_STATE_SAFE_OP
  have returned : setupEcat receiverData bus = .ok (true, started bus slaves devices) :=
    (setupEcat_true_iff _).mpr ⟨slaves, devices, made, rfl⟩
  have noThread : (started bus slaves devices).dataThread = false := rfl
  refine ⟨⟨_, returned, noThread, fun run => noThread_exec noThread rfl (.onShutdown :: run)⟩, fun sound => ?_⟩
  have thread := (sound.operational _ returned).2.1
  rw [noThread] at thread
  cases thread

/-- A second slave that only the second scan finds. -/
example : (setupEcat receiverData ⟨true, 1, [receiverBoard, receiverBoard], fun _ => EC_STATE_OPERATIONAL⟩ :
    Except Abort (Bool × EthercatNode UInt8)).map Prod.fst = .error (.outOfRange 2) := rfl

end EcatMaster.Node
