import EcatMaster.Slave.Checker

/-! Boards that `init` has refused.

A call of `init` on a running slave returns 0 for another serial number, an old
revision or a missing entry. The run remembers the refusal until a later call
returns 1.
-/

set_option autoImplicit false

namespace EcatMaster.Slave
open Library Config Tasks

namespace SlaveDevice
variable {β : Type} [Cell β] {data : ConfigurationParser}

theorem processPdo_emitted {d : SlaveDevice β} {currentTime : Int} :
    Event.processPdo ∈ (d.step data (.process currentTime)).2 ↔ d.isConfigured = true ∧ d.readyAfter = true := by
  rw [step]
  cases configured : d.isConfigured with
  | false =>
    rw [process_unconfigured _ _ configured]
    simp
  | true =>
    rw [process_eq _ _ configured]
    have quiet : Event.processPdo ∉ d.restoreEvents := by
      unfold restoreEvents
      split_ifs <;> simp
    cases ready : d.readyAfter with
    | false => cases taken : d.handshakes <;> simp [quiet]
    | true =>
      have entered : Event.processPdo ∈ d.pdoEvents currentTime := by
        unfold pdoEvents
        split <;> simp
      simp [entered]

theorem processPdo_process {d : SlaveDevice β} {s : Step} (emitted : Event.processPdo ∈ (d.step data s).2) :
    ∃ currentTime, s = .process currentTime := by
  rcases emitted_cases emitted with processed | ⟨_, same⟩ | others
  · exact processed
  · cases same
  · simp at others

theorem next_isReady (d : SlaveDevice β) (s : Step) (waiting : d.isReady = false) :
    (next data d s).isReady = true ↔
      s = .recoverState ∨ (∃ currentTime, s = .process currentTime) ∧ d.isConfigured = true ∧ d.readyAfter = true := by
  cases s with
  | recoverState => simp [next, step, recoverState]
  | receiveFromSlave inputs => simp [next, step, receiveFromSlave, waiting]
  | transferToSlave => simp [next, step, waiting]
  | preRecover => simp [next, step, preRecover, waiting]
  | resetState => simp [next, step, resetState]
  | connectionLost => simp [next_connectionLost]
  | onCommand task msg => simp [next_onCommand, waiting]
  | exitReset => simp [next_exitReset, waiting]
  | init call =>
    rw [next, step]
    rcases init_cases data call d with ⟨_, outcome⟩ | ⟨_, _, outcome⟩ | ⟨_, sdoLen, _, outcome⟩ <;>
      simp [outcome, waiting]
  | process currentTime =>
    cases configured : d.isConfigured with
    | false => simp [next_process_skipped configured, waiting]
    | true => simp [next_process configured]

end SlaveDevice

/-- A station and whether the last `init` has refused its board. -/
structure Guarded (β : Type) where
  station : Station β
  refused : Bool

namespace Guarded
variable {β : Type}
open SlaveDevice Station

/-- A running slave, before the checker has called `init` for it. -/
def start (d : SlaveDevice β) : Guarded β := ⟨Station.start d, false⟩

section Cells
variable [Cell β] (data : ConfigurationParser)

def next (g : Guarded β) (m : Move) : Guarded β where
  station := g.station.next data m
  -- A call that returns 1 lifts the refusal.
  refused :=
    match g.station.stepOf m with
    | some (.init call) => !(g.station.device.init data call).1
    | _ => g.refused

theorem exec_station (g : Guarded β) (run : List Move) :
    (exec (next data) g run).station = exec (Station.next data) g.station run :=
  exec_project (fun _ _ => rfl) g run

def endsPass (g : Guarded β) : Move → Bool
  | .check _ => g.station.phase == .tail
  | _ => false

/-- A board is not driven: no pass ends with `is_ready_` set, no step sets it and no process
data is exchanged. -/
structure NotDriven (g : Guarded β) (m : Move) : Prop where
  passEnds : g.endsPass m = true → (g.next data m).station.device.isReady = false
  notSet : g.station.device.isReady = false → (g.next data m).station.device.isReady = false
  noPdo : Event.processPdo ∉ g.station.events data m

instance (g : Guarded β) (m : Move) : Decidable (g.NotDriven data m) :=
  decidable_of_iff
    ((g.endsPass m = true → (g.next data m).station.device.isReady = false) ∧
      (g.station.device.isReady = false → (g.next data m).station.device.isReady = false) ∧
      Event.processPdo ∉ g.station.events data m)
    ⟨fun holds => ⟨holds.1, holds.2.1, holds.2.2⟩, fun quiet => ⟨quiet.passEnds, quiet.notSet, quiet.noPdo⟩⟩

omit [Cell β] in
/-- The places that could drive it are not reached: the data cycle does not process a configured
device that is ready or reports so, and no pass finds the slave again. -/
def StaysOut (g : Guarded β) : Move → Prop
  | .process _ => ¬(g.station.device.isConfigured = true ∧ g.station.device.readyAfter = true)
  | .check answer => ¬(g.station.phase = .tail ∧ g.station.recovers answer = true)
  | _ => True

def NotDrivenWhileRefused (g : Guarded β) (m : Move) : Prop := g.refused = true → g.NotDriven data m

instance (g : Guarded β) (m : Move) : Decidable (g.NotDrivenWhileRefused data m) :=
  inferInstanceAs (Decidable (_ → _))

omit [Cell β] in
def StaysOutWhileRefused (g : Guarded β) (m : Move) : Prop := g.refused = true → g.StaysOut m

omit [Cell β] in
def Held (g : Guarded β) : Prop :=
  g.refused = true → g.station.phase ≠ .reset → g.station.device.isReady = false

variable {data}

omit [Cell β] in
theorem checked_process {t : Station β} {answer : Answer} {currentTime : Int} :
    t.checked answer ≠ some (.process currentTime) := by
  unfold checked
  split
  · simp
  · split <;> simp
  · simp
  · simp
  · split_ifs <;> simp

omit [Cell β] in
theorem checked_recoverState {t : Station β} {answer : Answer} :
    t.checked answer = some .recoverState ↔ t.phase = .tail ∧ t.recovers answer = true := by
  unfold checked
  split <;> rename_i phase
  · simp [phase]
  · split <;> simp [phase]
  · simp [phase]
  · simp [phase]
  · split_ifs with found <;> simp [phase, found]

omit [Cell β] in
theorem checked_init {t : Station β} {answer : Answer} {call : InitCall}
    (called : t.checked answer = some (.init call)) : t.phase = .reconfig := by
  unfold checked at called
  split at called <;> rename_i phase
  · cases called
  · split at called <;> cases called
  · exact phase
  · cases called
  · split_ifs at called
    cases called

theorem notDriven_of_quiet {g : Guarded β} {m : Move}
    (quiet : ∀ s ∈ g.station.stepOf m, s ≠ .recoverState ∧ ∀ currentTime, s ≠ .process currentTime)
    (waiting : g.endsPass m = true → g.station.device.isReady = false) : g.NotDriven data m := by
  have notSet : g.station.device.isReady = false → (g.next data m).station.device.isReady = false := by
    intro waiting
    change (g.station.next data m).device.isReady = false
    rw [next_device, deviceAfter]
    cases taken : g.station.stepOf m with
    | none => exact waiting
    | some s =>
      obtain ⟨found, pdo⟩ := quiet s taken
      rw [nextOf, Bool.eq_false_iff, Ne, next_isReady _ _ waiting]
      rintro (same | ⟨⟨currentTime, same⟩, _⟩)
      · exact found same
      · exact pdo currentTime same
  constructor
  · exact fun ends => notSet (waiting ends)
  · exact notSet
  · intro emitted
    unfold Station.events at emitted
    cases taken : g.station.stepOf m with
    | none =>
      rw [taken] at emitted
      cases emitted
    | some s =>
      rw [taken] at emitted
      obtain ⟨currentTime, same⟩ := processPdo_process emitted
      exact (quiet s taken).2 currentTime same

theorem notDriven_process {g : Guarded β} {currentTime : Int} :
    g.NotDriven data (.process currentTime) ↔ g.StaysOut (.process currentTime) := by
  constructor
  · rintro ⟨_, _, noPdo⟩ driven
    exact noPdo (processPdo_emitted.mpr driven)
  · intro out
    constructor
    · intro ends
      cases ends
    · intro waiting
      change (SlaveDevice.next data g.station.device (.process currentTime)).isReady = false
      rw [Bool.eq_false_iff, Ne, next_isReady _ _ waiting]
      rintro (same | ⟨_, driven⟩)
      · cases same
      · exact out driven
    · intro emitted
      exact out (processPdo_emitted.mp emitted)

theorem staysOut_iff {g : Guarded β} (m : Move) (held : g.Held) (refused : g.refused = true) :
    g.StaysOut m ↔ g.NotDriven data m := by
  cases m with
  | process currentTime => exact notDriven_process.symm
  | check answer =>
    constructor
    · intro out
      apply notDriven_of_quiet
      · intro s taken
        constructor
        · rintro rfl
          exact out (checked_recoverState.mp taken)
        · rintro currentTime rfl
          exact checked_process taken
      · intro ends
        have tail : g.station.phase = .tail := by simpa [endsPass] using ends
        exact held refused (by simp [tail])
    · rintro ⟨passEnds, _, _⟩ ⟨tail, found⟩
      have waiting := passEnds (by simp [endsPass, tail])
      change (g.station.next data (.check answer)).device.isReady = false at waiting
      rw [next_device, deviceAfter, Station.stepOf, checked_recoverState.mpr ⟨tail, found⟩] at waiting
      cases waiting
  | _ =>
    refine iff_of_true trivial (notDriven_of_quiet ?_ fun ends => absurd ends Bool.false_ne_true)
    rintro _ ⟨⟩
    simp

theorem held_next {g : Guarded β} (m : Move) (held : g.Held) (quiet : g.NotDrivenWhileRefused data m) :
    (g.next data m).Held := by
  intro refused outside
  by_cases resets : ∃ answer, m = .check answer ∧ g.station.phase = .reset
  case pos =>
    obtain ⟨answer, rfl, phase⟩ := resets
    change (g.station.next data (.check answer)).device.isReady = false
    rw [next_device, deviceAfter, Station.stepOf, Station.checked, phase]
    rfl
  case neg =>
    have before : g.refused = true ∧ g.station.phase ≠ .reset := by
      cases m with
      | check answer =>
        have running : g.station.phase ≠ .reset := fun phase => resets ⟨answer, rfl, phase⟩
        refine ⟨?_, running⟩
        -- A call of `init` leads to the reset, so this move has made none.
        have uncalled : ∀ call, g.station.stepOf (.check answer) ≠ some (.init call) := by
          intro call called
          apply outside
          change (g.station.advance _ answer).phase = .reset
          rw [Station.advance, checked_init called]
          dsimp only
          split_ifs <;> rfl
        rw [next] at refused
        dsimp only at refused
        split at refused
        · rename_i call called
          exact absurd called (uncalled call)
        · exact refused
      | _ => exact ⟨refused, outside⟩
    exact (quiet before.1).notSet (held before.1 before.2)

/-- A run drives no refused board exactly if, while a board is refused, neither of the two
places is reached. -/
theorem refused_along_iff (d : SlaveDevice β) (run : List Move) :
    Along (next data) StaysOutWhileRefused (start d) run ↔
      Along (next data) (NotDrivenWhileRefused data) (start d) run := by
  have exact_at : ∀ (g : Guarded β) (m : Move), g.Held →
      (g.StaysOutWhileRefused m ↔ g.NotDrivenWhileRefused data m) := by
    intro g m held
    constructor
    · exact fun out refused => (staysOut_iff m held refused).mp (out refused)
    · exact fun quiet refused => (staysOut_iff m held refused).mpr (quiet refused)
  apply along_iff_along (I := Held)
  · intro refused
    cases refused
  · exact fun g m held out => held_next m held ((exact_at g m held).mp out)
  · exact exact_at

end Cells

/-- A slave that works is lost, and a board with serial number 8 comes back in its place. -/
def anotherBoard : List Move :=
  [.receiveFromSlave ⟨1, [0, 0, 0]⟩, .process 0, .transferToSlave,
   .receiveFromSlave ⟨1, [1, 0, 1]⟩, .process 1, .transferToSlave,
   .receiveFromSlave ⟨2, [2, 0, 1]⟩, .process 2, .transferToSlave,
   .receiveFromSlave ⟨3, []⟩, .process 3, .transferToSlave,
   .check ⟨EC_STATE_NONE, none, true⟩, .check ⟨EC_STATE_NONE, none, true⟩, .check ⟨EC_STATE_NONE, none, false⟩,
   .check ⟨EC_STATE_INIT, none, true⟩, .check ⟨EC_STATE_INIT, none, true⟩,
   .check ⟨EC_STATE_SAFE_OP, some { boardCall with snReply := some [8, 0, 0, 0] }, true⟩,
   .check ⟨EC_STATE_INIT, none, true⟩, .check ⟨EC_STATE_INIT, none, true⟩]

/-- The board is refused and sent back to INIT, and the same pass finds the slave again. -/
theorem refused_along_anotherBoard :
    ¬∀ (data : ConfigurationParser) (d : SlaveDevice UInt8), Configured data d → ∀ run : List Move,
      Along (next data) (NotDrivenWhileRefused data) (start d) run := by
  intro always
  exact absurd (always receiverData _ receiver_bytes_configured anotherBoard) (by decide)

end Guarded

end EcatMaster.Slave
