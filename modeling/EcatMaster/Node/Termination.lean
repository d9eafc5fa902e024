import EcatMaster.Node.Shutdown
import EcatMaster.Library.Progress

/-! `on_shutdown` comes to its end.

It waits for the exit reset, for the data thread and for the checker. Each of them comes
after a number of turns that depends on the number of slaves only, so the bus is closed
after a bounded number of rounds.
-/

set_option autoImplicit false

namespace EcatMaster.Node
open Library Config Slave Tasks

namespace Threads
variable {β : Type}

section Cells
variable [Cell β] {data : ConfigurationParser} {bus : Bus}

omit [Cell β] in
structure Called (slaves : Nat) (t : Threads β) : Prop where
  flags : Flags t
  started : t.data ≠ .absent
  length : t.stations.length = slaves
  called : 1 ≤ t.shutdown.rank

theorem rank_next (t : Threads β) (a : Action) : t.shutdown.rank ≤ (t.next data a).shutdown.rank := by
  cases a with
  | shutdown =>
    change t.shutdown.rank ≤ t.shutdownNext.rank
    have step := t.shutdownStep
    generalize t.shutdown = place at step ⊢
    generalize t.shutdownNext = after at step ⊢
    cases step <;> decide
  | _ => exact Nat.le_refl _

theorem started_next {t : Threads β} (a : Action) (started : t.data ≠ .absent) : (t.next data a).data ≠ .absent := by
  cases a with
  | data io =>
    intro absent
    exact started (dataStep_absent (show DataStep t t.data .absent from absent ▸ t.dataStep))
  | _ => exact started

theorem called_next (data : ConfigurationParser) {slaves : Nat} {t : Threads β} (a : Action)
    (called : Called slaves t) :
    Called slaves (t.next data a) where
  flags := flags_next called.flags a
  started := started_next a called.started
  length := (length_next data t a).trans called.length
  called := Nat.le_trans called.called (rank_next t a)

/-- The turns of the data thread before it has gone through the exit reset. -/
def resetLeft (slaves : Nat) : DataPhase → Nat
  | .exitReset i => slaves - i + 1
  | .exitCheck => slaves + 2
  | .process i => slaves - i + (slaves + 3)
  | .checkReady i => slaves - i + (2 * slaves + 4)
  | .receive i => slaves - i + (3 * slaves + 5)
  | .exchange => 4 * slaves + 6
  | .loop => 4 * slaves + 7
  | .starting | .send => 4 * slaves + 8
  | .transfer i => slaves - i + (4 * slaves + 9)
  | .absent | .cleanup _ | .ended => 0

/-- The turns of the data thread before it has ended, once the loop is to be left. -/
def leaveLeft (slaves : Nat) : DataPhase → Nat
  | .cleanup i => slaves - i + 1
  | .loop => slaves + 2
  | .starting | .send => slaves + 3
  | .transfer i => slaves - i + (slaves + 4)
  | .exitCheck => 2 * slaves + 5
  | .process i => slaves - i + (2 * slaves + 6)
  | .checkReady i => slaves - i + (3 * slaves + 7)
  | .receive i => slaves - i + (4 * slaves + 8)
  | .exchange => 5 * slaves + 9
  | .absent | .exitReset _ | .ended => 0

omit [Cell β] in
theorem resetLeft_step {t : Threads β} {place after : DataPhase} (step : DataStep t place after)
    (running : t.running = true) (exiting : t.exiting = true) (pending : t.exitingResetCalled = false)
    (started : place ≠ .absent) (stays : place.leaves = false) :
    (∃ i, place = .exitReset i ∧ t.stations.length ≤ i) ∨
      resetLeft t.stations.length after + 1 ≤ resetLeft t.stations.length place := by
  cases step with
  | absent => exact absurd rfl started
  | leave stopped =>
    rw [running] at stopped
    cases stopped
  | keep other => exact absurd ⟨exiting, pending⟩ other
  | resetDone done => exact Or.inl ⟨_, rfl, done⟩
  | cleanup more => cases stays
  | cleaned done => cases stays
  | ended => cases stays
  | _ =>
    refine Or.inr ?_
    simp only [resetLeft]
    omega

omit [Cell β] in
theorem leaveLeft_step {t : Threads β} {place after : DataPhase} (step : DataStep t place after)
    (stopped : t.running = false) (called : t.exitingResetCalled = true) (started : place ≠ .absent)
    (noReset : ∀ i, place ≠ .exitReset i) (runs : place ≠ .ended) :
    leaveLeft t.stations.length after + 1 ≤ leaveLeft t.stations.length place := by
  cases step with
  | absent => exact absurd rfl started
  | enter running =>
    rw [running] at stopped
    cases stopped
  | reset exiting pending =>
    rw [called] at pending
    cases pending
  | exitReset more => exact absurd rfl (noReset _)
  | resetDone done => exact absurd rfl (noReset _)
  | ended => exact absurd rfl runs
  | _ =>
    simp only [leaveLeft]
    omega

def kinds : List (Action → Bool) := [Action.isData, Action.isCheck, Action.isShutdown]

theorem not_data {a : Action} (turn : ¬a.isData = true) : a.isData = false := Bool.eq_false_iff.mpr turn

theorem reset_reached (data : ConfigurationParser) (slaves : Nat) :
    LeadsTo (next data (β := β)) kinds (5 * slaves + 10) (Called slaves)
      (fun t => Called slaves t ∧ t.exitingResetCalled = true) := by
  refine LeadsTo.of_measure (I := Called slaves) (k := Action.isData) (by simp [kinds])
    (fun t => resetLeft slaves t.data) ?_ ?_
  · intro t called
    refine ⟨called, ?_⟩
    cases t.data <;> simp only [resetLeft] <;> omega
  · intro t a called waits
    have kept := called_next data a called
    have pending : t.exitingResetCalled = false := Bool.eq_false_iff.mpr fun done => waits ⟨called, done⟩
    have early : t.shutdown.rank < 2 := by
      by_contra late
      rw [called.flags.called (Nat.not_lt.mp late)] at pending
      cases pending
    have running : t.running = true := by
      rw [called.flags.running]
      exact decide_eq_true (Nat.lt_of_lt_of_le early (by decide))
    have exiting : t.exiting = true := by
      rw [called.flags.exiting]
      exact decide_eq_true called.called
    have stays : t.data.leaves = false := by
      refine Bool.eq_false_iff.mpr fun leaves => ?_
      rw [called.flags.leaving leaves] at running
      cases running
    by_cases turn : a.isData = true
    · cases a with
      | data io =>
        rcases resetLeft_step t.dataStep running exiting pending called.started stays with ⟨i, phase, done⟩ | nearer
        · refine Or.inl ⟨kept, ?_⟩
          have all : t.resetDone = true := by
            rw [resetDone, phase]
            exact decide_eq_true done
          change (t.exitingResetCalled || t.resetDone) = true
          rw [all, Bool.or_true]
        · rw [called.length] at nearer
          exact Or.inr ⟨kept, nearer⟩
      | _ => cases turn
    · rw [(next_other data t (not_data turn)).1, not_data turn]
      exact Or.inr ⟨kept, Nat.le_refl _⟩

omit [Cell β] in
structure Stopped (slaves : Nat) (t : Threads β) : Prop where
  called : Called slaves t
  stopped : 3 ≤ t.shutdown.rank

theorem stopped_next (data : ConfigurationParser) {slaves : Nat} {t : Threads β} (a : Action)
    (stopped : Stopped slaves t) :
    Stopped slaves (t.next data a) :=
  ⟨called_next data a stopped.called, Nat.le_trans stopped.stopped (rank_next t a)⟩

omit [Cell β] in
theorem rank_step {t : Threads β} {place after : ShutdownPhase} (step : ShutdownStep t place after)
    (called : t.exitingResetCalled = true) (dataJoins : 3 ≤ place.rank → t.dataJoins = true)
    (checkerJoins : 4 ≤ place.rank → t.checkerJoins = true) (more : place ≠ .closed) :
    place.rank + 1 ≤ after.rank := by
  cases step with
  | wait pending =>
    rw [called] at pending
    cases pending
  | waitData runs =>
    rw [dataJoins (by decide)] at runs
    cases runs
  | waitChecker runs =>
    rw [checkerJoins (by decide)] at runs
    cases runs
  | closed => exact absurd rfl more
  | _ => decide

theorem stop_reached (slaves : Nat) :
    LeadsTo (next data (β := β)) kinds 3 (fun t => Called slaves t ∧ t.exitingResetCalled = true)
      (Stopped slaves) := by
  refine LeadsTo.of_measure (I := fun t => Called slaves t ∧ t.exitingResetCalled = true)
    (k := Action.isShutdown) (by simp [kinds]) (fun t => 3 - t.shutdown.rank) ?_ ?_
  · intro t called
    have := called.1.called
    exact ⟨called, by omega⟩
  · intro t a ⟨called, done⟩ waits
    have kept := called_next data a called
    have still : (t.next data a).exitingResetCalled = true := by
      cases a with
      | data io =>
        change (t.exitingResetCalled || t.resetDone) = true
        rw [done, Bool.true_or]
      | _ => exact done
    have early : t.shutdown.rank < 3 := by
      by_contra late
      exact waits ⟨called, Nat.not_lt.mp late⟩
    refine Or.inr ⟨⟨kept, still⟩, ?_⟩
    cases a with
    | shutdown =>
      have higher := rank_step t.shutdownStep done (fun late => absurd early (Nat.not_lt.mpr late))
        (fun late => absurd early (by omega)) (fun closed => absurd early (by rw [closed]; decide))
      change 3 - t.shutdownNext.rank + 1 ≤ 3 - t.shutdown.rank
      omega
    | _ => exact Nat.le_refl _

omit [Cell β] in
structure Ended (slaves : Nat) (t : Threads β) : Prop where
  stopped : Stopped slaves t
  ended : t.data = .ended

theorem data_ended (slaves : Nat) :
    LeadsTo (next data (β := β)) kinds (5 * slaves + 10) (Stopped slaves) (Ended slaves) := by
  refine LeadsTo.of_measure (I := Stopped slaves) (k := Action.isData) (by simp [kinds])
    (fun t => leaveLeft slaves t.data) ?_ ?_
  · intro t stopped
    refine ⟨stopped, ?_⟩
    cases t.data <;> simp only [leaveLeft] <;> omega
  · intro t a stopped runs
    have kept := stopped_next data a stopped
    have flags := stopped.called.flags
    have late := stopped.stopped
    have done : t.exitingResetCalled = true := flags.called (by omega)
    have left : t.running = false := by
      rw [flags.running]
      exact decide_eq_false (by omega)
    have noReset : ∀ i, t.data ≠ .exitReset i := by
      intro i phase
      rw [flags.resetting i phase] at done
      cases done
    by_cases turn : a.isData = true
    · cases a with
      | data io =>
        have nearer := leaveLeft_step t.dataStep left done stopped.called.started noReset
          (fun ended => runs ⟨stopped, ended⟩)
        rw [stopped.called.length] at nearer
        exact Or.inr ⟨kept, nearer⟩
      | _ => cases turn
    · rw [(next_other data t (not_data turn)).1, not_data turn]
      exact Or.inr ⟨kept, Nat.le_refl _⟩

omit [Cell β] in
/-- The turns of the checker before it has ended, once its loop is to be left. -/
def checkLeft (t : Threads β) : Nat :=
  match t.checker with
  | .absent | .ended => 0
  | .loop => 1
  | .pass i =>
    match t.stations[i]?.map Station.phase with
    | none => 2
    | some phase => sectionsLeft phase + 5 * (t.stations.length - (i + 1)) + 2

omit [Cell β] in
theorem checkLeft_le (t : Threads β) : t.checkLeft ≤ 5 * t.stations.length + 2 := by
  unfold checkLeft
  split
  · exact Nat.zero_le _
  · exact Nat.zero_le _
  · exact Nat.le_add_left 1 _
  · split
    case h_1 => exact Nat.le_add_left 2 _
    case h_2 i phase here =>
      obtain ⟨s, found, _⟩ := Option.map_eq_some_iff.mp here
      have inside := (List.getElem?_eq_some_iff.mp found).1
      have := sectionsLeft_le phase
      omega

theorem checkLeft_pass {t : Threads β} {i : Nat} (phase : t.checker = .pass i) (ok : Bool) (answer : Answer) :
    (t.next data (.check ok answer)).checkLeft + 1 ≤ t.checkLeft := by
  have slaves := length_next data t (.check ok answer)
  have moved : (t.next data (.check ok answer)).checker = t.checkNext ok := rfl
  rcases check_pass data phase ok answer with ⟨here, loop⟩ | ⟨s, here, after, goes⟩
  · have before : t.checkLeft = 2 := by
      rw [checkLeft, phase]
      simp only [here, Option.map_none]
    rw [before, checkLeft, moved, loop]
  · have inside := (List.getElem?_eq_some_iff.mp here).1
    have before : t.checkLeft = sectionsLeft s.phase + 5 * (t.stations.length - (i + 1)) + 2 := by
      rw [checkLeft, phase]
      simp only [here, Option.map_some]
    rcases goes with ⟨last, goesOn, _⟩ | ⟨_, stays, nearer⟩
    · rw [before, last, checkLeft, moved, goesOn, slaves, show sectionsLeft .tail = 1 from rfl]
      dsimp only
      split
      case h_1 => omega
      case h_2 p found =>
        obtain ⟨s', there, _⟩ := Option.map_eq_some_iff.mp found
        have inside' := (List.getElem?_eq_some_iff.mp there).1
        have := sectionsLeft_le p
        omega
    · rw [before, checkLeft, moved, stays, slaves]
      simp only [after, Option.map_some]
      omega

theorem ended_next (data : ConfigurationParser) {slaves : Nat} {t : Threads β} (a : Action) (ended : Ended slaves t) :
    Ended slaves (t.next data a) where
  stopped := stopped_next data a ended.stopped
  ended := by
    cases a with
    | data io =>
      change t.dataNext = .ended
      rw [dataNext, ended.ended]
    | _ => exact ended.ended

theorem checker_ended (slaves : Nat) :
    LeadsTo (next data (β := β)) kinds (5 * slaves + 3) (Ended slaves)
      (fun t => Ended slaves t ∧ t.checkerJoins = true) := by
  refine LeadsTo.of_measure (I := Ended slaves) (k := Action.isCheck) (by simp [kinds]) checkLeft ?_ ?_
  · intro t ended
    have bound := t.checkLeft_le
    rw [ended.stopped.called.length] at bound
    exact ⟨ended, Nat.lt_succ_of_le bound⟩
  · intro t a ended runs
    have kept := ended_next data a ended
    by_cases turn : a.isCheck = true
    · cases a with
      | check ok answer =>
        cases phase : t.checker with
        | pass i => exact Or.inr ⟨kept, checkLeft_pass phase ok answer⟩
        | loop =>
          have left : t.running = false := by
            have late := ended.stopped.stopped
            rw [ended.stopped.called.flags.running]
            exact decide_eq_false (by omega)
          have moved : (t.next data (.check ok answer)).checker = .ended := by
            change t.checkNext ok = .ended
            rw [checkNext, phase, left]
            rfl
          refine Or.inl ⟨kept, ?_⟩
          rw [checkerJoins, moved]
          rfl
        | absent => exact absurd ⟨ended, by rw [checkerJoins, phase]; rfl⟩ runs
        | ended => exact absurd ⟨ended, by rw [checkerJoins, phase]; rfl⟩ runs
      | _ => cases turn
    · have other := Bool.eq_false_iff.mpr turn
      have same : (t.next data a).checker = t.checker := by
        cases a with
        | check ok answer => cases other
        | _ => rfl
      have left : (t.next data a).checkLeft = t.checkLeft := by
        unfold checkLeft
        simp only [same, other_phase data t other, length_next]
      rw [left, other]
      exact Or.inr ⟨kept, Nat.le_refl _⟩

theorem close_reached (slaves : Nat) :
    LeadsTo (next data (β := β)) kinds 4 (fun t => Ended slaves t ∧ t.checkerJoins = true)
      (fun t => t.shutdown = .closed) := by
  refine LeadsTo.of_measure (I := fun t => Ended slaves t ∧ t.checkerJoins = true) (k := Action.isShutdown)
    (by simp [kinds]) (fun t => 6 - t.shutdown.rank) ?_ ?_
  · intro t ended
    have := ended.1.stopped.stopped
    exact ⟨ended, by omega⟩
  · intro t a ⟨ended, joins⟩ opened
    have kept := ended_next data a ended
    have still : (t.next data a).checkerJoins = true := by
      cases a with
      | check ok answer =>
        change (t.checkNext ok == .ended || t.checkNext ok == .absent) = true
        rw [checkerJoins_checkNext joins]
        exact joins
      | _ => exact joins
    refine Or.inr ⟨⟨kept, still⟩, ?_⟩
    cases a with
    | shutdown =>
      have late := ended.stopped.stopped
      have higher := rank_step t.shutdownStep (ended.stopped.called.flags.called (by omega))
        (fun _ => by rw [dataJoins, ended.ended]; rfl) (fun _ => joins) opened
      have bound := t.shutdownNext.rank_le
      change 6 - t.shutdownNext.rank + 1 ≤ 6 - t.shutdown.rank
      omega
    | _ => exact Nat.le_refl _

/-- Once `on_shutdown` is called on a node with threads, the bus is closed within 15 rounds for each
slave and 30 more, where every thread takes a turn in each round, in any order and between any
commands. -/
theorem shutdown_ends {node : EthercatNode β} (returned : setupEcat data bus = .ok (true, node))
    (operational : node.dataThread = true) (expectedWkc : Int) (run more : List Action)
    (called : (exec (next data) (start node expectedWkc) run).exiting = true)
    (rounds : Rounds kinds (15 * node.slaves.slaveDevices.length + 30) more) :
    (exec (next data) (start node expectedWkc) (run ++ more)).shutdown = .closed := by
  have slaves : (exec (next data) (start node expectedWkc) run).stations.length =
      node.slaves.slaveDevices.length := by
    rw [family_length next_stations, start, List.length_map]
  have flags := (logged_run returned expectedWkc run).flags
  have started : (exec (next data) (start node expectedWkc) run).data ≠ .absent := by
    refine exec_invariant (I := fun t : Threads β => t.data ≠ .absent) ?_ fun _ a => started_next a
    simp only [start, operational, if_true]
    exact DataPhase.noConfusion
  have begun : Called node.slaves.slaveDevices.length (exec (next data) (start node expectedWkc) run) := by
    refine ⟨flags, started, slaves, ?_⟩
    rw [flags.exiting] at called
    exact of_decide_eq_true called
  have leads := ((((reset_reached data (β := β) node.slaves.slaveDevices.length).trans
    (stop_reached _)).trans (data_ended _)).trans (checker_ended _)).trans (close_reached _)
  have bound : 5 * node.slaves.slaveDevices.length + 10 + 3 + (5 * node.slaves.slaveDevices.length + 10) +
      (5 * node.slaves.slaveDevices.length + 3) + 4 = 15 * node.slaves.slaveDevices.length + 30 := by omega
  rw [exec_append]
  exact leads.final (fun _ a closed => stays_closed closed a) begun (bound ▸ rounds)

theorem shutdown_ends_receiver :
    (exec (next receiverData) (start receiverNode 1)
      ([.shutdown] ++ (List.replicate 45 [silent, silentCheck, .shutdown]).flatten)).shutdown = .closed :=
  shutdown_ends receiver_setup rfl 1 [.shutdown] _ rfl (Rounds.replicate (by decide) 45)

end Cells

end Threads

end EcatMaster.Node
