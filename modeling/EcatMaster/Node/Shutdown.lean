import EcatMaster.Node.Wire

/-! `on_shutdown` against the threads that it waits for.

The flags of the node tell where the shutdown is. From them follows what has gone over
the wire before the bus is closed.
-/

set_option autoImplicit false

namespace EcatMaster.Node
open Library Config Slave Tasks

def ShutdownPhase.rank : ShutdownPhase → Nat
  | .idle => 0
  | .waiting => 1
  | .stopping => 2
  | .joinData => 3
  | .joinChecker => 4
  | .closing => 5
  | .closed => 6

theorem ShutdownPhase.rank_le (phase : ShutdownPhase) : phase.rank ≤ 6 := by cases phase <;> decide

theorem ShutdownPhase.rank_closed {phase : ShutdownPhase} : phase.rank = 6 ↔ phase = .closed := by
  cases phase <;> decide

def DataPhase.leaves : DataPhase → Bool
  | .cleanup _ | .ended => true
  | _ => false

namespace Threads
variable {β : Type}

/-- What the flags say about the threads, in every interleaving. -/
structure Flags (t : Threads β) : Prop where
  exiting : t.exiting = decide (1 ≤ t.shutdown.rank)
  running : t.running = decide (t.shutdown.rank < 3)
  called : 2 ≤ t.shutdown.rank → t.exitingResetCalled = true
  started : t.exitingResetCalled = true → t.data ≠ .absent
  resetting : ∀ i, t.data = .exitReset i → t.exitingResetCalled = false
  leaving : t.data.leaves = true → t.running = false
  dataJoined : 4 ≤ t.shutdown.rank → t.data = .ended
  checkerJoined : 5 ≤ t.shutdown.rank → t.checkerJoins = true

theorem dataStep_leaves {t : Threads β} {place after : DataPhase} (step : DataStep t place after)
    (leaves : after.leaves = true) : place.leaves = true ∨ t.running = false := by
  cases step with
  | leave stopped => exact Or.inr stopped
  | cleanup more => exact Or.inl rfl
  | cleaned done => exact Or.inl rfl
  | ended => exact Or.inl rfl
  | _ => cases leaves

/-- The reset loop is entered before it has gone over the slaves, and stays in it before that. -/
theorem dataStep_exitReset {t : Threads β} {place : DataPhase} {i : Nat} (step : DataStep t place (.exitReset i)) :
    place = .exitCheck ∧ t.exitingResetCalled = false ∧ i = 0 ∨
      ∃ j, place = .exitReset j ∧ j < t.stations.length ∧ i = j + 1 := by
  cases step with
  | reset exiting pending => exact Or.inl ⟨rfl, pending, rfl⟩
  | exitReset more => exact Or.inr ⟨_, rfl, more, rfl⟩

theorem dataStep_absent {t : Threads β} {place : DataPhase} (step : DataStep t place .absent) : place = .absent := by
  cases step
  rfl

theorem flags_data {t : Threads β} (flags : Flags t) (io : Exchange) : Flags (t.dataTurn io) where
  exiting := flags.exiting
  running := flags.running
  called late := by
    change (t.exitingResetCalled || t.resetDone) = true
    rw [flags.called late, Bool.true_or]
  started called absent := by
    change (t.exitingResetCalled || t.resetDone) = true at called
    have here := dataStep_absent (show DataStep t t.data .absent from absent ▸ t.dataStep)
    rcases Bool.or_eq_true_iff.mp called with before | done
    · exact flags.started before here
    · rw [resetDone, here] at done
      cases done
  resetting i phase := by
    change (t.exitingResetCalled || t.resetDone) = false
    rcases dataStep_exitReset (show DataStep t t.data (.exitReset i) from phase ▸ t.dataStep) with
      ⟨here, pending, _⟩ | ⟨j, here, more, _⟩
    · rw [pending, resetDone, here]
      rfl
    · rw [flags.resetting j here, resetDone, here]
      exact decide_eq_false (Nat.not_le.mpr more)
  leaving leaves := (dataStep_leaves t.dataStep leaves).elim flags.leaving id
  dataJoined late := by
    change t.dataNext = .ended
    rw [dataNext, flags.dataJoined late]
  checkerJoined := flags.checkerJoined

theorem checkerJoins_checkNext {t : Threads β} (joins : t.checkerJoins = true) (ok : Bool) :
    t.checkNext ok = t.checker := by
  unfold checkerJoins at joins
  unfold checkNext
  rcases Bool.or_eq_true_iff.mp joins with ended | absent
  · rw [beq_iff_eq.mp ended]
  · rw [beq_iff_eq.mp absent]

theorem flags_check {t : Threads β} (flags : Flags t) (ok : Bool) : Flags (t.checkTurn ok) where
  exiting := flags.exiting
  running := flags.running
  called := flags.called
  started := flags.started
  resetting := flags.resetting
  leaving := flags.leaving
  dataJoined := flags.dataJoined
  checkerJoined late := by
    have joins := flags.checkerJoined late
    unfold checkerJoins
    change (t.checkNext ok == .ended || t.checkNext ok == .absent) = true
    rw [checkerJoins_checkNext joins]
    exact joins

theorem flags_shutdown {t : Threads β} (flags : Flags t) : Flags t.shutdownTurn := by
  have step := t.shutdownStep
  constructor
  case exiting =>
    change (t.exiting || t.shutdown == .idle) = decide (1 ≤ t.shutdownNext.rank)
    rw [flags.exiting]
    generalize t.shutdown = place at step ⊢
    generalize t.shutdownNext = after at step ⊢
    cases step <;> rfl
  case running =>
    change (t.running && t.shutdown != .stopping) = decide (t.shutdownNext.rank < 3)
    rw [flags.running]
    generalize t.shutdown = place at step ⊢
    generalize t.shutdownNext = after at step ⊢
    cases step <;> rfl
  case called =>
    intro late
    change 2 ≤ t.shutdownNext.rank at late
    change t.exitingResetCalled = true
    have before := flags.called
    generalize t.shutdown = place at step before
    generalize t.shutdownNext = after at step late
    cases step with
    | called done => exact done
    | call | wait pending => exact absurd late (by decide)
    | _ => exact before (by decide)
  case started => exact flags.started
  case resetting => exact flags.resetting
  case leaving =>
    intro leaves
    change (t.running && t.shutdown != .stopping) = false
    rw [flags.leaving leaves]
    rfl
  case dataJoined =>
    intro late
    change 4 ≤ t.shutdownNext.rank at late
    change t.data = .ended
    have before := flags.dataJoined
    have called := flags.called
    generalize t.shutdown = place at step before called
    generalize t.shutdownNext = after at step late
    cases step with
    | joinData joins =>
      rcases Bool.or_eq_true_iff.mp joins with ended | absent
      · exact beq_iff_eq.mp ended
      · exact absurd (beq_iff_eq.mp absent) (flags.started (called (by decide)))
    | waitChecker runs => exact before (by decide)
    | joinChecker joins => exact before (by decide)
    | close => exact before (by decide)
    | closed => exact before (by decide)
    | _ => exact absurd late (by decide)
  case checkerJoined =>
    intro late
    change 5 ≤ t.shutdownNext.rank at late
    change t.checkerJoins = true
    have before := flags.checkerJoined
    generalize t.shutdown = place at step before
    generalize t.shutdownNext = after at step late
    cases step with
    | joinChecker joins => exact joins
    | close => exact before (by decide)
    | closed => exact before (by decide)
    | _ => exact absurd late (by decide)

section Cells
variable [Cell β] {data : ConfigurationParser} {bus : Bus}

theorem flags_next {t : Threads β} (flags : Flags t) (a : Action) : Flags (t.next data a) := by
  -- The slaves do not matter for the flags.
  have turned : Flags (t.control a) := by
    cases a with
    | data io => exact flags_data flags io
    | check ok answer => exact flags_check flags ok
    | shutdown => exact flags_shutdown flags
    | command slave task msg => exact flags
  exact { turned with }

omit [Cell β] in
structure Fresh (n : EthercatNode β) : Prop where
  running : n.running = true
  exiting : n.exiting = false
  called : n.exitingResetCalled = false

theorem setup_fresh {node : EthercatNode β} (returned : setupEcat data bus = .ok (true, node)) : Fresh node := by
  obtain ⟨slaves, devices, _, rfl⟩ := (setupEcat_true_iff node).mp returned
  exact ⟨rfl, rfl, rfl⟩

omit [Cell β] in
theorem flags_start {n : EthercatNode β} (fresh : Fresh n) (expectedWkc : Int) : Flags (start n expectedWkc) where
  exiting := fresh.exiting
  running := fresh.running
  called late := absurd (show 2 ≤ 0 from late) (by decide)
  started called := by
    rw [start, fresh.called] at called
    cases called
  resetting i phase := fresh.called
  leaving leaves := by
    simp only [start] at leaves
    split at leaves <;> cases leaves
  dataJoined late := absurd (show 4 ≤ 0 from late) (by decide)
  checkerJoined late := absurd (show 5 ≤ 0 from late) (by decide)

def resetMark : Mark → Option Nat
  | .exitReset i _ => some i
  | _ => none

/-- The slaves that the exit reset has gone over. -/
def resets (t : Threads β) : Nat :=
  if t.exitingResetCalled then t.stations.length
  else match t.data with
    | .exitReset i => i
    | _ => 0

def Transferred (log : List Mark) (i : Nat) : Prop :=
  ∃ written frame, List.Sublist [.exitReset i written, .frame i frame] log

def Delivered (log : List Mark) (i : Nat) : Prop :=
  ∃ written frame, List.Sublist [.exitReset i written, .frame i frame, .send] log

theorem Transferred.append {log : List Mark} {i : Nat} (done : Transferred log i) (more : List Mark) :
    Transferred (log ++ more) i :=
  done.imp fun _ framed => framed.imp fun _ there => there.trans (List.sublist_append_left log more)

theorem Delivered.append {log : List Mark} {i : Nat} (done : Delivered log i) (more : List Mark) :
    Delivered (log ++ more) i :=
  done.imp fun _ framed => framed.imp fun _ there => there.trans (List.sublist_append_left log more)

/-- The turn in which the exit reset came to the slave has stored its initial values, if its arguments were sent,
or has skipped it. -/
def ResetWithin (data : ConfigurationParser) (t : Threads β) (run : List Action) (i : Nat) (written : Bool) : Prop :=
  ∃ first io rest s s', run = first ++ .data io :: rest ∧
    (exec (next data) t first).stations[i]? = some s ∧
    (exec (next data) t (first ++ [.data io])).stations[i]? = some s' ∧
    s.device.isArgSent = written ∧ s'.device = if written then s.device.writeInitValues else s.device

theorem reset_turn {t : Threads β} {a : Action} {i : Nat} {written : Bool}
    (marked : .exitReset i written ∈ t.marks a) :
    ∃ io s s', a = .data io ∧ t.stations[i]? = some s ∧ (t.next data a).stations[i]? = some s' ∧
      s.device.isArgSent = written ∧ s'.device = if written then s.device.writeInitValues else s.device := by
  cases a with
  | data io =>
    simp only [marks, dataMarks] at marked
    split at marked
    case h_2 j phase =>
      obtain ⟨s, here, same⟩ := Option.map_eq_some_iff.mp (Option.mem_toList.mp marked)
      obtain ⟨rfl, rfl⟩ := Mark.exitReset.inj same
      refine ⟨io, s, s.next data .exitReset, rfl, here, ?_, rfl, ?_⟩
      · have aim : t.target (.data io) = some (j, .exitReset) := by
          rw [target, phase]
          rfl
        rw [next_stations, getElem?_aimed, here, aim, ownAction, if_pos rfl]
        rfl
      · change s.device.exitReset.1 = _
        unfold SlaveDevice.exitReset
        split_ifs <;> rfl
    all_goals simp at marked
  | shutdown =>
    simp only [marks] at marked
    split at marked <;> simp at marked
  | check ok answer => cases marked
  | command slave task msg => cases marked

theorem reset_within {t : Threads β} {run : List Action} {i : Nat} {written : Bool}
    (marked : .exitReset i written ∈ log data t run) : ResetWithin data t run i written := by
  obtain ⟨first, a, rest, rfl, emitted⟩ := mem_labels marked
  obtain ⟨io, s, s', rfl, here, there, sent, after⟩ := reset_turn emitted
  refine ⟨first, io, rest, s, s', rfl, here, ?_, sent, after⟩
  rw [exec_append]
  exact there

def transfers : DataPhase → Bool
  | .transfer _ | .send => true
  | _ => false

/-- What has left the program when the exit reset has come this far. -/
structure OnExit (t : Threads β) (log : List Mark) : Prop where
  resets : log.filterMap resetMark = List.range t.resets
  bounded : t.resets ≤ t.stations.length
  transferred : t.exitingResetCalled = true → ∀ i < pending t.stations.length t.data, Transferred log i
  delivered : t.exitingResetCalled = true → transfers t.data = false → ∀ i < t.stations.length, Delivered log i

omit [Cell β] in
theorem resets_called {t : Threads β} (called : t.exitingResetCalled = true) : t.resets = t.stations.length :=
  if_pos called

omit [Cell β] in
theorem mem_resets {log : List Mark} {i : Nat} (member : i ∈ log.filterMap resetMark) :
    ∃ written, .exitReset i written ∈ log := by
  obtain ⟨mark, there, same⟩ := List.mem_filterMap.mp member
  cases mark with
  | exitReset j written =>
    cases same
    exact ⟨written, there⟩
  | _ => cases same

theorem unmarked_resets {t : Threads β} (noReset : ∀ i, t.data ≠ .exitReset i) :
    t.dataMarks.filterMap resetMark = [] := by
  unfold dataMarks
  cases phase : t.data with
  | exitReset i => exact absurd phase (noReset i)
  | transfer i =>
    dsimp only
    cases t.stations[i]? <;> rfl
  | checkReady i =>
    dsimp only
    split_ifs <;> rfl
  | _ => rfl

omit [Cell β] in
theorem resets_other {t : Threads β} (noReset : ∀ i, t.data ≠ .exitReset i) (io : Exchange) :
    (t.dataTurn io).resets = t.resets := by
  have undone : t.resetDone = false := by
    unfold resetDone
    split
    case h_1 i phase => exact absurd phase (noReset i)
    case h_2 => rfl
  have before : t.resets = if t.exitingResetCalled then t.stations.length else 0 := by
    unfold resets
    congr 1
    split
    case h_1 i phase => exact absurd phase (noReset i)
    case h_2 => rfl
  rw [before]
  change (if t.exitingResetCalled || t.resetDone then t.stations.length
    else match t.dataNext with
      | .exitReset i => i
      | _ => 0) = _
  rw [undone, Bool.or_false]
  congr 1
  split
  case h_1 i after =>
    rcases dataStep_exitReset (show DataStep t t.data (.exitReset i) from after ▸ t.dataStep) with
      ⟨_, _, first⟩ | ⟨j, here, _⟩
    · exact first
    · exact absurd here (noReset j)
  case h_2 => rfl

theorem resets_next (t : Threads β) (a : Action) : (t.next data a).resets = (t.control a).resets := by
  have slaves := length_next data t a
  have same : (t.control a).stations.length = t.stations.length := by cases a <;> rfl
  unfold resets
  rw [slaves, same]
  rfl

theorem onExit_resetting {t : Threads β} {log : List Mark} (flags : Flags t) (io : Exchange) (on : OnExit t log)
    {i : Nat} (phase : t.data = .exitReset i) : OnExit (t.next data (.data io)) (log ++ t.dataMarks) := by
  have pending := flags.resetting i phase
  have slaves := length_next data t (.data io)
  have here : t.resets = i := by
    rw [Threads.resets, pending, phase]
    rfl
  have order := here ▸ on.resets
  have bounded := here ▸ on.bounded
  by_cases more : i < t.stations.length
  case pos =>
    have uncalled : (t.next data (.data io)).exitingResetCalled = false := by
      change (t.exitingResetCalled || t.resetDone) = false
      rw [pending, Bool.false_or, resetDone, phase]
      exact decide_eq_false (Nat.not_le.mpr more)
    have moved : (t.next data (.data io)).data = .exitReset (i + 1) := by
      change t.dataNext = _
      rw [dataNext, phase]
      exact if_pos more
    have reached : (t.next data (.data io)).resets = i + 1 := by
      rw [Threads.resets, uncalled, moved]
      rfl
    have marked := dataMarks_exitReset phase more
    refine ⟨?_, ?_, ?_, ?_⟩
    · rw [reached, List.filterMap_append, order, marked, List.range_succ]
      rfl
    · rw [reached, slaves]
      exact more
    · intro called
      rw [uncalled] at called
      cases called
    · intro called
      rw [uncalled] at called
      cases called
  case neg =>
    have called : (t.next data (.data io)).exitingResetCalled = true := by
      change (t.exitingResetCalled || t.resetDone) = true
      rw [pending, Bool.false_or, resetDone, phase]
      exact decide_eq_true (Nat.not_lt.mp more)
    have moved : (t.next data (.data io)).data = .transfer 0 := by
      change t.dataNext = _
      rw [dataNext, phase]
      exact if_neg more
    have all : i = t.stations.length := Nat.le_antisymm bounded (Nat.not_lt.mp more)
    have marked : t.dataMarks = [] := by
      simp only [dataMarks, phase, List.getElem?_eq_none (Nat.not_lt.mp more)]
      rfl
    refine ⟨?_, ?_, ?_, ?_⟩
    · rw [resets_called called, slaves, marked, List.append_nil, order, all]
    · rw [resets_called called]
    · intro _ j before
      rw [moved] at before
      exact absurd before (Nat.not_lt_zero j)
    · intro _ other
      rw [moved] at other
      cases other

theorem onExit_data {t : Threads β} {log : List Mark} (flags : Flags t) (io : Exchange) (on : OnExit t log) :
    OnExit (t.next data (.data io)) (log ++ t.dataMarks) := by
  by_cases resetting : ∃ i, t.data = .exitReset i
  · obtain ⟨i, phase⟩ := resetting
    exact onExit_resetting flags io on phase
  have noReset := not_exists.mp resetting
  have slaves := length_next data t (.data io)
  have same : (t.next data (.data io)).resets = t.resets := (resets_next t _).trans (resets_other noReset io)
  have flag : (t.next data (.data io)).exitingResetCalled = t.exitingResetCalled := by
    change (t.exitingResetCalled || t.resetDone) = _
    unfold resetDone
    split
    case h_1 i phase => exact absurd phase (noReset i)
    case h_2 => exact Bool.or_false _
  have moved : (t.next data (.data io)).data = t.dataNext := rfl
  refine ⟨?_, ?_, ?_, ?_⟩
  · rw [List.filterMap_append, unmarked_resets noReset, List.append_nil, same]
    exact on.resets
  · rw [same, slaves]
    exact on.bounded
  · intro called j before
    rw [flag] at called
    rw [slaves, moved] at before
    have earlier := on.transferred called
    cases phase : t.data with
    | transfer i =>
      rw [phase] at earlier
      by_cases more : i < t.stations.length
      case pos =>
        have reached : j < i + 1 := by rwa [dataNext_transfer phase more] at before
        rcases Nat.lt_succ_iff_lt_or_eq.mp reached with passed | rfl
        · exact (earlier j passed).append _
        · -- The exit reset came to the slave before, and its transfer is the mark of this turn.
          have member : j ∈ log.filterMap resetMark := by
            rw [on.resets, resets_called called]
            exact List.mem_range.mpr more
          obtain ⟨written, reset⟩ := mem_resets member
          rw [dataMarks_transfer phase more]
          exact ⟨written, _, List.Sublist.append (List.singleton_sublist.mpr reset) (List.Sublist.refl _)⟩
      case neg =>
        have done := Nat.not_lt.mp more
        have reached : j < t.stations.length := by rwa [dataNext_transferred phase done] at before
        exact (earlier j (Nat.lt_of_lt_of_le reached done)).append _
    | send =>
      rw [dataNext_send phase] at before
      exact absurd before (Nat.not_lt_zero j)
    | _ =>
      have quiet := (quiet_turn t.stations.length (fun _ => by simp [phase])
        (show t.data ≠ .send by simp [phase])).2.2
      rw [quiet] at before
      exact absurd before (Nat.not_lt_zero j)
  · intro called other j inside
    rw [flag] at called
    rw [moved] at other
    rw [slaves] at inside
    cases phase : t.data with
    | transfer i =>
      rcases Nat.lt_or_ge i t.stations.length with more | done
      · rw [dataNext_transfer phase more] at other
        cases other
      · rw [dataNext_transferred phase done] at other
        cases other
    | send =>
      have earlier := on.transferred called
      rw [phase] at earlier
      obtain ⟨written, frame, there⟩ := earlier j inside
      rw [dataMarks_send phase]
      exact ⟨written, frame, there.append (List.Sublist.refl [Mark.send])⟩
    | _ => exact (on.delivered called (by rw [phase]; rfl) j inside).append _

theorem onExit_next {t : Threads β} {log : List Mark} (flags : Flags t) (a : Action) (on : OnExit t log) :
    OnExit (t.next data a) (log ++ t.marks a) := by
  by_cases turn : a.isData = true
  · cases a with
    | data io => exact onExit_data flags io on
    | _ => cases turn
  · have other := Bool.eq_false_iff.mpr turn
    obtain ⟨place, called⟩ := next_other data t other
    have slaves := length_next data t a
    have same : (t.next data a).resets = t.resets := by rw [resets, resets, place, called, slaves]
    have unmarked : (t.marks a).filterMap resetMark = [] := by
      cases a with
      | data io => cases other
      | shutdown =>
        rw [marks]
        split_ifs <;> rfl
      | _ => rfl
    refine ⟨?_, ?_, ?_, ?_⟩
    · rw [List.filterMap_append, unmarked, List.append_nil, same]
      exact on.resets
    · rw [same, slaves]
      exact on.bounded
    · rw [place, called, slaves]
      exact fun done i before => (on.transferred done i before).append _
    · rw [place, called, slaves]
      exact fun done quiet i inside => (on.delivered done quiet i inside).append _

/-- The bus is closed by the last step of the shutdown, when all frames of the exit reset are sent. -/
structure Closing (t : Threads β) (log : List Mark) : Prop where
  before : t.shutdown ≠ .closed → .close ∉ log
  after : t.shutdown = .closed →
    ∃ earlier, log = earlier ++ [.close] ∧ .close ∉ earlier ∧ ∀ i < t.stations.length, Delivered earlier i

theorem close_marked {t : Threads β} {a : Action} (marked : .close ∈ t.marks a) :
    a = .shutdown ∧ t.shutdown = .closing := by
  cases a with
  | data io =>
    simp only [marks, dataMarks] at marked
    split at marked
    · split at marked <;> simp at marked
    · obtain ⟨s, found, same⟩ := Option.map_eq_some_iff.mp (Option.mem_toList.mp marked)
      cases same
    · obtain ⟨s, found, same⟩ := Option.map_eq_some_iff.mp (Option.mem_toList.mp marked)
      cases same
    · simp at marked
    · cases marked
  | shutdown =>
    simp only [marks] at marked
    split at marked
    case isTrue closing => exact ⟨rfl, closing⟩
    case isFalse => cases marked
  | check ok answer => cases marked
  | command slave task msg => cases marked

theorem marks_closed {t : Threads β} (flags : Flags t) (closed : t.shutdown = .closed) (a : Action) :
    t.marks a = [] := by
  cases a with
  | data io =>
    have ended : t.data = .ended := flags.dataJoined (by rw [closed]; decide)
    rw [marks, dataMarks, ended]
  | shutdown =>
    rw [marks, closed]
    rfl
  | check ok answer => rfl
  | command slave task msg => rfl

theorem closes {t : Threads β} {a : Action} (closed : (t.next data a).shutdown = .closed)
    (before : t.shutdown ≠ .closed) : a = .shutdown ∧ t.shutdown = .closing := by
  cases a with
  | shutdown =>
    refine ⟨rfl, ?_⟩
    have step := t.shutdownStep
    rw [show t.shutdownNext = .closed from closed] at step
    generalize t.shutdown = place at step before ⊢
    cases step with
    | close => rfl
    | closed => exact absurd rfl before
  | _ => exact absurd closed before

theorem stays_closed {t : Threads β} (closed : t.shutdown = .closed) (a : Action) :
    (t.next data a).shutdown = .closed := by
  cases a with
  | shutdown =>
    change t.shutdownNext = .closed
    rw [shutdownNext, closed]
  | _ => exact closed

theorem closing_next {t : Threads β} {log : List Mark} (flags : Flags t) (on : OnExit t log) (a : Action)
    (closing : Closing t log) : Closing (t.next data a) (log ++ t.marks a) := by
  have slaves := length_next data t a
  by_cases closed : t.shutdown = .closed
  case pos =>
    rw [marks_closed flags closed, List.append_nil]
    refine ⟨fun open_ => absurd (stays_closed closed a) open_, fun _ => ?_⟩
    rw [slaves]
    exact closing.after closed
  case neg =>
    constructor
    · intro open_ member
      rcases List.mem_append.mp member with old | marked
      · exact closing.before closed old
      · obtain ⟨rfl, last⟩ := close_marked marked
        refine open_ ?_
        change t.shutdownNext = .closed
        rw [shutdownNext, last]
    · intro now
      obtain ⟨rfl, last⟩ := closes now closed
      have ended : t.data = .ended := flags.dataJoined (by rw [last]; decide)
      have called : t.exitingResetCalled = true := flags.called (by rw [last]; decide)
      refine ⟨log, by rw [marks, if_pos last], closing.before closed, ?_⟩
      rw [slaves]
      exact on.delivered called (by rw [ended]; rfl)

omit [Cell β] in
theorem split_last {α : Type} {x : α} {earlier later before : List α} (absent : x ∉ before)
    (same : earlier ++ x :: later = before ++ [x]) : earlier = before ∧ later = [] := by
  rcases List.append_eq_append_iff.mp same with ⟨middle, rfl, rest⟩ | ⟨middle, rfl, rest⟩
  · cases middle with
    | nil => exact ⟨(List.append_nil _).symm, (List.cons.inj rest).2⟩
    | cons y middle =>
      obtain ⟨rfl, _⟩ := List.cons.inj rest
      exact absurd (List.mem_append_right earlier List.mem_cons_self) absent
  · cases middle with
    | nil => exact ⟨List.append_nil _, (List.cons.inj rest).2.symm⟩
    | cons y middle => simp at rest

structure Logged (t : Threads β) (log : List Mark) : Prop where
  flags : Flags t
  onExit : OnExit t log
  closing : Closing t log

omit [Cell β] in
theorem logged_start {n : EthercatNode β} (fresh : Fresh n) (expectedWkc : Int) : Logged (start n expectedWkc) [] where
  flags := flags_start fresh expectedWkc
  onExit := by
    have uncalled : (start n expectedWkc).exitingResetCalled = false := fresh.called
    have none : (start n expectedWkc).resets = 0 := by
      rw [resets, uncalled]
      simp only [start]
      cases n.dataThread <;> rfl
    refine ⟨by rw [none]; rfl, by rw [none]; exact Nat.zero_le _, ?_, ?_⟩
    · intro called
      rw [uncalled] at called
      cases called
    · intro called
      rw [uncalled] at called
      cases called
  closing := ⟨fun _ => List.not_mem_nil, fun closed => nomatch closed⟩

theorem logged_run {node : EthercatNode β} (returned : setupEcat data bus = .ok (true, node)) (expectedWkc : Int)
    (run : List Action) :
    Logged (exec (next data) (start node expectedWkc) run) (log data (start node expectedWkc) run) :=
  labels_invariant (logged_start (setup_fresh returned) expectedWkc)
    (fun _ a _ so => ⟨flags_next so.flags a, onExit_next so.flags a so.onExit, closing_next so.flags so.onExit a so.closing⟩)
    run

/-- Whatever the order of the threads: the exit reset goes once over the slaves, in their order, and stores the
initial values of those whose arguments are sent. The bus is closed at most once, as the last thing that leaves the program, after both threads have ended,
and after the exit reset came to every slave and its buffer was transferred and sent, in this order. -/
theorem shutdown_order {node : EthercatNode β} (returned : setupEcat data bus = .ok (true, node)) (expectedWkc : Int)
    (run : List Action) :
    (log data (start node expectedWkc) run).filterMap resetMark <+: List.range node.slaves.slaveDevices.length ∧
    (∀ i written, .exitReset i written ∈ log data (start node expectedWkc) run →
      ResetWithin data (start node expectedWkc) run i written) ∧
    ∀ earlier later, log data (start node expectedWkc) run = earlier ++ .close :: later →
      later = [] ∧
      (exec (next data) (start node expectedWkc) run).data = .ended ∧
      (exec (next data) (start node expectedWkc) run).checkerJoins = true ∧
      ∀ i < node.slaves.slaveDevices.length, Delivered earlier i := by
  have slaves : (exec (next data) (start node expectedWkc) run).stations.length =
      node.slaves.slaveDevices.length := by
    rw [family_length next_stations, start, List.length_map]
  obtain ⟨flags, onExit, closing⟩ := logged_run returned expectedWkc run
  refine ⟨?_, fun _ _ marked => reset_within marked, ?_⟩
  · rw [onExit.resets, ← slaves]
    have part := List.take_prefix (exec (next data) (start node expectedWkc) run).resets
      (List.range (exec (next data) (start node expectedWkc) run).stations.length)
    rwa [List.take_range, Nat.min_eq_left onExit.bounded] at part
  · intro earlier later split
    have closed : (exec (next data) (start node expectedWkc) run).shutdown = .closed := by
      by_contra open_
      refine closing.before open_ ?_
      rw [split]
      exact List.mem_append_right _ List.mem_cons_self
    obtain ⟨before, whole, once, delivered⟩ := closing.after closed
    obtain ⟨rfl, rfl⟩ := split_last once (split.symm.trans whole)
    have rank : (exec (next data) (start node expectedWkc) run).shutdown.rank = 6 :=
      ShutdownPhase.rank_closed.mpr closed
    refine ⟨rfl, flags.dataJoined (by omega), flags.checkerJoined (by omega), ?_⟩
    rw [← slaves]
    exact delivered

/-- The data cycle reads these three bytes. -/
def echoing (bytes : List UInt8) : List Action := List.replicate 11 (.data ⟨1, ⟨SLAVE_INITIALIZING, bytes⟩, 0⟩)

/-- The receiver gets its two arguments, and the node is shut down in the next cycle. -/
def shutDown : List Action :=
  silent :: echoing [0, 0, 0] ++ echoing [1, 0, 1] ++ echoing [2, 0, 1] ++ .shutdown :: List.replicate 13 silent ++
    [.shutdown, .shutdown] ++ List.replicate 3 silent ++ [.shutdown, silentCheck, .shutdown, .shutdown]

theorem shutdown_order_receiver :
    .exitReset 0 true ∈ log receiverData (start receiverNode 1) shutDown ∧
    (log receiverData (start receiverNode 1) shutDown).getLast? = some .close ∧
    (log receiverData (start receiverNode 1) shutDown).filterMap resetMark <+: List.range 1 ∧
    (∀ i written, .exitReset i written ∈ log receiverData (start receiverNode 1) shutDown →
      ResetWithin receiverData (start receiverNode 1) shutDown i written) ∧
    ∀ earlier later, log receiverData (start receiverNode 1) shutDown = earlier ++ .close :: later →
      later = [] ∧ (exec (next receiverData) (start receiverNode 1) shutDown).data = .ended ∧
      (exec (next receiverData) (start receiverNode 1) shutDown).checkerJoins = true ∧ ∀ i < 1, Delivered earlier i :=
  ⟨by decide +kernel, by decide +kernel, shutdown_order receiver_setup 1 shutDown⟩

end Cells

end Threads

end EcatMaster.Node
