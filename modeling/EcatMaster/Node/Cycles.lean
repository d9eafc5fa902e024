import EcatMaster.Node.Delivery
import EcatMaster.Slave.Cycles

/-! The data cycles of one slave within the threads.

The data thread goes over all slaves three times before it sends, and callbacks come in
between. To one slave all this is a sequence of data cycles, as long as neither the state
checker nor the exit touches it.
-/

set_option autoImplicit false

namespace EcatMaster.Node
open Library Config Slave SlaveDevice Tasks

def DataPhase.stageAt (i : Nat) : DataPhase → Stage
  | .receive k => if k ≤ i then .receive else .process
  | .checkReady _ => .process
  | .process k => if k ≤ i then .process else .transfer
  | .exitCheck | .exitReset _ => .transfer
  | .transfer k => if k ≤ i then .transfer else .receive
  | .absent | .starting | .loop | .exchange | .send | .cleanup _ | .ended => .receive

/-- The step of a turn of the data thread for slave `i`, with the stage after it. -/
inductive SlaveTurn (i : Nat) (io : Exchange) : DataPhase → DataPhase → List Step → Prop where
  | receive {after : DataPhase} (next : after.stageAt i = .process) :
      SlaveTurn i io (.receive i) after [.receiveFromSlave io.inputs]
  | process {after : DataPhase} (next : after.stageAt i = .transfer) :
      SlaveTurn i io (.process i) after [.process io.currentTime]
  | transfer {after : DataPhase} (next : after.stageAt i = .receive) :
      SlaveTurn i io (.transfer i) after [.transferToSlave]
  | exitReset {place after : DataPhase} : SlaveTurn i io place after [.exitReset]
  | elsewhere {place after : DataPhase} (other : place ≠ .receive i) (same : after.stageAt i = place.stageAt i) :
      SlaveTurn i io place after []

namespace Threads
variable {data : ConfigurationParser} {i : Nat}

def CyclesAt (i : Nat) (t : Threads UInt8) (a : Action) : Prop := ∀ s ∈ t.stepsAt i a, OfCycle s

instance (i : Nat) (t : Threads UInt8) (a : Action) : Decidable (CyclesAt i t a) :=
  inferInstanceAs (Decidable (∀ _ ∈ _, _))

theorem stepsAt_data {t : Threads UInt8} {s : Station UInt8} (here : t.stations[i]? = some s) (io : Exchange) :
    t.stepsAt i (.data io) =
      match t.data with
      | .receive k => if k = i then [.receiveFromSlave io.inputs] else []
      | .process k => if k = i then [.process io.currentTime] else []
      | .exitReset k => if k = i then [.exitReset] else []
      | .transfer k => if k = i then [.transferToSlave] else []
      | _ => [] := by
  rw [stepsAt, here, target]
  cases t.data with
  | receive k | process k | exitReset k | transfer k =>
    dsimp only [DataPhase.move, ownAction]
    split_ifs <;> rfl
  | _ => rfl

theorem slaveTurn {t : Threads UInt8} {s : Station UInt8} (here : t.stations[i]? = some s) (io : Exchange) :
    SlaveTurn i io t.data t.dataNext (t.stepsAt i (.data io)) := by
  have inside := (List.getElem?_eq_some_iff.mp here).1
  rw [stepsAt_data here]
  generalize place_eq : t.data = place
  generalize after_eq : t.dataNext = after
  have step : DataStep t place after := place_eq ▸ after_eq ▸ t.dataStep
  cases step with
  | @receive k more =>
    dsimp only
    split_ifs with own
    · subst own
      exact .receive (if_neg (by omega))
    · exact .elsewhere (by simpa using own) (by simp only [DataPhase.stageAt]; split_ifs <;> first | rfl | omega)
  | @process k more =>
    dsimp only
    split_ifs with own
    · subst own
      exact .process (if_neg (by omega))
    · exact .elsewhere (by simp) (by simp only [DataPhase.stageAt]; split_ifs <;> first | rfl | omega)
  | @transfer k more =>
    dsimp only
    split_ifs with own
    · subst own
      exact .transfer (if_neg (by omega))
    · exact .elsewhere (by simp) (by simp only [DataPhase.stageAt]; split_ifs <;> first | rfl | omega)
  | @exitReset k more =>
    dsimp only
    split_ifs with own
    · exact .exitReset
    · exact .elsewhere (by simp) rfl
  | @received k done ready | @check k done waiting | @processed k done | @resetDone k done | @transferred k done =>
    dsimp only
    rw [if_neg (by omega)]
    refine .elsewhere ?_ (by simp only [DataPhase.stageAt]; split_ifs <;> first | rfl | omega)
    simp only [ne_eq, DataPhase.receive.injEq, reduceCtorEq, not_false_eq_true]
    try omega
  | _ => exact .elsewhere (by simp) rfl

theorem checked_outside {s : Station UInt8} {answer : Answer} {step : Step} (taken : s.checked answer = some step) :
    ¬OfCycle step := by
  unfold Station.checked at taken
  split at taken
  · cases taken
  · split at taken
    · cases taken
      exact id
    · cases taken
      exact id
    · cases taken
    · cases taken
  · obtain ⟨call, _, rfl⟩ := Option.map_eq_some_iff.mp taken
    exact id
  · cases taken
    exact id
  · split at taken
    · cases taken
      exact id
    · cases taken

theorem check_apart {t : Threads UInt8} {s : Station UInt8} (here : t.stations[i]? = some s) {ok : Bool}
    {answer : Answer}
    {step : Step} (member : step ∈ t.stepsAt i (.check ok answer)) : ¬OfCycle step := by
  obtain ⟨m, own, taken⟩ := List.mem_flatMap.mp member
  rw [here, Option.mem_toList, Option.bind_some] at taken
  rw [target] at own
  cases place : t.checker with
  | pass k =>
    rw [place, CheckerPhase.move, ownAction] at own
    split at own
    · cases List.mem_singleton.mp own
      exact checked_outside taken
    · cases own
  | _ =>
    rw [place] at own
    cases own

theorem stepsAt_command {t : Threads UInt8} {s : Station UInt8} (here : t.stations[i]? = some s) (k task : Nat)
    (msg : CommandMessage) : t.stepsAt i (.command k task msg) = if k = i then [.onCommand task msg] else [] := by
  rw [stepsAt, here, target, ownAction]
  split_ifs <;> rfl

theorem inCycles_next (data : ConfigurationParser) {t : Threads UInt8} {a : Action} {s : Station UInt8}
    {steps : List Step}
    {cycles : List Cycle} {begun : Begun} (here : t.stations[i]? = some s)
    (within : InCycles steps (t.data.stageAt i) cycles begun) (quiet : CyclesAt i t a) :
    ∃ cycles begun, InCycles (steps ++ t.stepsAt i a) ((t.next data a).data.stageAt i) cycles begun := by
  cases a with
  | data io =>
    have turn := slaveTurn here io
    change ∃ cycles begun, InCycles (steps ++ t.stepsAt i (.data io)) (t.dataNext.stageAt i) cycles begun
    unfold CyclesAt at quiet
    generalize t.stepsAt i (.data io) = taken at turn quiet ⊢
    generalize t.data = place at turn within
    cases turn with
    | receive next =>
      rw [DataPhase.stageAt, if_pos (Nat.le_refl i)] at within
      rw [next]
      exact ⟨cycles, within.receive io.inputs⟩
    | process next =>
      rw [DataPhase.stageAt, if_pos (Nat.le_refl i)] at within
      rw [next]
      exact ⟨cycles, within.process io.currentTime⟩
    | transfer next =>
      rw [DataPhase.stageAt, if_pos (Nat.le_refl i)] at within
      rw [next]
      obtain ⟨c, after⟩ := within.transfer
      exact ⟨cycles ++ [c], .idle [], after⟩
    | exitReset => exact (quiet .exitReset (List.mem_singleton_self _)).elim
    | elsewhere _ same =>
      rw [same, List.append_nil]
      exact ⟨cycles, begun, within⟩
  | check ok answer =>
    have none : t.stepsAt i (.check ok answer) = [] :=
      List.eq_nil_iff_forall_not_mem.mpr fun step member => check_apart here member (quiet step member)
    rw [none, List.append_nil]
    exact ⟨cycles, begun, within⟩
  | shutdown =>
    rw [show t.stepsAt i .shutdown = [] from rfl, List.append_nil]
    exact ⟨cycles, begun, within⟩
  | command k task msg =>
    rw [stepsAt_command here]
    split_ifs
    · exact ⟨cycles, _, within.command task msg⟩
    · rw [List.append_nil]
      exact ⟨cycles, begun, within⟩

def frameOf (i : Nat) : Mark → Option Frame
  | .frame k frame => if k = i then some frame else none
  | _ => none

theorem frames_outside (d : SlaveDevice UInt8) (steps : List Step) (none : .transferToSlave ∉ steps) :
    labels (SlaveDevice.next data) stepFrame d steps = [] := by
  induction steps generalizing d with
  | nil => rfl
  | cons s steps ih =>
    obtain ⟨apart, others⟩ := not_or.mp (List.mem_cons.not.mp none)
    rw [labels, ih _ others, List.append_nil]
    cases s with
    | transferToSlave => exact absurd rfl apart
    | _ => rfl

theorem frames_next (data : ConfigurationParser) {t : Threads UInt8} {s : Station UInt8}
    (here : t.stations[i]? = some s)
    (a : Action) : (t.marks a).filterMap (frameOf i) =
      labels (SlaveDevice.next data) stepFrame s.device (t.stepsAt i a) := by
  cases a with
  | data io =>
    rw [stepsAt_data here, marks, dataMarks]
    cases t.data with
    | transfer k =>
      dsimp only
      split_ifs with own
      · subst own
        rw [here]
        simp [frameOf, labels, stepFrame]
      · cases t.stations[k]? <;> simp [frameOf, own, labels]
    | checkReady k =>
      dsimp only
      split_ifs <;> rfl
    | exitReset k =>
      dsimp only
      cases t.stations[k]? <;> split_ifs <;> rfl
    | receive k | process k =>
      dsimp only
      split_ifs <;> rfl
    | _ => rfl
  | check ok answer =>
    exact (frames_outside s.device _ fun member => check_apart here member trivial).symm
  | shutdown =>
    rw [marks]
    split_ifs <;> rfl
  | command k task msg =>
    rw [stepsAt_command here]
    split_ifs <;> rfl

theorem device_exec (data : ConfigurationParser) {t : Threads UInt8} {s : Station UInt8}
    (here : t.stations[i]? = some s)
    (run : List Action) : ∃ s', (exec (next data) t run).stations[i]? = some s' ∧
      s'.device = exec (SlaveDevice.next data) s.device (labels (next data) (stepsAt i) t run) ∧
      (log data t run).filterMap (frameOf i) =
        labels (SlaveDevice.next data) stepFrame s.device (labels (next data) (stepsAt i) t run) := by
  induction run generalizing t s with
  | nil => exact ⟨s, here, rfl, rfl⟩
  | cons a run ih =>
    obtain ⟨s', there, device⟩ := station_next data t a here
    obtain ⟨last, final, run, frames⟩ := ih there
    refine ⟨last, final, ?_, ?_⟩
    · rw [labels, exec_append, ← device, run]
    · rw [log, labels, List.filterMap_append, frames_next data here, labels, labels_append, ← device]
      exact congrArg _ frames

/-- As long as neither the state checker nor the exit touches a slave, every order of the threads makes
it run complete data cycles, one for each of its frames on the wire, and a part of the next one. -/
theorem cycles_refined (data : ConfigurationParser) (t : Threads UInt8) {i : Nat} {s : Station UInt8}
    (here : t.stations[i]? = some s) (between : t.data.stageAt i = .receive) (run : List Action)
    (quiet : Along (next data) (CyclesAt i) t run) :
    ∃ (cycles : List Cycle) (begun : Begun), begun.stage = (exec (next data) t run).data.stageAt i ∧
      labels (next data) (stepsAt i) t run = cycles.flatMap Cycle.steps ++ begun.steps ∧
      (log data t run).filterMap (frameOf i) = labels (cycleNext data) (cycleFrame data) s.device cycles ∧
      ∃ s', (exec (next data) t run).stations[i]? = some s' ∧
        s'.device = exec (SlaveDevice.next data) (exec (cycleNext data) s.device cycles) begun.steps := by
  obtain ⟨last, final, device, frames⟩ := device_exec data here run
  have start : (∃ s, t.stations[i]? = some s) ∧ ∃ cycles begun, InCycles [] (t.data.stageAt i) cycles begun :=
    ⟨⟨s, here⟩, [], .idle [], rfl, between.symm⟩
  obtain ⟨_, cycles, begun, taken, stage⟩ := quiet.labels_invariant
    (I := fun t steps => (∃ s, t.stations[i]? = some s) ∧ ∃ cycles begun, InCycles steps (t.data.stageAt i) cycles begun)
    start fun t a steps ⟨⟨s, here⟩, cycles, begun, within⟩ quiet => by
      obtain ⟨s', there, _⟩ := station_next data t a here
      exact ⟨⟨s', there⟩, inCycles_next data here within quiet⟩
  rw [List.nil_append] at taken
  refine ⟨cycles, begun, stage, taken, ?_, last, final, ?_⟩
  · rw [frames, taken, labels_append, frames_cycles, frames_begun, List.append_nil]
  · rw [device, taken, exec_append, exec_cycles]

/-- Commands, and passes over a slave that works, between the sections of two cycles. -/
def crowdedRun : List Action :=
  (List.replicate 20 [silent, .command 0 1 motorMessage, .check true ⟨EC_STATE_OPERATIONAL, none, false⟩]).flatten

theorem cycles_refined_motor :
    ∃ (cycles : List Cycle) (begun : Begun), begun.stage = .receive ∧
      labels (next receiverData) (stepsAt 0) workingNode crowdedRun = cycles.flatMap Cycle.steps ++ begun.steps := by
  obtain ⟨cycles, begun, stage, steps, _⟩ := cycles_refined receiverData workingNode (i := 0) rfl rfl crowdedRun
    (by decide +kernel)
  exact ⟨cycles, begun, stage, steps⟩

end Threads

end EcatMaster.Node
