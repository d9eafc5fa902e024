import EcatMaster.Node.Shutdown

/-! The publishers that the data thread destroys when it ends.

`cleanup` resets the publishers of a slave while the checker may still be in a pass. Here
is who can use a publisher after it was destroyed, and when nobody does.
-/

set_option autoImplicit false

namespace EcatMaster.Node
open Library Config Slave SlaveDevice Tasks

namespace Threads
variable {β : Type}

/-- `cleanup` has been called for the slave. -/
def cleaned (t : Threads β) (i : Nat) : Bool :=
  match t.data with
  | .cleanup j => i < j
  | .ended => true
  | _ => false

/-- The event goes through a publisher of the device or of one of its tasks. -/
def throughPublisher (d : SlaveDevice β) : Event → Bool
  | .latency _ | .read _ _ => true
  -- A task without publishers inherits `publish_empty_message`, which only logs.
  | .publishEmptyMessage task => d.taskList[task]?.any fun wrapper => wrapper.body.hasPublishers
  | _ => false

theorem leaves_of_cleaned {t : Threads β} {i : Nat} (cleaned : t.cleaned i = true) : t.data.leaves = true := by
  unfold Threads.cleaned at cleaned
  split at cleaned
  case h_1 j phase => rw [phase]; rfl
  case h_2 phase => rw [phase]; rfl
  case h_3 => cases cleaned

section Cells
variable [Cell β] {data : ConfigurationParser} {bus : Bus}

def UsesDestroyed (data : ConfigurationParser) (t : Threads β) (a : Action) : Prop :=
  ∃ i m s, t.target a = some (i, m) ∧ t.stations[i]? = some s ∧ t.cleaned i = true ∧
    ∃ event ∈ s.events data m, throughPublisher s.device event = true

omit [Cell β] in
/-- The checker finds a slave lost whose publishers are destroyed and one of whose tasks is to
publish an empty report then. -/
def FindsLost (t : Threads β) (a : Action) : Prop :=
  ∃ ok answer i s, a = .check ok answer ∧ t.checker = .pass i ∧ t.stations[i]? = some s ∧ t.cleaned i = true ∧
    s.phase = .branch ∧ s.branch = .lost ∧
    ∃ task ∈ s.device.taskList, task.connectionLostReadAction = 0x02 ∧ task.body.hasPublishers = true

theorem lost_publishes (data : ConfigurationParser) (d : SlaveDevice β) :
    (∃ event ∈ (d.step data .connectionLost).2, throughPublisher d event = true) ↔
      ∃ task ∈ d.taskList, task.connectionLostReadAction = 0x02 ∧ task.body.hasPublishers = true := by
  constructor
  · rintro ⟨event, member, through⟩
    obtain ⟨⟨task, i⟩, there, published⟩ := List.mem_filterMap.mp member
    dsimp only at published
    split at published
    case isFalse => cases published
    case isTrue resets =>
      cases published
      have found : d.taskList[i]? = some task := List.mk_mem_zipIdx_iff_getElem?.mp there
      rw [throughPublisher, found] at through
      exact ⟨task, List.mem_of_getElem? found, resets, through⟩
  · rintro ⟨task, member, resets, publishes⟩
    obtain ⟨i, found⟩ := List.mem_iff_getElem?.mp member
    refine ⟨.publishEmptyMessage i, ?_, ?_⟩
    · exact List.mem_filterMap.mpr ⟨(task, i), List.mk_mem_zipIdx_iff_getElem?.mpr found, if_pos resets⟩
    · rw [throughPublisher, found]
      exact publishes

theorem check_publishes (s : Station β) (answer : Answer) :
    (∃ event ∈ s.events data (.check answer), throughPublisher s.device event = true) ↔
      s.phase = .branch ∧ s.branch = .lost ∧
        ∃ task ∈ s.device.taskList, task.connectionLostReadAction = 0x02 ∧ task.body.hasPublishers = true := by
  have publishes := lost_publishes data s.device
  constructor
  · rintro ⟨event, member, through⟩
    rw [Station.events, Station.stepOf, Station.checked] at member
    cases phase : s.phase with
    | branch =>
      rw [phase] at member
      cases taken : s.branch with
      | lost =>
        rw [taken] at member
        exact ⟨rfl, rfl, publishes.mp ⟨event, member, through⟩⟩
      | _ =>
        rw [taken] at member
        cases member
    | reconfig =>
      rw [phase] at member
      cases calls : answer.call with
      | none =>
        rw [calls] at member
        cases member
      | some call =>
        rw [calls] at member
        have opened : event ∈ initEvents (s.device.init data call).1 (s.device.init data call).2 := member
        rw [initEvents] at opened
        split at opened
        · rcases List.mem_cons.mp opened with rfl | ready
          · cases through
          · cases List.mem_singleton.mp ready
            cases through
        · cases List.mem_singleton.mp opened
          cases through
    | tail =>
      rw [phase] at member
      dsimp only at member
      split at member <;> cases member
    | _ =>
      rw [phase] at member
      cases member
  · rintro ⟨phase, taken, resets⟩
    obtain ⟨event, member, through⟩ := publishes.mpr resets
    refine ⟨event, ?_, through⟩
    rw [Station.events, Station.stepOf, Station.checked, phase]
    dsimp only
    rw [taken]
    exact member

/-- Only the checker can go through a destroyed publisher. -/
theorem usesDestroyed_iff (t : Threads β) (a : Action) : UsesDestroyed data t a ↔ FindsLost t a := by
  constructor
  · rintro ⟨i, m, s, aim, here, cleaned, used⟩
    cases a with
    | data io =>
      -- In the loop the data thread has cleaned nothing yet.
      have leaves := leaves_of_cleaned cleaned
      rw [target] at aim
      cases phase : t.data with
      | cleanup j =>
        rw [phase] at aim
        cases aim
      | ended =>
        rw [phase] at aim
        cases aim
      | _ =>
        rw [phase] at leaves
        cases leaves
    | check ok answer =>
      rw [target] at aim
      cases phase : t.checker with
      | pass j =>
        rw [phase] at aim
        cases aim
        obtain ⟨branch, lost, resets⟩ := (check_publishes s answer).mp used
        exact ⟨ok, answer, i, s, rfl, phase, here, cleaned, branch, lost, resets⟩
      | _ =>
        rw [phase] at aim
        cases aim
    | shutdown => cases aim
    | command slave task msg =>
      cases aim
      obtain ⟨event, member, _⟩ := used
      cases member
  · rintro ⟨ok, answer, i, s, rfl, phase, here, cleaned, branch, lost, resets⟩
    refine ⟨i, .check answer, s, ?_, here, cleaned, (check_publishes s answer).mpr ⟨branch, lost, resets⟩⟩
    rw [target, phase]
    rfl

omit [Cell β] in
/-- When the loops are told to stop, the checker is not in a pass. -/
def StopsBetweenPasses (t : Threads β) (a : Action) : Prop :=
  a = .shutdown → t.shutdown = .stopping → ∀ i, t.checker ≠ .pass i

omit [Cell β] in
structure Quiet (t : Threads β) : Prop where
  flags : Flags t
  quiet : t.running = false → ∀ i, t.checker ≠ .pass i

theorem quiet_next {t : Threads β} {a : Action} (quiet : Quiet t) (stops : StopsBetweenPasses t a) :
    Quiet (t.next data a) where
  flags := flags_next quiet.flags a
  quiet := by
    cases a with
    | data io => exact quiet.quiet
    | command slave task msg => exact quiet.quiet
    | shutdown =>
      intro stopped i
      change (t.running && t.shutdown != .stopping) = false at stopped
      cases running : t.running with
      | false => exact quiet.quiet running i
      | true =>
        rw [running, Bool.true_and] at stopped
        exact stops rfl (by simpa using stopped) i
    | check ok answer =>
      intro stopped i
      have running : t.running = false := stopped
      have outside := quiet.quiet running
      change t.checkNext ok ≠ .pass i
      rw [checkNext]
      cases phase : t.checker with
      | pass j => exact absurd phase (outside j)
      | loop =>
        rw [running]
        simp
      | _ => simp

theorem stops_unchecked {t : Threads β} (loop : t.checker = .loop) {run : List Action}
    (unchecked : ∀ a ∈ run, a.isCheck = false) : Along (next data) StopsBetweenPasses t run := by
  refine Along.transfer (I := fun t : Threads β => t.checker = .loop) loop ?_ ?_ (along_of_forall t unchecked)
  · intro t a loop other
    cases a with
    | check ok answer => cases other
    | _ => exact loop
  · intro t a loop _ _ _ i pass
    rw [loop] at pass
    cases pass

end Cells

end Threads

/-- The receiver publishes an empty report when its slave is lost. -/
def reportingData : ConfigurationParser where
  fields := ("sn7_app_1_conf_connection_lost_read_action", .uint8 0x02) :: receiverData.fields

def reportingBus : Bus := receiverBus fun _ => EC_STATE_OPERATIONAL

/-- A pass begins and finds no slave, the node is shut down, and the pass goes on. -/
def overtakenPass : List Action :=
  List.replicate 3 silent ++ List.replicate 2 silentCheck ++ .shutdown :: (List.replicate 11 silent ++
    List.replicate 2 .shutdown ++ List.replicate 3 silent)

/-- The next section of the pass goes through the publisher that `cleanup` has destroyed. -/
theorem overtaken_pass_publishes :
    ∃ node : EthercatNode UInt8, setupEcat reportingData reportingBus = .ok (true, node) ∧
      ¬Along (Threads.next reportingData) (fun t a => ¬Threads.UsesDestroyed reportingData t a) (Threads.start node 1)
        (overtakenPass ++ [silentCheck]) := by
  refine ⟨_, rfl, fun alive => ?_⟩
  rw [along_append] at alive
  refine alive.2.1 ((Threads.usesDestroyed_iff _ _).mpr ?_)
  refine ⟨true, ⟨EC_STATE_NONE, none, false⟩, 0, _, rfl, rfl, rfl, rfl, rfl, rfl, ?_⟩
  exact ⟨_, List.mem_cons_self, rfl, rfl⟩

end EcatMaster.Node
