import EcatMaster.Node.Supervision
import EcatMaster.Slave.Recovery

/-! A slave that has restarted gets its arguments again.

The data cycle goes on and the checker visits the other slaves in between, so the visits that
the slave needs are counted in turns of the checker.
-/

set_option autoImplicit false

namespace EcatMaster.Node
open Library Config Slave SlaveDevice Station Tasks

/-- The node and the state that one of its slaves is really in. -/
structure Restart where
  threads : Threads UInt8
  state : UInt16

namespace Restart
open Threads
variable (data : ConfigurationParser) (i : Nat)

def next (r : Restart) (a : Action) : Restart where
  threads := r.threads.next data a
  state :=
    match r.threads.stations[i]?, ownAction i (r.threads.target a) with
    | some s, [m] => s.stateAfter r.state m
    | _, _ => r.state

def Answers (r : Restart) (a : Action) : Prop :=
  ∀ s ∈ r.threads.stations[i]?, ∀ m ∈ ownAction i (r.threads.target a), s.Obeys data r.state m

instance (r : Restart) (a : Action) : Decidable (r.Answers data i a) :=
  inferInstanceAs (Decidable (∀ _ ∈ _, ∀ _ ∈ _, _))

/-- The arguments are sent from the first one on, or the checker has ended. -/
def Resending (r : Restart) : Prop :=
  r.threads.checker = .ended ∨ ∃ s, r.threads.stations[i]? = some s ∧ Resends s.device

/-- The stages of the way back, with the turns of the checker that they leave at most. -/
inductive Stage (s : Station UInt8) (r : Restart) (k : Nat) : Prop where
  | missed (watching : Watching i r.threads) (busy : ¬Revisited i r.threads) (missed : Missed s)
      (state : r.state = EC_STATE_INIT) (left : visitLeft i r.threads + (5 * r.threads.stations.length + 4) ≤ k)
  | visit (visits : Visits r.threads) (phase : r.threads.checker = .pass i) (rests : s.phase = .idle)
      (state : r.state = EC_STATE_INIT) (left : 5 * r.threads.stations.length + 4 ≤ k)
  | course (watching : Watching i r.threads) (busy : ¬Revisited i r.threads) (course : Course s r.state)
      (left : visitLeft i r.threads + 2 ≤ k)
  | revisit (phase : r.threads.checker = .pass i) (rests : s.phase = .idle) (course : Course s r.state) (left : 2 ≤ k)
  | last (phase : r.threads.checker = .pass i) (under : s.phase = .branch) (back : s.state = EC_STATE_SAFE_OP)
      (accepted : s.device.isRecoverRejected = false) (halted : Halted s.device) (left : 1 ≤ k)

variable {data : ConfigurationParser} {i : Nat} {r : Restart} {s : Station UInt8}

theorem next_cases (data : ConfigurationParser) (here : r.threads.stations[i]? = some s) (a : Action) :
    ((r.next data i a).threads.stations[i]? = some s ∧ (r.next data i a).state = r.state ∧
      ownAction i (r.threads.target a) = []) ∨
    ∃ m, r.threads.target a = some (i, m) ∧ (r.next data i a).threads.stations[i]? = some (s.next data m) ∧
      (r.next data i a).state = s.stateAfter r.state m ∧ ownAction i (r.threads.target a) = [m] := by
  have moved : (r.next data i a).threads.stations[i]? =
      r.threads.stations[i]?.map fun s => exec (Station.next data) s (ownAction i (r.threads.target a)) :=
    getElem?_aimed ..
  have state : (r.next data i a).state = match r.threads.stations[i]?, ownAction i (r.threads.target a) with
      | some s, [m] => s.stateAfter r.state m
      | _, _ => r.state := rfl
  rw [here] at moved state
  rw [moved, state]
  cases aim : r.threads.target a with
  | none => exact Or.inl ⟨rfl, rfl, rfl⟩
  | some target =>
    obtain ⟨j, m⟩ := target
    by_cases own : j = i
    · subst own
      have single : ownAction j (some (j, m)) = [m] := if_pos rfl
      rw [single]
      exact Or.inr ⟨m, rfl, rfl, rfl, rfl⟩
    · have none : ownAction i (some (j, m)) = [] := if_neg own
      rw [none]
      exact Or.inl ⟨rfl, rfl, rfl⟩

theorem unready_next (here : r.threads.stations[i]? = some s) (unready : s.device.slaveStatus ≠ SLAVE_READY)
    {a : Action}
    (answers : r.Answers data i a) {s' : Station UInt8} (there : (r.next data i a).threads.stations[i]? = some s') :
    s'.device.slaveStatus ≠ SLAVE_READY := by
  rcases next_cases data here a with ⟨moved, _, _⟩ | ⟨m, _, moved, _, own⟩
  · cases moved.symm.trans there
    exact unready
  · cases moved.symm.trans there
    exact Station.unready_next unready (answers s here m (own ▸ List.mem_singleton_self m))

theorem stage_other (data : ConfigurationParser) {k : Nat} (here : r.threads.stations[i]? = some s)
    (unready : s.device.slaveStatus ≠ SLAVE_READY) (stage : Stage i s r k) {a : Action} (other : a.isCheck = false) :
    ∃ s', (r.next data i a).threads.stations[i]? = some s' ∧ Stage i s' (r.next data i a) k := by
  have checker : (r.next data i a).threads.checker = r.threads.checker := by
    cases a with
    | check ok answer => cases other
    | _ => rfl
  have slaves : (r.next data i a).threads.stations.length = r.threads.stations.length := length_next ..
  -- The station keeps its place, whatever is done to the device.
  obtain ⟨s', there, state, phase, found, same⟩ : ∃ s', (r.next data i a).threads.stations[i]? = some s' ∧
      (r.next data i a).state = r.state ∧ s'.phase = s.phase ∧ s'.state = s.state ∧
      (s' = s ∨ ∃ m, (∀ answer, m ≠ .check answer) ∧ s' = s.next data m) := by
    rcases next_cases data here a with ⟨moved, state, _⟩ | ⟨m, aim, moved, state, _⟩
    · exact ⟨s, moved, state, rfl, rfl, Or.inl rfl⟩
    · have move := target_other other aim
      refine ⟨_, moved, ?_, next_phase s move, ?_, Or.inr ⟨m, move, rfl⟩⟩
      · rw [state]
        cases m with
        | check answer => exact absurd rfl (move answer)
        | _ => rfl
      · cases m with
        | check answer => exact absurd rfl (move answer)
        | _ => rfl
  have kept : (Missed s → Missed s') ∧ (∀ state, Course s state → Course s' state) ∧ Between s.device s'.device := by
    rcases same with rfl | ⟨m, move, rfl⟩
    · exact ⟨id, fun _ => id, rfl, id, id⟩
    · exact ⟨missed_other move, fun _ => course_other move unready, between_other data move unready⟩
  obtain ⟨missed', course', between⟩ := kept
  have busy' : ¬Revisited i r.threads → ¬Revisited i (r.next data i a).threads := by
    rintro busy (ended | ⟨pass, other, visited, rests⟩)
    · exact busy (Or.inl (checker.symm.trans ended))
    · cases there.symm.trans visited
      exact busy (Or.inr ⟨checker.symm.trans pass, s, here, phase.symm.trans rests⟩)
  refine ⟨s', there, ?_⟩
  cases stage with
  | missed watching busy missed restarted left =>
    obtain ⟨watching', visits⟩ := watching_other data watching other
    refine .missed watching' (busy' busy) (missed' missed) (state.trans restarted) ?_
    rw [slaves]
    exact visits ▸ left
  | visit visits pass rests restarted left =>
    exact .visit (visits_next visits a) (checker.trans pass) (phase.trans rests) (state.trans restarted) (slaves ▸ left)
  | course watching busy course left =>
    obtain ⟨watching', visits⟩ := watching_other data watching other
    exact .course watching' (busy' busy) (state ▸ course' _ course) (visits ▸ left)
  | revisit pass rests course left =>
    exact .revisit (checker.trans pass) (phase.trans rests) (state ▸ course' _ course) left
  | last pass under back accepted halted left =>
    exact .last (checker.trans pass) (phase.trans under) (found.trans back) (between.accepted.trans accepted)
      (between.halted halted) left

theorem visiting {t : Threads UInt8} (pass : t.checker = .pass i) (here : t.stations[i]? = some s)
    (busy : ¬Revisited i t) : s.phase ≠ .idle :=
  fun rests => busy (Or.inr ⟨pass, s, here, rests⟩)

theorem visitLeft_pos {t : Threads UInt8} (watching : Watching i t) (busy : ¬Revisited i t) : 1 ≤ visitLeft i t := by
  unfold visitLeft
  cases phase : t.checker with
  | absent => exact absurd phase watching.present
  | ended => exact absurd (Or.inl phase) busy
  | loop => exact Nat.le_add_left 1 _
  | pass j =>
    dsimp only
    split
    case h_1 => omega
    case h_2 phase _ =>
      have := (sectionsLeft_le phase).1
      split_ifs <;> omega

theorem watching_visit {t : Threads UInt8} (visits : Visits t) (pass : t.checker = .pass i)
    (here : t.stations[i]? = some s) (under : s.phase = .branch) (down : s.state ≠ EC_STATE_OPERATIONAL) :
    Watching i t ∧ ¬Revisited i t ∧ visitLeft i t = 5 * t.stations.length + 1 := by
  have inside := (List.getElem?_eq_some_iff.mp here).1
  refine ⟨⟨visits, inside, by simp [pass], visits.operational i pass, .visit s pass here ?_⟩, ?_, ?_⟩
  · rw [notOperational, under]
    exact bne_iff_ne.mpr down
  · rintro (ended | ⟨_, other, found, rests⟩)
    · cases pass.symm.trans ended
    · cases here.symm.trans found
      cases under.symm.trans rests
  · rw [visitLeft, pass]
    simp only [here, Option.map_some, under, Nat.lt_irrefl, if_false, sectionsLeft]
    omega

section Check
variable {k : Nat} {ok : Bool} {answer : Answer} (here : r.threads.stations[i]? = some s)
include here

theorem check_here (pass : r.threads.checker = .pass i) (answers : r.Answers data i (.check ok answer)) :
    (r.next data i (.check ok answer)).threads.stations[i]? = some (s.next data (.check answer)) ∧
      (r.next data i (.check ok answer)).state = s.stateAfter r.state (.check answer) ∧
      s.Obeys data r.state (.check answer) := by
  have aim : r.threads.target (.check ok answer) = some (i, .check answer) := by
    rw [target, pass]
    rfl
  rcases next_cases data here (.check ok answer) with ⟨_, _, none⟩ | ⟨m, aimed, moved, state, own⟩
  · rw [aim, ownAction, if_pos rfl] at none
    cases none
  · cases aim.symm.trans aimed
    exact ⟨moved, state, answers s here _ (own ▸ List.mem_singleton_self _)⟩

theorem check_away (away : r.threads.checker ≠ .pass i) :
    (r.next data i (.check ok answer)).threads.stations[i]? = some s ∧
      (r.next data i (.check ok answer)).state = r.state := by
  rcases next_cases data here (.check ok answer) with ⟨moved, state, _⟩ | ⟨m, aimed, _⟩
  · exact ⟨moved, state⟩
  · rw [target] at aimed
    cases phase : r.threads.checker with
    | pass j =>
      rw [phase] at aimed
      cases aimed
      exact absurd phase away
    | _ =>
      rw [phase] at aimed
      cases aimed

theorem check_begins (data : ConfigurationParser) (ok : Bool) (answer : Answer)
    (pass : r.threads.checker = .pass i) (rests : s.phase = .idle) :
    (r.next data i (.check ok answer)).threads.checker = .pass i := by
  change r.threads.checkNext ok = .pass i
  rw [checkNext, pass]
  simp [here, rests]

theorem missed_check (watching : Watching i r.threads) (busy : ¬Revisited i r.threads) (missed : Missed s)
    (restarted : r.state = EC_STATE_INIT) (left : visitLeft i r.threads + (5 * r.threads.stations.length + 4) ≤ k)
    (answers : r.Answers data i (.check ok answer)) :
    Resending i (r.next data i (.check ok answer)) ∨ ∃ s',
      (r.next data i (.check ok answer)).threads.stations[i]? = some s' ∧
        Stage i s' (r.next data i (.check ok answer)) (k - 1) := by
  have slaves : (r.next data i (.check ok answer)).threads.stations.length = r.threads.stations.length :=
    length_next ..
  have positive := visitLeft_pos watching busy
  obtain ⟨s', there, missed', state⟩ : ∃ s', (r.next data i (.check ok answer)).threads.stations[i]? = some s' ∧
      Missed s' ∧ (r.next data i (.check ok answer)).state = EC_STATE_INIT := by
    by_cases pass : r.threads.checker = .pass i
    · obtain ⟨moved, state, _⟩ := check_here here pass answers
      obtain ⟨missed', same⟩ := Station.missed_check data r.state answer missed (visiting pass here busy)
      exact ⟨_, moved, missed', (state.trans same).trans restarted⟩
    · obtain ⟨same, state⟩ := check_away here pass
      exact ⟨s, same, missed, state.trans restarted⟩
  by_cases again : Revisited i (r.next data i (.check ok answer)).threads
  · rcases again with ended | ⟨pass, other, found, rests⟩
    · exact Or.inl (Or.inl ended)
    · cases there.symm.trans found
      refine Or.inr ⟨s', there, .visit (visits_next watching.visits _) pass rests state ?_⟩
      omega
  · rcases watching_next watching (.check ok answer) busy with revisited | ⟨watching', nearer⟩
    · exact absurd revisited again
    · refine Or.inr ⟨s', there, .missed watching' again missed' state ?_⟩
      change visitLeft i (r.next data i (.check ok answer)).threads + 1 ≤ _ at nearer
      omega

theorem course_check (watching : Watching i r.threads) (busy : ¬Revisited i r.threads) (course : Course s r.state)
    (left : visitLeft i r.threads + 2 ≤ k) (answers : r.Answers data i (.check ok answer)) :
    Resending i (r.next data i (.check ok answer)) ∨ ∃ s',
      (r.next data i (.check ok answer)).threads.stations[i]? = some s' ∧
        Stage i s' (r.next data i (.check ok answer)) (k - 1) := by
  have positive := visitLeft_pos watching busy
  have goesOn : Resending i (r.next data i (.check ok answer)) ∨ ∃ s',
      (r.next data i (.check ok answer)).threads.stations[i]? = some s' ∧
        Course s' (r.next data i (.check ok answer)).state := by
    by_cases pass : r.threads.checker = .pass i
    · obtain ⟨moved, state, obeys⟩ := check_here here pass answers
      rcases Station.course_check course (visiting pass here busy) obeys with resends | course'
      · exact Or.inl (Or.inr ⟨_, moved, resends⟩)
      · exact Or.inr ⟨_, moved, state ▸ course'⟩
    · obtain ⟨same, state⟩ := check_away here pass
      exact Or.inr ⟨s, same, state ▸ course⟩
  refine goesOn.elim Or.inl ?_
  rintro ⟨s', there, course'⟩
  by_cases again : Revisited i (r.next data i (.check ok answer)).threads
  · rcases again with ended | ⟨pass, other, found, rests⟩
    · exact Or.inl (Or.inl ended)
    · cases there.symm.trans found
      exact Or.inr ⟨s', there, .revisit pass rests course' (by omega)⟩
  · rcases watching_next watching (.check ok answer) busy with revisited | ⟨watching', nearer⟩
    · exact absurd revisited again
    · refine Or.inr ⟨s', there, .course watching' again course' ?_⟩
      change visitLeft i (r.next data i (.check ok answer)).threads + 1 ≤ _ at nearer
      omega

theorem stage_check (stage : Stage i s r k) (answers : r.Answers data i (.check ok answer)) :
    Resending i (r.next data i (.check ok answer)) ∨ ∃ s',
      (r.next data i (.check ok answer)).threads.stations[i]? = some s' ∧
        Stage i s' (r.next data i (.check ok answer)) (k - 1) := by
  have slaves : (r.next data i (.check ok answer)).threads.stations.length = r.threads.stations.length :=
    length_next ..
  cases stage with
  | missed watching busy missed state left => exact missed_check here watching busy missed state left answers
  | course watching busy course left => exact course_check here watching busy course left answers
  | visit visits pass rests restarted left =>
    obtain ⟨moved, state, obeys⟩ := check_here here pass answers
    obtain ⟨_, under, found, same⟩ := next_idle rests obeys
    have pass' := check_begins here data ok answer pass rests
    rw [restarted] at found
    rw [same, restarted] at state
    obtain ⟨watching, busy, visitsLeft⟩ := watching_visit (visits_next visits (.check ok answer)) pass' moved under
      (by rw [found]; decide)
    refine Or.inr ⟨_, moved, .course watching busy (state ▸ .found under found) ?_⟩
    change visitLeft i (r.next data i (.check ok answer)).threads = _ at visitsLeft
    rw [visitsLeft]
    change 5 * (r.next data i (.check ok answer)).threads.stations.length + 1 + 2 ≤ k - 1
    omega
  | revisit pass rests course left =>
    obtain ⟨moved, state, obeys⟩ := check_here here pass answers
    obtain ⟨device, under, found, _⟩ := next_idle rests obeys
    obtain ⟨back, accepted, halted⟩ := course_rests course rests
    refine Or.inr ⟨_, moved, .last (check_begins here data ok answer pass rests) under (found.trans back) ?_ ?_ (by omega)⟩
    · rwa [device]
    · rwa [device]
  | last pass under back accepted halted left =>
    obtain ⟨moved, _, _⟩ := check_here here pass answers
    exact Or.inl (Or.inr ⟨_, moved, resends_check under back accepted halted⟩)

end Check

def Recovering (i : Nat) (k : Nat) (r : Restart) : Prop :=
  ∃ s, r.threads.stations[i]? = some s ∧ s.device.slaveStatus ≠ SLAVE_READY ∧ Stage i s r k

theorem recovering_next {k : Nat} {a : Action} (recovering : Recovering i k r) (answers : r.Answers data i a) :
    Resending i (r.next data i a) ∨ ∃ l, l + a.isCheck.toNat ≤ k ∧ Recovering i l (r.next data i a) := by
  obtain ⟨s, here, unready, stage⟩ := recovering
  by_cases turn : a.isCheck = true
  case neg =>
    have other := Bool.eq_false_iff.mpr turn
    obtain ⟨s', there, stage'⟩ := stage_other data here unready stage other
    refine Or.inr ⟨k, ?_, s', there, unready_next here unready answers there, stage'⟩
    rw [other]
    exact Nat.le_refl k
  case pos =>
    cases a with
    | check ok answer =>
      refine (stage_check here stage answers).imp_right ?_
      rintro ⟨s', there, stage'⟩
      have positive : 1 ≤ k := by
        cases stage with
        | missed _ _ _ _ left | visit _ _ _ _ left | course _ _ _ left | revisit _ _ _ left
        | last _ _ _ _ _ left => omega
      exact ⟨k - 1, Nat.sub_add_cancel positive |>.le, s', there, unready_next here unready answers there, stage'⟩
    | _ => cases turn

/-- A slave that restarts is found by the checker, configured again, reset, and found in SAFE_OP by the next
visit: its arguments are sent again from the first one on within ten turns of the checker for each slave and
six more, whatever the other threads do, or the checker has ended. -/
theorem restart_resends (node : EthercatNode UInt8) (expectedWkc : Int) (run more : List Action) {i : Nat}
    {s : Station UInt8} (visit : (exec (Threads.next data) (start node expectedWkc) run).checker = .pass i)
    (here : (exec (Threads.next data) (start node expectedWkc) run).stations[i]? = some s) (opened : s.phase = .branch)
    (found : s.state = EC_STATE_NONE ∨ s.state = EC_STATE_INIT) (unready : s.device.slaveStatus ≠ SLAVE_READY)
    (answers : Along (next data i) (Answers data i)
      ⟨exec (Threads.next data) (start node expectedWkc) run, EC_STATE_INIT⟩ more)
    (turns : 10 * node.slaves.slaveDevices.length + 6 ≤ more.countP Action.isCheck) :
    ∃ first rest, more = first ++ rest ∧
      ((exec (Threads.next data) (start node expectedWkc) (run ++ first)).checker = .ended ∨
        ∃ s', (exec (Threads.next data) (start node expectedWkc) (run ++ first)).stations[i]? = some s' ∧
          Resends s'.device) := by
  have slaves : (exec (Threads.next data) (start node expectedWkc) run).stations.length =
      node.slaves.slaveDevices.length := by
    rw [family_length next_stations, Threads.start, List.length_map]
  have visits : Visits (exec (Threads.next data) (start node expectedWkc) run) := visits_run node expectedWkc run
  have down : s.state ≠ EC_STATE_OPERATIONAL := by
    rcases found with gone | restarted
    · rw [gone]
      decide
    · rw [restarted]
      decide
  obtain ⟨watching, busy, left⟩ := watching_visit visits visit here opened down
  have begun : Stage i s ⟨exec (Threads.next data) (start node expectedWkc) run, EC_STATE_INIT⟩
      (10 * node.slaves.slaveDevices.length + 5) := by
    rcases found with gone | restarted
    · refine .missed watching busy (.branch opened gone) rfl ?_
      dsimp only
      omega
    · refine .course watching busy (.found opened restarted) ?_
      dsimp only
      omega
  have step (k : Nat) (r : Restart) (a : Action) (recovering : Recovering i k r) (answers : r.Answers data i a)
      (_ : ¬Resending i r) : Resending i (r.next data i a) ∨ ∃ l, l + a.isCheck.toNat ≤ k ∧
        Recovering i l (r.next data i a) := recovering_next recovering answers
  obtain ⟨first, rest, rfl, reached⟩ := Along.reaches_ranked step ⟨s, here, unready, begun⟩ answers turns
  refine ⟨first, rest, rfl, ?_⟩
  have same : (exec (next data i) ⟨exec (Threads.next data) (start node expectedWkc) run, EC_STATE_INIT⟩ first).threads =
      exec (Threads.next data) (start node expectedWkc) (run ++ first) := by
    rw [exec_append]
    exact exec_project (fun _ _ => rfl) _ first
  rwa [Resending, same] at reached

/-- SOEM finds the slave in INIT and configures it again, or finds it in SAFE_OP. -/
def restartedCheck (state : UInt16) : Action := .check true ⟨state, some boardCall, true⟩

/-- The slave is gone for one visit, and the data cycle reads its last input on. -/
def absence : List Action :=
  List.replicate 2 silentCheck ++ List.replicate 9 silent ++ List.replicate 9 (restartedCheck EC_STATE_INIT) ++
    List.replicate 9 silent ++ List.replicate 5 (restartedCheck EC_STATE_SAFE_OP)

theorem restart_resends_receiver :
    (exec (Threads.next receiverData) (Threads.start receiverNode 1)
      (List.replicate 3 silent ++ List.replicate 2 silentCheck ++ absence)).checker ≠ .ended ∧
    ∃ first rest, absence = first ++ rest ∧
      ((exec (Threads.next receiverData) (Threads.start receiverNode 1)
          (List.replicate 3 silent ++ List.replicate 2 silentCheck ++ first)).checker = .ended ∨
        ∃ s', (exec (Threads.next receiverData) (Threads.start receiverNode 1)
            (List.replicate 3 silent ++ List.replicate 2 silentCheck ++ first)).stations[0]? = some s' ∧
          Resends s'.device) :=
  ⟨by decide +kernel,
    restart_resends receiverNode 1 (List.replicate 3 silent ++ List.replicate 2 silentCheck) absence rfl rfl rfl
      (Or.inl rfl) (by decide) (by decide +kernel) (by decide)⟩

end Restart

end EcatMaster.Node
