import EcatMaster.Node.Shutdown
import EcatMaster.Library.Progress

/-! The state checker forgets no outage.

A pass clears `docheckstate` and sets it again at each slave that is not operational,
so the next pass comes without waiting for the working counter. A slave that was seen
out of operation is looked at again, or the checker has ended.
-/

set_option autoImplicit false

namespace EcatMaster.Node
open Library Config Slave Tasks

namespace Threads
variable {β : Type}

/-- A slave is in the hands of the checker only within its visit, and passes are made only when
the data cycle is operational. -/
structure Visits (t : Threads β) : Prop where
  idle : ∀ (i : Nat) (s : Station β), t.stations[i]? = some s → s.phase ≠ .idle → t.checker = .pass i
  operational : ∀ i, t.checker = .pass i → t.inOperational = true

theorem Visits.rests {t : Threads β} (visits : Visits t) {i : Nat} {s : Station β} (here : t.stations[i]? = some s)
    (away : t.checker ≠ .pass i) : s.phase = .idle := by
  by_contra visited
  exact away (visits.idle i s here visited)

section Cells
variable [Cell β] {data : ConfigurationParser} {bus : Bus}

omit [Cell β] in
theorem visits_start (n : EthercatNode β) (expectedWkc : Int) : Visits (start n expectedWkc) where
  idle i s here away := by
    obtain ⟨d, _, rfl⟩ := Option.map_eq_some_iff.mp ((List.getElem?_map ..).symm.trans here)
    exact absurd rfl away
  operational i phase := by
    simp only [start] at phase
    split at phase <;> cases phase

theorem check_others {t : Threads β} {i j : Nat} (phase : t.checker = .pass i) (other : i ≠ j) (ok : Bool)
    (answer : Answer) : (t.next data (.check ok answer)).stations[j]? = t.stations[j]? := by
  rw [next_stations, getElem?_aimed, target, phase, CheckerPhase.move, ownAction, if_neg other]
  exact Option.map_id' ..

theorem check_outside {t : Threads β} (outside : ∀ i, t.checker ≠ .pass i) (ok : Bool) (answer : Answer) :
    (t.next data (.check ok answer)).stations = t.stations := by
  rw [next_stations, target]
  cases phase : t.checker with
  | pass i => exact absurd phase (outside i)
  | _ => rfl

theorem visits_next {t : Threads β} (visits : Visits t) (a : Action) : Visits (t.next data a) := by
  by_cases turn : a.isCheck = true
  case neg =>
    have other := Bool.eq_false_iff.mpr turn
    have same : (t.next data a).checker = t.checker := by
      cases a with
      | check ok answer => cases other
      | _ => rfl
    constructor
    · intro i s here away
      have kept := other_phase data t other i
      rw [here, Option.map_some] at kept
      obtain ⟨before, there, phase⟩ := Option.map_eq_some_iff.mp kept.symm
      rw [same]
      exact visits.idle i before there (phase ▸ away)
    · intro i phase
      rw [same] at phase
      have before := visits.operational i phase
      cases a with
      | data io =>
        change (t.inOperational || t.data == .starting) = true
        rw [before, Bool.true_or]
      | _ => exact before
  case pos =>
    cases a with
    | check ok answer =>
      have moved : (t.next data (.check ok answer)).checker = t.checkNext ok := rfl
      cases phase : t.checker with
      | pass i =>
        constructor
        · intro j s here away
          by_cases this : i = j
          · subst this
            rcases check_pass data phase ok answer with ⟨none, loop⟩ | ⟨s', _, after, goes⟩
            · have gone := getElem?_aimed (Station.next data) t.stations (t.target (.check ok answer)) i
              rw [none, Option.map_none] at gone
              rw [next_stations, gone] at here
              cases here
            · cases after.symm.trans here
              rcases goes with ⟨_, _, rests⟩ | ⟨_, stays, _⟩
              · exact absurd rests away
              · rw [moved, stays]
          · rw [check_others phase this] at here
            have elsewhere := visits.idle j s here away
            rw [phase] at elsewhere
            exact absurd (CheckerPhase.pass.inj elsewhere) this
        · intro j _
          exact visits.operational i phase
      | loop =>
        constructor
        · intro i s here away
          rw [check_outside (fun i => by simp [phase])] at here
          exact absurd (visits.rests here (by simp [phase])) away
        · intro i pass
          rw [moved, checkNext, phase] at pass
          dsimp only at pass
          split_ifs at pass with runs needed
          rw [needsCheck, Bool.and_eq_true] at needed
          exact needed.1
      | _ =>
        constructor
        · intro i s here away
          rw [check_outside (fun i => by simp [phase])] at here
          exact absurd (visits.rests here (by simp [phase])) away
        · intro i pass
          rw [moved, checkNext, phase] at pass
          cases pass
    | _ => cases turn

omit [Cell β] in
/-- The checker begins a visit of the slave, or it has ended. -/
def Revisited (i : Nat) (t : Threads β) : Prop :=
  t.checker = .ended ∨ t.checker = .pass i ∧ ∃ s, t.stations[i]? = some s ∧ s.phase = .idle

omit [Cell β] in
/-- The outage of the slave is in the flag, in the visit that goes on, or a new pass is on its way
to the slave. -/
inductive Pending (i : Nat) (t : Threads β) : Prop where
  | flag (set : t.docheckstate = true)
  | visit (s : Station β) (phase : t.checker = .pass i) (here : t.stations[i]? = some s)
      (down : notOperational s = true)
  | pass (j : Nat) (phase : t.checker = .pass j) (before : j < i)

omit [Cell β] in
structure Watching (i : Nat) (t : Threads β) : Prop where
  visits : Visits t
  inside : i < t.stations.length
  present : t.checker ≠ .absent
  operational : t.inOperational = true
  pending : Pending i t

omit [Cell β] in
/-- The turns of the checker before the next visit of the slave. -/
def visitLeft (i : Nat) (t : Threads β) : Nat :=
  match t.checker with
  | .absent | .ended => 0
  | .loop => 5 * i + 1
  | .pass j =>
    match t.stations[j]?.map Station.phase with
    | none => 5 * i + 2
    | some phase =>
      if j < i then sectionsLeft phase + 5 * (i - (j + 1))
      else sectionsLeft phase + 5 * (t.stations.length - (j + 1)) + 5 * i + 2

theorem other_down (data : ConfigurationParser) (t : Threads β) {a : Action} (other : a.isCheck = false) (i : Nat) :
    (t.next data a).stations[i]?.map notOperational = t.stations[i]?.map notOperational := by
  refine map_aimed (fun _ m aim s => ?_) t.stations i
  have move := target_other other aim
  cases m with
  | check answer => exact absurd rfl (move answer)
  | _ => rfl

theorem watching_other (data : ConfigurationParser) {i : Nat} {t : Threads β} (watching : Watching i t)
    {a : Action} (other : a.isCheck = false) :
    Watching i (t.next data a) ∧ visitLeft i (t.next data a) = visitLeft i t := by
  have same : (t.next data a).checker = t.checker ∧ (t.next data a).docheckstate = t.docheckstate := by
    cases a with
    | check ok answer => cases other
    | _ => exact ⟨rfl, rfl⟩
  have slaves := length_next data t a
  have kept := other_phase data t other
  constructor
  · refine ⟨visits_next watching.visits a, slaves ▸ watching.inside, same.1 ▸ watching.present, ?_, ?_⟩
    · cases a with
      | data io =>
        change (t.inOperational || t.data == .starting) = true
        rw [watching.operational, Bool.true_or]
      | _ => exact watching.operational
    · cases watching.pending with
      | flag set => exact .flag (same.2.trans set)
      | pass j phase before => exact .pass j (same.1.trans phase) before
      | visit s phase here down =>
        have still := other_down data t other i
        rw [here, Option.map_some] at still
        obtain ⟨s', there, same'⟩ := Option.map_eq_some_iff.mp still
        exact .visit s' (same.1.trans phase) there (same'.trans down)
  · unfold visitLeft
    simp only [same.1, kept, slaves]

theorem watching_pass {i j : Nat} {t : Threads β} (watching : Watching i t) (phase : t.checker = .pass j) (ok : Bool)
    (answer : Answer) :
    Revisited i (t.next data (.check ok answer)) ∨
      Pending i (t.next data (.check ok answer)) ∧
        visitLeft i (t.next data (.check ok answer)) + 1 ≤ visitLeft i t := by
  have slaves := length_next data t (.check ok answer)
  have moved : (t.next data (.check ok answer)).checker = t.checkNext ok := rfl
  have inside := watching.inside
  by_cases before : j < i
  case pos =>
    rcases check_pass data phase ok answer with ⟨none, _⟩ | ⟨s, here, after, goes⟩
    · exact absurd (List.getElem?_eq_none_iff.mp none) (by omega)
    have now : visitLeft i t = sectionsLeft s.phase + 5 * (i - (j + 1)) := by
      rw [visitLeft, phase]
      simp only [here, Option.map_some, if_pos before]
    rcases goes with ⟨last, goesOn, _⟩ | ⟨_, stays, nearer⟩
    · -- The next slave is not visited yet, so it is at rest.
      obtain ⟨s', there⟩ : ∃ s', t.stations[j + 1]? = some s' := ⟨_, List.getElem?_eq_getElem (by omega)⟩
      have rests := watching.visits.rests there (by rw [phase]; simp)
      have same : (t.next data (.check ok answer)).stations[j + 1]? = some s' :=
        (check_others phase (by omega) ok answer).trans there
      by_cases next : j + 1 = i
      · subst next
        exact Or.inl (Or.inr ⟨moved.trans goesOn, s', same, rests⟩)
      · have between : j + 1 < i := by omega
        refine Or.inr ⟨.pass (j + 1) (moved.trans goesOn) between, ?_⟩
        rw [now, last, visitLeft, moved, goesOn]
        simp only [same, Option.map_some, if_pos between, rests, sectionsLeft]
        omega
    · refine Or.inr ⟨.pass j (moved.trans stays) before, ?_⟩
      rw [now, visitLeft, moved, stays]
      simp only [after, Option.map_some, if_pos before]
      omega
  case neg =>
    have set : (t.next data (.check ok answer)).docheckstate = true := by
      change t.docheckNext ok = true
      rw [docheckNext, phase]
      cases watching.pending with
      | flag set =>
        dsimp only
        rw [set, Bool.true_or]
      | pass k elsewhere near =>
        rw [phase] at elsewhere
        cases elsewhere
        exact absurd near before
      | visit s here there down =>
        rw [phase] at here
        cases here
        dsimp only
        rw [there, Option.any_some, down, Bool.or_true]
    refine Or.inr ⟨.flag set, ?_⟩
    rcases check_pass data phase ok answer with ⟨none, loop⟩ | ⟨s, here, after, goes⟩
    · have now : visitLeft i t = 5 * i + 2 := by
        rw [visitLeft, phase]
        simp only [none, Option.map_none]
      rw [now, visitLeft, moved, loop]
    · have within := (List.getElem?_eq_some_iff.mp here).1
      have now : visitLeft i t = sectionsLeft s.phase + 5 * (t.stations.length - (j + 1)) + 5 * i + 2 := by
        rw [visitLeft, phase]
        simp only [here, Option.map_some, if_neg before]
      rcases goes with ⟨last, goesOn, _⟩ | ⟨_, stays, nearer⟩
      · have later : ¬j + 1 < i := by omega
        rw [now, last, visitLeft, moved, goesOn, slaves, show sectionsLeft .tail = 1 from rfl]
        dsimp only
        split
        case h_1 => omega
        case h_2 p found =>
          obtain ⟨s', there, _⟩ := Option.map_eq_some_iff.mp found
          have within' := (List.getElem?_eq_some_iff.mp there).1
          have := sectionsLeft_le p
          rw [if_neg later]
          omega
      · rw [now, visitLeft, moved, stays, slaves]
        simp only [after, Option.map_some, if_neg before]
        omega

theorem watching_loop {i : Nat} {t : Threads β} (watching : Watching i t) (phase : t.checker = .loop) (ok : Bool)
    (answer : Answer) :
    Revisited i (t.next data (.check ok answer)) ∨
      Pending i (t.next data (.check ok answer)) ∧
        visitLeft i (t.next data (.check ok answer)) + 1 ≤ visitLeft i t := by
  have moved : (t.next data (.check ok answer)).checker = t.checkNext ok := rfl
  have set : t.docheckstate = true := by
    cases watching.pending with
    | flag set => exact set
    | visit s here => cases phase.symm.trans here
    | pass j here => cases phase.symm.trans here
  have needed : t.needsCheck = true := by
    rw [needsCheck, watching.operational, set, Bool.or_true, Bool.and_true]
  by_cases runs : (t.running && ok) = true
  case neg =>
    refine Or.inl (Or.inl ?_)
    rw [moved, checkNext, phase]
    exact if_neg runs
  case pos =>
    have starts : t.checkNext ok = .pass 0 := by
      rw [checkNext, phase]
      simp only [runs, needed, if_true]
    obtain ⟨s, first⟩ : ∃ s, t.stations[0]? = some s :=
      ⟨_, List.getElem?_eq_getElem (Nat.lt_of_le_of_lt (Nat.zero_le i) watching.inside)⟩
    have rests := watching.visits.rests first (by simp [phase])
    have same : (t.next data (.check ok answer)).stations[0]? = some s := by
      rw [check_outside (fun i => by simp [phase])]
      exact first
    cases i with
    | zero => exact Or.inl (Or.inr ⟨moved.trans starts, s, same, rests⟩)
    | succ i =>
      refine Or.inr ⟨.pass 0 (moved.trans starts) (Nat.succ_pos i), ?_⟩
      have now : visitLeft (i + 1) t = 5 * (i + 1) + 1 := by rw [visitLeft, phase]
      rw [now, visitLeft, moved, starts]
      simp only [same, Option.map_some, rests, if_pos (Nat.succ_pos i), sectionsLeft]
      omega

theorem watching_next {i : Nat} {t : Threads β} (watching : Watching i t) (a : Action) (waits : ¬Revisited i t) :
    Revisited i (t.next data a) ∨
      Watching i (t.next data a) ∧ visitLeft i (t.next data a) + (a.isCheck).toNat ≤ visitLeft i t := by
  by_cases turn : a.isCheck = true
  case neg =>
    have other := Bool.eq_false_iff.mpr turn
    obtain ⟨kept, left⟩ := watching_other data watching other
    rw [other, left]
    exact Or.inr ⟨kept, Nat.le_refl _⟩
  case pos =>
    cases a with
    | check ok answer =>
      -- What is left to show is kept in every case.
      have keeps (nearer : Pending i (t.next data (.check ok answer)) ∧
          visitLeft i (t.next data (.check ok answer)) + 1 ≤ visitLeft i t) :
          Watching i (t.next data (.check ok answer)) ∧
            visitLeft i (t.next data (.check ok answer)) + 1 ≤ visitLeft i t := by
        have slaves := length_next data t (.check ok answer)
        refine ⟨⟨visits_next watching.visits _, slaves ▸ watching.inside, ?_, watching.operational, nearer.1⟩, nearer.2⟩
        intro absent
        have before : t.checkNext ok = .absent := absent
        rw [checkNext] at before
        split at before
        case h_1 gone => exact watching.present gone
        case h_2 => split_ifs at before
        case h_3 => split at before <;> first | cases before | (split_ifs at before)
        case h_4 => cases before
      cases phase : t.checker with
      | absent => exact absurd phase watching.present
      | ended => exact absurd (Or.inl phase) waits
      | loop => exact (watching_loop watching phase ok answer).imp_right keeps
      | pass j => exact (watching_pass watching phase ok answer).imp_right keeps
    | _ => cases turn

theorem visits_run (n : EthercatNode β) (expectedWkc : Int) (run : List Action) :
    Visits (exec (next data) (start n expectedWkc) run) :=
  exec_invariant (visits_start n expectedWkc) fun _ a visits => visits_next visits a

/-- A slave that a visit finds out of operation is visited again within five turns of the checker for
each slave and three more, whatever the other threads do, or the checker has ended. -/
theorem outage_revisited (node : EthercatNode β) (expectedWkc : Int) (run more : List Action) {i : Nat} {s : Station β}
    (visit : (exec (next data) (start node expectedWkc) run).checker = .pass i)
    (here : (exec (next data) (start node expectedWkc) run).stations[i]? = some s) (opened : s.phase = .branch)
    (down : s.state ≠ EC_STATE_OPERATIONAL)
    (turns : 5 * node.slaves.slaveDevices.length + 3 ≤ more.countP Action.isCheck) :
    ∃ first rest, more = first ++ rest ∧
      Revisited i (exec (next data) (start node expectedWkc) (run ++ first)) := by
  have slaves : (exec (next data) (start node expectedWkc) run).stations.length =
      node.slaves.slaveDevices.length := by
    rw [family_length next_stations, start, List.length_map]
  have visits : Visits (exec (next data) (start node expectedWkc) run) := visits_run node expectedWkc run
  have inside := (List.getElem?_eq_some_iff.mp here).1
  have begun : Watching i (exec (next data) (start node expectedWkc) run) := by
    refine ⟨visits, inside, by simp [visit], visits.operational i visit, .visit s visit here ?_⟩
    rw [notOperational, opened]
    exact bne_iff_ne.mpr down
  have bound : visitLeft i (exec (next data) (start node expectedWkc) run) < more.countP Action.isCheck := by
    rw [visitLeft, visit]
    simp only [here, Option.map_some, opened, Nat.lt_irrefl, if_false, sectionsLeft]
    omega
  have always : Along (next data) (fun _ _ => True) (exec (next data) (start node expectedWkc) run) more :=
    along_of_forall _ fun _ _ => trivial
  obtain ⟨first, rest, rfl, reached⟩ := Along.reaches (Q := Revisited i)
    (fun t a watching _ waits => watching_next watching a waits) begun always bound
  exact ⟨first, rest, rfl, by rwa [exec_append]⟩

theorem outage_revisited_receiver :
    ∃ first rest, List.replicate 8 silentCheck = first ++ rest ∧
      Revisited 0 (exec (next receiverData) (start receiverNode 1)
        (List.replicate 3 silent ++ List.replicate 2 silentCheck ++ first)) :=
  outage_revisited receiverNode 1 (List.replicate 3 silent ++ List.replicate 2 silentCheck)
    (List.replicate 8 silentCheck) rfl rfl rfl (by decide) (by decide)

end Cells

end Threads

end EcatMaster.Node
