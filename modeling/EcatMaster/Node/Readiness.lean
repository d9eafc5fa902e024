import EcatMaster.Node.Cycles
import Mathlib.Data.List.Induction

/-! The report that the system has started.

The data thread looks at one slave after the other, each under its own lock, and reports
when none has stopped it. The other threads run in between.
-/

set_option autoImplicit false

namespace EcatMaster.Node
open Library Config Slave SlaveDevice Tasks

def DataPhase.checksReady : DataPhase → Bool
  | .checkReady _ => true
  | _ => false

namespace Threads
variable {β : Type}

theorem allReady_place {t : Threads β} (all : t.allReady = true) :
    ∃ i, t.data = .checkReady i ∧ t.stations.length ≤ i := by
  unfold allReady at all
  split at all
  case h_1 i place => exact ⟨i, place, of_decide_eq_true all⟩
  case h_2 => cases all

theorem dataNext_checked {t : Threads β} (all : t.allReady = true) : t.dataNext = .process 0 := by
  obtain ⟨i, place, done⟩ := allReady_place all
  rw [dataNext, place]
  simp only [List.getElem?_eq_none done, Option.any_none, Bool.false_eq_true, if_false]

theorem dataStep_checksReady {t : Threads β} {place after : DataPhase} (step : DataStep t place after)
    (checks : after.checksReady = true) : t.allSlaveReady = false ∨ place.checksReady = true := by
  cases step with
  | check done waiting => exact Or.inl waiting
  | confirm more => exact Or.inr rfl
  | _ => cases checks

theorem dataStep_checkReady {t : Threads β} {place : DataPhase} {k : Nat} (step : DataStep t place (.checkReady k)) :
    k = 0 ∨ ∃ i, k = i + 1 ∧ place = .checkReady i := by
  cases step with
  | check done waiting => exact Or.inl rfl
  | confirm more => exact Or.inr ⟨_, rfl, rfl⟩

theorem dataNext_checkReady {t : Threads β} {k : Nat} (after : t.dataNext = .checkReady k) :
    k = 0 ∨ ∃ i, k = i + 1 ∧ t.data = .checkReady i ∧ t.stations[i]?.any confirmed = true := by
  refine (dataStep_checkReady (after ▸ t.dataStep)).imp_right ?_
  rintro ⟨i, rfl, place⟩
  refine ⟨i, rfl, place, ?_⟩
  rw [dataNext, place] at after
  dsimp only at after
  split_ifs at after with found
  exact found

section Cells
variable [Cell β] {data : ConfigurationParser}

/-- The report is made where the loop has gone over all slaves, and only the data thread makes it. -/
theorem count_started (t : Threads β) (a : Action) :
    (t.marks a).count .systemStarted = (a.isData && t.allReady).toNat := by
  cases a with
  | data io =>
    rw [marks, dataMarks, allReady, Action.isData, Bool.true_and]
    cases t.data with
    | checkReady i =>
      dsimp only
      split_ifs with more
      · rw [decide_eq_false (Nat.not_le.mpr more)]
        rfl
      · rw [decide_eq_true (Nat.not_lt.mp more)]
        rfl
    | exitReset i | transfer i =>
      dsimp only
      cases t.stations[i]? <;> rfl
    | _ => rfl
  | shutdown =>
    rw [marks]
    split_ifs <;> rfl
  | _ => rfl

structure Reported (t : Threads β) (log : List Mark) : Prop where
  count : log.count .systemStarted = t.allSlaveReady.toNat
  passed : t.allSlaveReady = true → t.data.checksReady = false

theorem reported_next (data : ConfigurationParser) {t : Threads β} {log : List Mark} (a : Action)
    (reported : Reported t log) :
    Reported (t.next data a) (log ++ t.marks a) := by
  by_cases turn : a.isData = true
  case neg =>
    have other := Bool.eq_false_iff.mpr turn
    have flag : (t.next data a).allSlaveReady = t.allSlaveReady := by
      cases a with
      | data io => cases other
      | _ => rfl
    refine ⟨?_, ?_⟩
    · rw [List.count_append, count_started, other, flag]
      exact reported.count
    · rw [flag, (next_other data t other).1]
      exact reported.passed
  case pos =>
    have flag : (t.next data a).allSlaveReady = (t.allSlaveReady || t.allReady) := by
      cases a with
      | data io => rfl
      | _ => cases turn
    have moved : (t.next data a).data = t.dataNext := by
      cases a with
      | data io => rfl
      | _ => cases turn
    cases set : t.allSlaveReady with
    | true =>
      have still := reported.passed set
      have quiet : t.allReady = false := by
        by_contra all
        obtain ⟨i, place, _⟩ := allReady_place (Bool.not_eq_false _ ▸ all)
        rw [place] at still
        cases still
      refine ⟨?_, fun _ => ?_⟩
      · rw [List.count_append, count_started, quiet, flag, set, reported.count, set, turn]
        rfl
      · rw [moved]
        by_contra checks
        rcases dataStep_checksReady t.dataStep (Bool.not_eq_false _ ▸ checks) with fresh | before
        · rw [set] at fresh
          cases fresh
        · rw [still] at before
          cases before
    | false =>
      refine ⟨?_, fun all => ?_⟩
      · rw [List.count_append, count_started, reported.count, flag, set, turn, Bool.true_and, Bool.false_or]
        exact Nat.zero_add _
      · rw [flag, set, Bool.false_or] at all
        rw [moved, dataNext_checked all]
        rfl

/-- The loop that stands at the end of these actions has found slave `i` confirmed. -/
def FoundConfirmed (data : ConfigurationParser) (t : Threads β) (actions : List Action) (i : Nat) : Prop :=
  ∃ before after, actions = before ++ after ∧ (exec (next data) t before).data = .checkReady i ∧
    (exec (next data) t before).stations[i]?.any confirmed = true ∧
    Along (next data) (fun t _ => t.data.checksReady = true) (exec (next data) t before) after

theorem FoundConfirmed.append {t : Threads β} {actions : List Action} {i : Nat}
    (found : FoundConfirmed data t actions i) {a : Action}
    (checks : (exec (next data) t actions).data.checksReady = true) : FoundConfirmed data t (actions ++ [a]) i := by
  obtain ⟨before, after, rfl, place, confirmed, within⟩ := found
  refine ⟨before, after ++ [a], List.append_assoc before after [a], place, confirmed, ?_⟩
  rw [along_append, ← exec_append]
  exact ⟨within, checks, trivial⟩

theorem found_confirmed (data : ConfigurationParser) (t : Threads β) (noCheck : t.data.checksReady = false)
    (actions : List Action) :
    ∀ k, (exec (next data) t actions).data = .checkReady k → ∀ i < k, FoundConfirmed data t actions i := by
  induction actions using List.reverseRecOn with
  | nil =>
    intro k place
    rw [show t.data = .checkReady k from place] at noCheck
    cases noCheck
  | append_singleton actions a ih =>
    intro k place i low
    rw [exec_append] at place
    change ((exec (next data) t actions).next data a).data = .checkReady k at place
    by_cases turn : a.isData = true
    · have moved : (exec (next data) t actions).dataNext = .checkReady k := by
        cases a with
        | data io => exact place
        | _ => cases turn
      rcases dataNext_checkReady moved with rfl | ⟨j, rfl, before, found⟩
      · exact absurd low (Nat.not_lt_zero i)
      · have checks : (exec (next data) t actions).data.checksReady = true := by rw [before]; rfl
        rcases Nat.lt_succ_iff_lt_or_eq.mp low with earlier | rfl
        · exact (ih j before i earlier).append checks
        · exact ⟨actions, [a], rfl, before, found, checks, trivial⟩
    · rw [(next_other data _ (Bool.eq_false_iff.mpr turn)).1] at place
      exact (ih k place i low).append (by rw [place]; rfl)

/-- Under every order of the threads the node reports at most once that the system has started, and
then the same loop of the data thread has found each of its slaves confirmed. -/
theorem started_confirmed (data : ConfigurationParser) (node : EthercatNode β) (expectedWkc : Int) (run : List Action) :
    (log data (start node expectedWkc) run).count .systemStarted ≤ 1 ∧
    ∀ first a rest, run = first ++ a :: rest →
      .systemStarted ∈ marks (exec (next data) (start node expectedWkc) first) a →
      ∀ i < node.slaves.slaveDevices.length, FoundConfirmed data (start node expectedWkc) first i := by
  have noCheck : (start node expectedWkc).data.checksReady = false := by
    simp only [start]
    split <;> rfl
  constructor
  · have begins : Reported (start node expectedWkc) [] := ⟨rfl, fun _ => noCheck⟩
    have reported := labels_invariant begins (fun _ a _ => reported_next data a) run
    have count := reported.count
    rw [List.nil_append] at count
    rw [log, count]
    exact Bool.toNat_le _
  · rintro first a rest rfl marked i low
    have counted : 0 < (marks (exec (next data) (start node expectedWkc) first) a).count .systemStarted :=
      List.count_pos_iff.mpr marked
    rw [count_started] at counted
    have all : allReady (exec (next data) (start node expectedWkc) first) = true := by
      by_contra not
      rw [Bool.eq_false_iff.mpr not, Bool.and_false] at counted
      exact absurd counted (Nat.lt_irrefl 0)
    obtain ⟨k, place, done⟩ := allReady_place all
    rw [family_length next_stations, start, List.length_map] at done
    exact found_confirmed data _ noCheck first k place i (Nat.lt_of_lt_of_le low done)

end Cells

/-- The step leaves a slave in work, and a read tells so. -/
def Confirms : Step → Prop
  | .receiveFromSlave inputs => SLAVE_CONFIRM_READY ≤ inputs.status
  | s => KeepsWork s

instance : DecidablePred Confirms := fun s =>
  match s with
  | .receiveFromSlave inputs => inferInstanceAs (Decidable (SLAVE_CONFIRM_READY ≤ inputs.status))
  | .process _ | .transferToSlave | .recoverState | .onCommand _ _ => .isTrue trivial
  | .exitReset | .preRecover | .init _ | .resetState | .connectionLost => .isFalse id

theorem Confirms.keepsWork {s : Step} (confirms : Confirms s) : KeepsWork s := by
  cases s <;> trivial

def ConfirmsAt (t : Threads UInt8) (a : Action) : Prop :=
  ∀ i < t.stations.length, ∀ s ∈ t.stepsAt i a, Confirms s

instance (t : Threads UInt8) (a : Action) : Decidable (ConfirmsAt t a) :=
  inferInstanceAs (Decidable (∀ _ < _, ∀ _ ∈ _, _))

/-- A slave in work, which has said so when it was read last. -/
structure Confirmed (d : SlaveDevice UInt8) : Prop where
  work : InWork d
  status : SLAVE_CONFIRM_READY ≤ d.slaveStatus

theorem confirmed_step {data : ConfigurationParser} {d : SlaveDevice UInt8} {s : Step} (before : Confirmed d)
    (confirms : Confirms s) :
    Confirmed (SlaveDevice.next data d s) where
  work := inWork_next before.work confirms.keepsWork
  status := by
    cases s with
    | receiveFromSlave inputs => exact confirms
    | process currentTime =>
      cases configured : d.isConfigured with
      | false => rw [next_process_skipped configured]; exact before.status
      | true => rw [next_process configured]; exact before.status
    | onCommand k msg =>
      rw [next_onCommand]
      exact before.status
    | transferToSlave => exact before.status
    | recoverState => exact before.status
    | _ => exact absurd confirms id

theorem station_before (data : ConfigurationParser) {t : Threads UInt8} {a : Action} {j : Nat} {s' : Station UInt8}
    (there : (t.next data a).stations[j]? = some s') :
    ∃ s, t.stations[j]? = some s ∧ s'.device = exec (SlaveDevice.next data) s.device (t.stepsAt j a) := by
  have inside := (List.getElem?_eq_some_iff.mp there).1
  rw [length_next] at inside
  have here := List.getElem?_eq_getElem inside
  obtain ⟨s, found, device⟩ := station_next data t a here
  cases found.symm.trans there
  exact ⟨_, here, device⟩

/-- The slaves that have been read in this cycle, as far as the check goes. -/
def readBefore (slaves : Nat) : DataPhase → Nat
  | .receive k => k
  | .checkReady _ => slaves
  | _ => 0

/-- The turns of the data thread before it has checked all slaves. -/
def readyLeft (slaves : Nat) : DataPhase → Nat
  | .exchange => 2 * slaves + 2
  | .receive k => slaves - k + 1 + slaves
  | .checkReady k => slaves - k
  | _ => 0

inductive InCheck (slaves : Nat) : DataPhase → Prop where
  | exchange : InCheck slaves .exchange
  | receive {k : Nat} (inside : k ≤ slaves) : InCheck slaves (.receive k)
  | checkReady {k : Nat} (inside : k ≤ slaves) : InCheck slaves (.checkReady k)

structure Checking (t : Threads UInt8) : Prop where
  fresh : t.allSlaveReady = false
  place : InCheck t.stations.length t.data
  work : ∀ s ∈ t.stations, InWork s.device
  read : ∀ j s, t.stations[j]? = some s → j < readBefore t.stations.length t.data → SLAVE_CONFIRM_READY ≤ s.device.slaveStatus

variable {data : ConfigurationParser} {t : Threads UInt8} {a : Action}

theorem work_next (work : ∀ s ∈ t.stations, InWork s.device) (confirms : ConfirmsAt t a) :
    ∀ s ∈ (t.next data a).stations, InWork s.device := by
  intro s' member
  obtain ⟨j, there⟩ := List.mem_iff_getElem?.mp member
  obtain ⟨s, here, device⟩ := station_before data there
  have steps : Along (SlaveDevice.next data) (fun _ s => Confirms s) s.device (t.stepsAt j a) :=
    along_of_forall _ (confirms j (List.getElem?_eq_some_iff.mp here).1)
  rw [device]
  exact steps.exec_invariant (work s (List.mem_of_getElem? here)) fun _ _ work confirms => inWork_next work confirms.keepsWork

theorem read_next (work : ∀ s ∈ t.stations, InWork s.device) (confirms : ConfirmsAt t a) {j : Nat} {s' : Station UInt8}
    (there : (t.next data a).stations[j]? = some s')
    (before : ∀ s, t.stations[j]? = some s → SLAVE_CONFIRM_READY ≤ s.device.slaveStatus) :
    SLAVE_CONFIRM_READY ≤ s'.device.slaveStatus := by
  obtain ⟨s, here, device⟩ := station_before data there
  have steps : Along (SlaveDevice.next data) (fun _ s => Confirms s) s.device (t.stepsAt j a) :=
    along_of_forall _ (confirms j (List.getElem?_eq_some_iff.mp here).1)
  rw [device]
  exact (steps.exec_invariant (I := Confirmed) ⟨work s (List.mem_of_getElem? here), before s here⟩
    fun _ _ before confirms => confirmed_step before confirms).status

theorem checking_other (checking : Checking t) (confirms : ConfirmsAt t a) (other : a.isData = false) :
    Checking (t.next data a) where
  fresh := by
    cases a with
    | data io => cases other
    | _ => exact checking.fresh
  place := by
    rw [length_next, (next_other data t other).1]
    exact checking.place
  work := work_next checking.work confirms
  read := by
    intro j s' there low
    rw [length_next, (next_other data t other).1] at low
    exact read_next checking.work confirms there fun s here => checking.read j s here low

theorem checking_data (data : ConfigurationParser) (checking : Checking t) (io : Exchange)
    (confirms : ConfirmsAt t (.data io))
    (unfinished : t.data ≠ .checkReady t.stations.length) :
    Checking (t.next data (.data io)) ∧
      readyLeft t.stations.length (t.next data (.data io)).data + 1 ≤ readyLeft t.stations.length t.data := by
  have unready : t.allReady = false := by
    by_contra all
    obtain ⟨k, place, done⟩ := allReady_place (Bool.not_eq_false _ ▸ all)
    have inside := checking.place
    rw [place] at inside unfinished
    cases inside with
    | checkReady inside => exact unfinished (congrArg _ (Nat.le_antisymm inside done))
  have fresh : (t.next data (.data io)).allSlaveReady = false := by
    change (t.allSlaveReady || t.allReady) = false
    rw [checking.fresh, unready]
    rfl
  have moved : (t.next data (.data io)).data = t.dataNext := rfl
  have slaves := length_next data t (.data io)
  have kept : ∀ {j s'}, (t.next data (.data io)).stations[j]? = some s' → j < readBefore t.stations.length t.data →
      SLAVE_CONFIRM_READY ≤ s'.device.slaveStatus := fun {j s'} there low =>
    read_next checking.work confirms there fun s here => checking.read j s here low
  have place := checking.place
  generalize phase : t.data = at_ at place kept unfinished
  cases place with
  | exchange =>
    have after : t.dataNext = .receive 0 := by rw [dataNext, phase]
    rw [moved, after]
    refine ⟨⟨fresh, ?_, work_next checking.work confirms, ?_⟩, ?_⟩
    · rw [moved, after]
      exact .receive (Nat.zero_le _)
    · intro j s' there low
      rw [moved, after] at low
      exact absurd low (Nat.not_lt_zero j)
    · simp only [readyLeft]
      omega
  | @receive k inside =>
    by_cases more : k < t.stations.length
    · have after : t.dataNext = .receive (k + 1) := by
        rw [dataNext, phase]
        exact if_pos more
      rw [moved, after]
      refine ⟨⟨fresh, ?_, work_next checking.work confirms, ?_⟩, ?_⟩
      · rw [moved, after, slaves]
        exact .receive more
      · intro j s' there low
        rw [moved, after] at low
        rcases Nat.lt_succ_iff_lt_or_eq.mp low with earlier | rfl
        · exact kept there earlier
        · -- The slave that is read now.
          obtain ⟨s, here, device⟩ := station_before data there
          have own := stepsAt_data here io
          rw [phase] at own
          simp only [if_true] at own
          have status := confirms j more (.receiveFromSlave io.inputs) (own ▸ List.mem_singleton_self _)
          rw [device, own]
          exact status
      · simp only [readyLeft]
        omega
    · have after : t.dataNext = .checkReady 0 := by
        rw [dataNext, phase]
        simp [nextSlave, more, checking.fresh]
      have last : k = t.stations.length := by omega
      rw [moved, after]
      refine ⟨⟨fresh, ?_, work_next checking.work confirms, ?_⟩, ?_⟩
      · rw [moved, after]
        exact .checkReady (Nat.zero_le _)
      · intro j s' there _
        have low : j < t.stations.length := slaves ▸ (List.getElem?_eq_some_iff.mp there).1
        exact kept there (last ▸ low)
      · simp only [readyLeft]
        omega
  | @checkReady k inside =>
    have more : k < t.stations.length := Nat.lt_of_le_of_ne inside fun same => unfinished (congrArg _ same)
    have here := List.getElem?_eq_getElem more
    have found : t.stations[k]?.any confirmed = true := by
      have ready := (checking.work _ (List.mem_of_getElem? here)).ready
      have status := checking.read k _ here (by rw [phase]; exact more)
      rw [here, Option.any_some, confirmed, ready, Bool.and_true]
      exact decide_eq_true status
    have after : t.dataNext = .checkReady (k + 1) := by
      rw [dataNext, phase]
      simp only [found, if_true]
    rw [moved, after]
    refine ⟨⟨fresh, ?_, work_next checking.work confirms, ?_⟩, ?_⟩
    · rw [moved, after, slaves]
      exact .checkReady more
    · intro j s' there _
      have low : j < t.stations.length := slaves ▸ (List.getElem?_eq_some_iff.mp there).1
      exact kept there low
    · simp only [readyLeft]
      omega

def reportLeft (t : Threads UInt8) : Nat := readyLeft t.stations.length t.data

def Checked (t : Threads UInt8) : Prop := t.data = .checkReady t.stations.length

theorem report_made (data : ConfigurationParser) {t : Threads UInt8} {run : List Action} (checked : Checked t)
    (turn : 1 ≤ run.countP Action.isData) :
    .systemStarted ∈ log data t run := by
  induction run generalizing t with
  | nil => cases turn
  | cons a run ih =>
    rw [log, labels]
    by_cases here : a.isData = true
    · have all : t.allReady = true := by
        rw [allReady, checked]
        exact decide_eq_true (Nat.le_refl _)
      have counted : (t.marks a).count .systemStarted = 1 := by
        rw [count_started, here, all]
        rfl
      exact List.mem_append_left _ (List.count_pos_iff.mp (by omega))
    · have other := Bool.eq_false_iff.mpr here
      rw [List.countP_cons_of_neg here] at turn
      refine List.mem_append_right _ (ih ?_ turn)
      rw [Checked, (next_other data t other).1, length_next]
      exact checked

/-- As long as all slaves are in work and each one that is read says so, a data cycle reports that the system
has started, unless that has been reported: within `2 * slaves + 4` of its turns, under every order of the
threads. -/
theorem started_reported (data : ConfigurationParser) (t : Threads UInt8) (place : t.data = .exchange)
    (fresh : t.allSlaveReady = false) (work : ∀ s ∈ t.stations, InWork s.device) (run : List Action)
    (confirms : Along (next data) ConfirmsAt t run) (turns : 2 * t.stations.length + 4 ≤ run.countP Action.isData) :
    .systemStarted ∈ log data t run := by
  have begins : Checking t :=
    { fresh, work
      place := place ▸ .exchange
      read := by
        intro j s _ low
        rw [place] at low
        exact absurd low (Nat.not_lt_zero j) }
  have step : ∀ (s : Threads UInt8) (a : Action), Checking s → ConfirmsAt s a → ¬Checked s →
      Checked (s.next data a) ∨ Checking (s.next data a) ∧ reportLeft (s.next data a) + a.isData.toNat ≤ reportLeft s := by
    intro s a checking confirms unfinished
    rw [reportLeft, length_next, reportLeft]
    by_cases turn : a.isData = true
    · cases a with
      | data io => exact Or.inr (checking_data data checking io confirms unfinished)
      | _ => cases turn
    · have other := Bool.eq_false_iff.mpr turn
      rw [(next_other data s other).1, other]
      exact Or.inr ⟨checking_other checking confirms other, Nat.le_refl _⟩
  obtain ⟨begun, others, rfl, enough, more⟩ := turns_split (m := 2 * t.stations.length + 3) (n := 1) turns
  have left : reportLeft t < begun.countP Action.isData := by
    rw [reportLeft, place]
    exact enough
  obtain ⟨first, rest, rfl, checked⟩ := Along.reaches step begins ((along_append _ _ _).mp confirms).1 left
  rw [List.append_assoc, log, labels_append]
  refine List.mem_append_right _ (report_made data checked ?_)
  rw [List.countP_append]
  omega

def confirmedRun : List Action :=
  .check true ⟨EC_STATE_OPERATIONAL, none, false⟩ :: List.replicate 7 (.data ⟨1, ⟨SLAVE_CONFIRM_READY, []⟩, 0⟩)

theorem started_reported_motor :
    .systemStarted ∈ log receiverData { workingNode with data := .exchange, allSlaveReady := false } confirmedRun := by
  refine started_reported receiverData { workingNode with data := .exchange, allSlaveReady := false } rfl rfl ?_
    confirmedRun (by decide +kernel) (by decide)
  intro s member
  cases List.mem_singleton.mp member
  exact ⟨rfl, by decide⟩

end Threads

end EcatMaster.Node
