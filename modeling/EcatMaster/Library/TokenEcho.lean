import Mathlib.Data.List.Nodup
import Mathlib.Data.List.Range
import EcatMaster.Library.Runs

/-! Echoes of a token over channels that keep their order.

A sender has a current token, which it repeats until it sees it again in a report
of the responder; then it accepts the report and takes the next token. Messages may
be late or lost in both directions, but none overtakes another. The tokens are
numbered here, and so are the reports; what is on the wire need not tell two
tokens apart unless they are neighbours.
-/

set_option autoImplicit false

namespace EcatMaster.Library

/-- A report: its number, and the token that the responder had received last. -/
structure Echo where
  number : Nat
  token : Nat
  deriving DecidableEq

def Echo.Before (first later : Echo) : Prop :=
  first.token ≤ later.token ∧ first.number ≤ later.number ∧ (first.number = later.number → first.token = later.token)

structure Exchange where
  accepted : List Echo
  /-- The report that the sender looks at. -/
  read : Echo
  /-- The last report that has arrived. -/
  image : Echo
  inputs : List Echo
  produced : Nat
  received : Nat
  outputs : List Nat
  current : Nat

namespace Exchange

inductive Move where
  | send
  | loseOutput (i : Nat)
  | deliver
  | report
  | loseInput (i : Nat)
  | arrive
  | read
  | accept
  deriving DecidableEq

def next (s : Exchange) : Move → Exchange
  | .send => { s with outputs := s.outputs ++ [s.current] }
  | .loseOutput i => { s with outputs := s.outputs.eraseIdx i }
  | .deliver =>
    match s.outputs with
    | [] => s
    | token :: rest => { s with received := token, outputs := rest }
  | .report => { s with inputs := s.inputs ++ [⟨s.produced, s.received⟩], produced := s.produced + 1 }
  | .loseInput i => { s with inputs := s.inputs.eraseIdx i }
  | .arrive =>
    match s.inputs with
    | [] => s
    | echo :: rest => { s with image := echo, inputs := rest }
  -- Without a new arrival the sender looks at the same report again.
  | .read => { s with read := s.image }
  | .accept => { s with accepted := s.accepted ++ [s.read], current := s.current + 1 }

/-- All reports that are kept somewhere, the oldest first. -/
def echoes (s : Exchange) : List Echo := s.accepted ++ s.read :: s.image :: s.inputs

/-- Everything that is on the way is in order, and the sender is at most one token ahead of the
report it looks at. -/
structure InOrder (s : Exchange) : Prop where
  reports : s.echoes.Pairwise Echo.Before
  past : ∀ echo ∈ s.echoes, echo.number < s.produced ∧ echo.token ≤ s.received
  tokens : (s.received :: (s.outputs ++ [s.current])).Pairwise (· ≤ ·)
  close : s.current ≤ s.read.token + 1
  count : s.current = s.accepted.length + 1
  counted : s.accepted.map Echo.token = List.range' 1 s.accepted.length

section Order
variable {s : Exchange}

theorem InOrder.received_le (ordered : s.InOrder) : s.received ≤ s.current :=
  List.rel_of_pairwise_cons ordered.tokens (by simp)

theorem InOrder.output_le (ordered : s.InOrder) {token : Nat} (sent : token ∈ s.outputs) : token ≤ s.current :=
  (List.pairwise_append.mp ordered.tokens.of_cons).2.2 token sent s.current List.mem_cons_self

theorem InOrder.read_le (ordered : s.InOrder) : s.read.token ≤ s.received :=
  (ordered.past s.read (by simp [echoes])).2

theorem InOrder.read_cases (ordered : s.InOrder) : s.read.token = s.current ∨ s.read.token + 1 = s.current := by
  have low := ordered.close
  have high := ordered.read_le.trans ordered.received_le
  omega

theorem InOrder.of_sublist {s' : Exchange} (ordered : s.InOrder) (kept : s'.echoes.Sublist s.echoes)
    (tokens : (s'.received :: (s'.outputs ++ [s'.current])).Sublist (s.received :: (s.outputs ++ [s.current])))
    (produced : s'.produced = s.produced) (received : s.received ≤ s'.received) (current : s'.current = s.current)
    (accepted : s'.accepted = s.accepted) (read : s.read.token ≤ s'.read.token) : s'.InOrder where
  reports := ordered.reports.sublist kept
  past := by
    intro echo within
    obtain ⟨number, token⟩ := ordered.past echo (kept.subset within)
    exact ⟨by rwa [produced], token.trans received⟩
  tokens := ordered.tokens.sublist tokens
  close := by
    have := ordered.close
    omega
  count := by rw [current, accepted, ordered.count]
  counted := by rw [accepted, ordered.counted]

theorem pairwise_double {A : Type} {R : A → A → Prop} {before after : List A} {a : A} (self : R a a)
    (holds : (before ++ a :: after).Pairwise R) : (before ++ a :: a :: after).Pairwise R := by
  obtain ⟨left, right, across⟩ := List.pairwise_append.mp holds
  refine List.pairwise_append.mpr ⟨left, ?_, ?_⟩
  · refine List.pairwise_cons.mpr ⟨?_, right⟩
    exact List.forall_mem_cons.mpr ⟨self, (List.pairwise_cons.mp right).1⟩
  · intro b earlier
    exact List.forall_mem_cons.mpr ⟨across b earlier a List.mem_cons_self, across b earlier⟩

theorem Echo.before_self (echo : Echo) : echo.Before echo := ⟨Nat.le_refl _, Nat.le_refl _, fun _ => rfl⟩

theorem InOrder.send (ordered : s.InOrder) : (s.next .send).InOrder where
  reports := ordered.reports
  past := ordered.past
  tokens := by
    have doubled : (s.next .send).received :: ((s.next .send).outputs ++ [(s.next .send).current]) =
        (s.received :: s.outputs) ++ s.current :: [s.current] := by simp [next]
    rw [doubled]
    exact pairwise_double (Nat.le_refl _) ordered.tokens
  close := ordered.close
  count := ordered.count
  counted := ordered.counted

theorem InOrder.loseOutput (ordered : s.InOrder) (i : Nat) : (s.next (.loseOutput i)).InOrder :=
  ordered.of_sublist (List.Sublist.refl _) (((List.eraseIdx_sublist _ i).append_right _).cons_cons _) rfl
    (Nat.le_refl _) rfl rfl (Nat.le_refl _)

theorem InOrder.deliver (ordered : s.InOrder) : (s.next .deliver).InOrder := by
  cases waiting : s.outputs with
  | nil => simpa only [next, waiting] using ordered
  | cons token rest =>
    have later : s.received ≤ token := List.rel_of_pairwise_cons ordered.tokens (by simp [waiting])
    have kept : (token :: (rest ++ [s.current])).Sublist (s.received :: (s.outputs ++ [s.current])) := by
      rw [waiting]
      exact List.sublist_cons_self _ _
    rw [next, waiting]
    exact ordered.of_sublist (List.Sublist.refl _) kept rfl later rfl rfl (Nat.le_refl _)

theorem InOrder.report (ordered : s.InOrder) : (s.next .report).InOrder := by
  have appended : (s.next .report).echoes = s.echoes ++ [⟨s.produced, s.received⟩] := by
    simp [next, echoes]
  constructor
  case reports =>
    rw [appended]
    refine List.pairwise_append.mpr ⟨ordered.reports, List.pairwise_singleton _ _, ?_⟩
    intro echo within
    obtain ⟨number, token⟩ := ordered.past echo within
    exact List.forall_mem_singleton.mpr ⟨token, Nat.le_of_lt number, fun same => absurd same (Nat.ne_of_lt number)⟩
  case past =>
    rw [appended]
    intro echo within
    rcases List.mem_append.mp within with old | new
    · obtain ⟨number, token⟩ := ordered.past echo old
      exact ⟨Nat.lt_succ_of_lt number, token⟩
    · rw [List.mem_singleton.mp new]
      exact ⟨Nat.lt_succ_self _, Nat.le_refl _⟩
  case tokens => exact ordered.tokens
  case close => exact ordered.close
  case count => exact ordered.count
  case counted => exact ordered.counted

theorem InOrder.loseInput (ordered : s.InOrder) (i : Nat) : (s.next (.loseInput i)).InOrder :=
  ordered.of_sublist ((((List.eraseIdx_sublist _ i).cons_cons _).cons_cons _).append_left _) (List.Sublist.refl _) rfl
    (Nat.le_refl _) rfl rfl (Nat.le_refl _)

theorem InOrder.arrive (ordered : s.InOrder) : (s.next .arrive).InOrder := by
  cases waiting : s.inputs with
  | nil => simpa only [next, waiting] using ordered
  | cons echo rest =>
    have kept : (s.accepted ++ s.read :: echo :: rest).Sublist s.echoes := by
      rw [echoes, waiting]
      exact ((List.sublist_cons_self _ _).cons_cons _).append_left _
    rw [next, waiting]
    exact ordered.of_sublist kept (List.Sublist.refl _) rfl (Nat.le_refl _) rfl rfl (Nat.le_refl _)

theorem InOrder.read (ordered : s.InOrder) : (s.next .read).InOrder := by
  have image : s.read.Before s.image :=
    List.rel_of_pairwise_cons (List.pairwise_append.mp ordered.reports).2.1 List.mem_cons_self
  constructor
  case reports =>
    apply pairwise_double (Echo.before_self _)
    exact ordered.reports.sublist ((List.sublist_cons_self _ _).append_left _)
  case past =>
    intro echo within
    apply ordered.past echo
    simp only [next, echoes, List.mem_append, List.mem_cons] at within ⊢
    tauto
  case tokens => exact ordered.tokens
  case close => exact ordered.close.trans (Nat.succ_le_succ image.1)
  case count => exact ordered.count
  case counted => exact ordered.counted

theorem InOrder.accept (ordered : s.InOrder) (fresh : s.read.token = s.current) : (s.next .accept).InOrder := by
  have moved : (s.next .accept).echoes = s.accepted ++ s.read :: s.read :: s.image :: s.inputs := by
    simp [next, echoes]
  constructor
  case reports =>
    rw [moved]
    exact pairwise_double (Echo.before_self _) ordered.reports
  case past =>
    rw [moved]
    intro echo within
    apply ordered.past echo
    simp only [echoes, List.mem_append, List.mem_cons] at within ⊢
    tauto
  case tokens =>
    obtain ⟨sent, last, across⟩ := List.pairwise_append.mp (List.cons_append ▸ ordered.tokens)
    refine List.pairwise_append.mpr ⟨sent, List.pairwise_singleton _ _, ?_⟩
    intro token within
    exact List.forall_mem_singleton.mpr ((across token within s.current List.mem_cons_self).trans (Nat.le_succ _))
  case close => exact Nat.le_of_eq (congrArg (· + 1) fresh.symm)
  case count => simp [next, ordered.count]
  case counted =>
    simp only [next, List.map_append, List.map_cons, List.map_nil, ordered.counted, fresh, ordered.count,
      List.length_append, List.length_singleton, List.range'_concat, Nat.one_mul, Nat.add_comm]

/-- Every move keeps the order, if only reports with the current token are accepted. -/
theorem InOrder.next (ordered : s.InOrder) (move : Move) (fresh : move = .accept → s.read.token = s.current) :
    (s.next move).InOrder := by
  cases move with
  | send => exact ordered.send
  | loseOutput i => exact ordered.loseOutput i
  | deliver => exact ordered.deliver
  | report => exact ordered.report
  | loseInput i => exact ordered.loseInput i
  | arrive => exact ordered.arrive
  | read => exact ordered.read
  | accept => exact ordered.accept (fresh rfl)

/-- Each accepted report answers another token, so none is accepted twice. -/
theorem InOrder.accepted_distinct (ordered : s.InOrder) : (s.accepted.map Echo.number).Nodup := by
  have tokens : (s.accepted.map Echo.token).Nodup := by
    rw [ordered.counted]
    exact List.nodup_range'
  have before : s.accepted.Pairwise Echo.Before := (List.pairwise_append.mp ordered.reports).1
  refine List.pairwise_map.mpr (List.Pairwise.imp ?_ (before.and (List.pairwise_map.mp tokens)))
  intro first later both same
  exact both.2 (both.1.2.2 same)

end Order

end Exchange

end EcatMaster.Library
