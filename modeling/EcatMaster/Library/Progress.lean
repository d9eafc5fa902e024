import EcatMaster.Library.Runs

/-! Bounded progress.

Several processes take turns in any order, with any other actions between them.
A round is a piece of a run in which every process has taken a turn. That a run
comes to a goal within a number of rounds follows from a measure that no action
raises and each turn of one process lowers, and such results are chained.
-/

set_option autoImplicit false

namespace EcatMaster.Library

variable {S A : Type} {next : S → A → S} {ok : S → A → Prop} {I P Q R : S → Prop}

/-- A run with more turns than its rank comes through the goal, if each action but the last one
leads to a state of a rank that is not higher, and each turn to a lower one. -/
theorem Along.reaches_ranked {turn : A → Bool} {I : Nat → S → Prop}
    (step : ∀ k s a, I k s → ok s a → ¬Q s → Q (next s a) ∨ ∃ l, l + (turn a).toNat ≤ k ∧ I l (next s a))
    {k : Nat} {s : S} {run : List A} (start : I k s) (holds : Along next ok s run) (enough : k < run.countP turn) :
    ∃ first rest, run = first ++ rest ∧ Q (exec next s first) := by
  induction run generalizing k s with
  | nil => exact absurd enough (Nat.not_lt_zero _)
  | cons a run ih =>
    by_cases here : Q s
    · exact ⟨[], a :: run, rfl, here⟩
    rcases step k s a start holds.1 here with reached | ⟨l, lower, kept⟩
    · exact ⟨[a], run, rfl, reached⟩
    · have count : (a :: run).countP turn = run.countP turn + (turn a).toNat := by
        rw [List.countP_cons]
        cases turn a <;> rfl
      obtain ⟨first, rest, rfl, reached⟩ := ih kept holds.2 (by omega)
      exact ⟨a :: first, rest, rfl, reached⟩

/-- The rank can be a measure of the state. -/
theorem Along.reaches {turn : A → Bool} {left : S → Nat}
    (step : ∀ s a, I s → ok s a → ¬Q s →
      Q (next s a) ∨ I (next s a) ∧ left (next s a) + (turn a).toNat ≤ left s)
    {s : S} {run : List A} (start : I s) (holds : Along next ok s run) (enough : left s < run.countP turn) :
    ∃ first rest, run = first ++ rest ∧ Q (exec next s first) := by
  refine Along.reaches_ranked (I := fun k s => I s ∧ left s = k) ?_ ⟨start, rfl⟩ holds enough
  rintro k s a ⟨kept, rfl⟩ fits waits
  rcases step s a kept fits waits with reached | ⟨still, lower⟩
  · exact Or.inl reached
  · exact Or.inr ⟨_, lower, still, rfl⟩

theorem turns_split {turn : A → Bool} {m n : Nat} {run : List A} (enough : m + n ≤ run.countP turn) :
    ∃ first rest, run = first ++ rest ∧ m ≤ first.countP turn ∧ n ≤ rest.countP turn := by
  induction run generalizing m with
  | nil =>
    rw [List.countP_nil] at enough
    exact ⟨[], [], rfl, by omega, by omega⟩
  | cons a run ih =>
    by_cases none : m = 0
    · exact ⟨[], a :: run, rfl, by omega, by omega⟩
    · have count : (a :: run).countP turn ≤ run.countP turn + 1 := by
        rw [List.countP_cons]
        split <;> omega
      by_cases here : turn a = true
      · obtain ⟨first, rest, rfl, begins, ends⟩ := ih (m := m - 1) (by omega)
        refine ⟨a :: first, rest, rfl, ?_, ends⟩
        rw [List.countP_cons_of_pos here]
        omega
      · rw [List.countP_cons_of_neg here] at enough
        obtain ⟨first, rest, rfl, begins, ends⟩ := ih enough
        refine ⟨a :: first, rest, rfl, ?_, ends⟩
        rwa [List.countP_cons_of_neg here]

/-- A run with this number of rounds, each of which has an action of every kind. -/
inductive Rounds (kinds : List (A → Bool)) : Nat → List A → Prop where
  | zero (run : List A) : Rounds kinds 0 run
  | succ {n : Nat} {round rest : List A} (complete : ∀ kind ∈ kinds, round.any kind = true)
      (more : Rounds kinds n rest) : Rounds kinds (n + 1) (round ++ rest)

variable {kinds : List (A → Bool)}

theorem Rounds.append_left {n : Nat} {run : List A} (rounds : Rounds kinds n run) (before : List A) :
    Rounds kinds n (before ++ run) := by
  cases rounds with
  | zero => exact .zero _
  | succ complete more =>
    rw [← List.append_assoc]
    refine .succ (fun kind member => ?_) more
    rw [List.any_append, complete kind member, Bool.or_true]

theorem Rounds.split {m n : Nat} {run : List A} (rounds : Rounds kinds (m + n) run) :
    ∃ first rest, run = first ++ rest ∧ Rounds kinds m first ∧ Rounds kinds n rest := by
  induction m generalizing run with
  | zero =>
    rw [Nat.zero_add] at rounds
    exact ⟨[], run, rfl, .zero _, rounds⟩
  | succ m ih =>
    rw [Nat.succ_add] at rounds
    cases rounds with
    | succ complete more =>
      obtain ⟨first, rest, rfl, begins, ends⟩ := ih more
      exact ⟨_, rest, (List.append_assoc _ first rest).symm, .succ complete begins, ends⟩

theorem Rounds.le_countP {n : Nat} {run : List A} (rounds : Rounds kinds n run) {kind : A → Bool}
    (member : kind ∈ kinds) : n ≤ run.countP kind := by
  induction rounds with
  | zero => exact Nat.zero_le _
  | succ complete more ih =>
    have one : 1 ≤ List.countP kind _ := List.countP_pos_iff.mpr (List.any_eq_true.mp (complete kind member))
    rw [List.countP_append]
    omega

theorem Rounds.replicate {round : List A} (complete : ∀ kind ∈ kinds, round.any kind = true) (n : Nat) :
    Rounds kinds n (List.replicate n round).flatten := by
  induction n with
  | zero => exact .zero _
  | succ n ih => exact .succ complete ih

/-- From `P`, every run with `n` rounds comes through `Q`. -/
def LeadsTo (next : S → A → S) (kinds : List (A → Bool)) (n : Nat) (P Q : S → Prop) : Prop :=
  ∀ s run, P s → Rounds kinds n run → ∃ first rest, run = first ++ rest ∧ Q (exec next s first)

theorem LeadsTo.of_measure {k : A → Bool} (member : k ∈ kinds) (left : S → Nat) {n : Nat}
    (start : ∀ s, P s → I s ∧ left s < n)
    (step : ∀ s a, I s → ¬Q s → Q (next s a) ∨ I (next s a) ∧ left (next s a) + (k a).toNat ≤ left s) :
    LeadsTo next kinds n P Q := by
  intro s run holds rounds
  obtain ⟨kept, bound⟩ := start s holds
  have always : Along next (fun _ _ => True) s run := along_of_forall s fun _ _ => trivial
  exact Along.reaches (fun s a kept _ => step s a kept) kept always (Nat.lt_of_lt_of_le bound (rounds.le_countP member))

theorem LeadsTo.trans {m n : Nat} (first : LeadsTo next kinds m P Q) (second : LeadsTo next kinds n Q R) :
    LeadsTo next kinds (m + n) P R := by
  intro s run holds rounds
  obtain ⟨begins, ends, rfl, here, there⟩ := rounds.split
  obtain ⟨reached, rest, rfl, half⟩ := first s begins holds here
  -- What the first goal leaves of its rounds comes before those of the second one.
  obtain ⟨further, others, same, final⟩ := second _ (rest ++ ends) half (there.append_left rest)
  refine ⟨reached ++ further, others, ?_, ?_⟩
  · rw [List.append_assoc, List.append_assoc, ← same]
  · rwa [exec_append]

theorem LeadsTo.final {n : Nat} (leads : LeadsTo next kinds n P Q) (stays : ∀ s a, Q s → Q (next s a)) {s : S}
    {run : List A} (holds : P s) (rounds : Rounds kinds n run) : Q (exec next s run) := by
  obtain ⟨first, rest, rfl, reached⟩ := leads s run holds rounds
  rw [exec_append]
  exact exec_invariant reached stays

end EcatMaster.Library
