import Mathlib.Data.List.Basic

/-! Runs of a deterministic labelled system.

`next` says what one action does to a state, a run is the list of actions that
are taken, and `Along` says that a relation between state and action holds at
every step of a run. A safety property and the condition under which it holds
are both stated with `Along`, so that the rules below connect the two by a step
lemma and an invariant.
-/

set_option autoImplicit false

namespace EcatMaster.Library

variable {S T A B : Type}

def exec (next : S → A → S) : S → List A → S
  | s, [] => s
  | s, a :: run => exec next (next s a) run

/-- Every action of the run satisfies `ok` in the state it is taken in. -/
def Along (next : S → A → S) (ok : S → A → Prop) : S → List A → Prop
  | _, [] => True
  | s, a :: run => ok s a ∧ Along next ok (next s a) run

instance decidableAlong (next : S → A → S) (ok : S → A → Prop) [∀ s a, Decidable (ok s a)] :
    (s : S) → (run : List A) → Decidable (Along next ok s run)
  | _, [] => .isTrue trivial
  | s, a :: run => @instDecidableAnd _ _ _ (decidableAlong next ok (next s a) run)

variable {next : S → A → S} {ok good : S → A → Prop}

theorem exec_append (next : S → A → S) (s : S) (first rest : List A) :
    exec next s (first ++ rest) = exec next (exec next s first) rest := by
  induction first generalizing s with
  | nil => rfl
  | cons a first ih => exact ih (next s a)

theorem along_append (s : S) (first rest : List A) :
    Along next ok s (first ++ rest) ↔ Along next ok s first ∧ Along next ok (exec next s first) rest := by
  induction first generalizing s with
  | nil => simp [Along, exec]
  | cons a first ih => simp [Along, exec, ih, and_assoc]

theorem Along.and {s : S} {run : List A} (left : Along next ok s run) (right : Along next good s run) :
    Along next (fun s a => ok s a ∧ good s a) s run := by
  induction run generalizing s with
  | nil => trivial
  | cons a run ih => exact ⟨⟨left.1, right.1⟩, ih left.2 right.2⟩

theorem along_of_forall {P : A → Prop} (s : S) {run : List A} (each : ∀ a ∈ run, P a) :
    Along next (fun _ a => P a) s run := by
  induction run generalizing s with
  | nil => trivial
  | cons a run ih =>
    obtain ⟨here, others⟩ := List.forall_mem_cons.mp each
    exact ⟨here, ih (next s a) others⟩

theorem along_iff_forall {P : A → Prop} (s : S) (run : List A) :
    Along next (fun _ a => P a) s run ↔ ∀ a ∈ run, P a := by
  refine ⟨fun holds => ?_, along_of_forall s⟩
  induction run generalizing s with
  | nil => exact nofun
  | cons a run ih => exact List.forall_mem_cons.mpr ⟨holds.1, ih (next s a) holds.2⟩

section Invariants
variable {I : S → Prop}

theorem exec_invariant {s : S} {run : List A} (start : I s) (keep : ∀ s a, I s → I (next s a)) :
    I (exec next s run) := by
  induction run generalizing s with
  | nil => exact start
  | cons a run ih => exact ih (keep s a start)

/-- A run whose steps satisfy the condition `ok` is good at every step. -/
theorem Along.transfer {s : S} {run : List A} (start : I s)
    (keep : ∀ s a, I s → ok s a → I (next s a)) (step : ∀ s a, I s → ok s a → good s a)
    (holds : Along next ok s run) : Along next good s run := by
  induction run generalizing s with
  | nil => trivial
  | cons a run ih => exact ⟨step s a start holds.1, ih (keep s a start holds.1) holds.2⟩

theorem along_of_invariant {s : S} {run : List A} (start : I s)
    (keep : ∀ s a, I s → I (next s a)) (step : ∀ s a, I s → good s a) : Along next good s run := by
  induction run generalizing s with
  | nil => trivial
  | cons a run ih => exact ⟨step s a start, ih (keep s a start)⟩

theorem Along.exec_invariant {s : S} {run : List A} (start : I s) (keep : ∀ s a, I s → ok s a → I (next s a))
    (holds : Along next ok s run) : I (exec next s run) := by
  induction run generalizing s with
  | nil => exact start
  | cons a run ih => exact ih (keep s a start holds.1) holds.2

/-- Where the condition is exact at one step, it is exact over runs. -/
theorem along_iff_along {s : S} {run : List A} (start : I s)
    (keep : ∀ s a, I s → ok s a → I (next s a)) (step : ∀ s a, I s → (ok s a ↔ good s a)) :
    Along next ok s run ↔ Along next good s run := by
  induction run generalizing s with
  | nil => exact Iff.rfl
  | cons a run ih =>
    -- The invariant is kept only under `ok`, so `good` gives `ok` before the induction goes on.
    constructor
    · intro holds
      exact ⟨(step s a start).mp holds.1, (ih (keep s a start holds.1)).mp holds.2⟩
    · intro holds
      have here := (step s a start).mpr holds.1
      exact ⟨here, (ih (keep s a start here)).mpr holds.2⟩

end Invariants

/-- The actions of the component in a run of the system: each step of the system takes the
component through a list of them. -/
def labels (next : S → A → S) (g : S → A → List B) : S → List A → List B
  | _, [] => []
  | s, a :: run => g s a ++ labels next g (next s a) run

theorem labels_append (g : S → A → List B) (s : S) (first rest : List A) :
    labels next g s (first ++ rest) = labels next g s first ++ labels next g (exec next s first) rest := by
  induction first generalizing s with
  | nil => rfl
  | cons a first ih => rw [List.cons_append, labels, ih, labels, List.append_assoc, exec]

theorem mem_labels {g : S → A → List B} {s : S} {run : List A} {b : B} (member : b ∈ labels next g s run) :
    ∃ first a rest, run = first ++ a :: rest ∧ b ∈ g (exec next s first) a := by
  induction run generalizing s with
  | nil => cases member
  | cons a run ih =>
    rcases List.mem_append.mp member with here | later
    · exact ⟨[], a, run, rfl, here⟩
    · obtain ⟨first, other, rest, rfl, found⟩ := ih later
      exact ⟨a :: first, other, rest, rfl, found⟩

theorem Along.labels_invariant {g : S → A → List B} {I : S → List B → Prop} {s : S} {run : List A} {before : List B}
    (start : I s before) (keep : ∀ s a emitted, I s emitted → ok s a → I (next s a) (emitted ++ g s a))
    (holds : Along next ok s run) : I (exec next s run) (before ++ labels next g s run) := by
  induction run generalizing s before with
  | nil => rwa [labels, List.append_nil]
  | cons a run ih =>
    rw [labels, ← List.append_assoc]
    exact ih (keep s a before start holds.1) holds.2

theorem labels_invariant {g : S → A → List B} {I : S → List B → Prop} {s : S} {before : List B} (start : I s before)
    (keep : ∀ s a emitted, I s emitted → I (next s a) (emitted ++ g s a)) (run : List A) :
    I (exec next s run) (before ++ labels next g s run) :=
  (along_of_forall (P := fun _ => True) s fun _ _ => trivial).labels_invariant start
    fun s a emitted holds _ => keep s a emitted holds

/-- A system that only adds to the state of another one runs as it does. -/
theorem exec_project {next' : T → A → T} {f : S → T} (commutes : ∀ s a, f (next s a) = next' (f s) a) (s : S)
    (run : List A) : f (exec next s run) = exec next' (f s) run := by
  induction run generalizing s with
  | nil => rfl
  | cons a run ih => rw [exec, ih, commutes, exec]

section Components
variable {next' : T → B → T} {ok' : T → B → Prop} {f : S → T} {g : S → A → List B}

theorem exec_component (commutes : ∀ s a, f (next s a) = exec next' (f s) (g s a)) (s : S) (run : List A) :
    f (exec next s run) = exec next' (f s) (labels next g s run) := by
  induction run generalizing s with
  | nil => rfl
  | cons a run ih => rw [exec, ih, labels, exec_append, commutes]

end Components

section Simulation
variable {next' : T → B → T} {ok' : T → B → Prop} {g : A → B}

theorem exec_simulates {R : S → T → Prop} (step : ∀ s t a, R s t → R (next s a) (next' t (g a)))
    {s : S} {t : T} (start : R s t) (run : List A) : R (exec next s run) (exec next' t (run.map g)) := by
  induction run generalizing s t with
  | nil => exact start
  | cons a run ih => exact ih (step s t a start)

theorem Along.simulates {R : S → T → Prop} (step : ∀ s t a, R s t → R (next s a) (next' t (g a)))
    (transfers : ∀ s t a, R s t → ok s a → ok' t (g a)) {s : S} {t : T} {run : List A} (start : R s t)
    (holds : Along next ok s run) : Along next' ok' t (run.map g) := by
  induction run generalizing s t with
  | nil => trivial
  | cons a run ih => exact ⟨transfers s t a start holds.1, ih (step s t a start) holds.2⟩

end Simulation

end EcatMaster.Library
