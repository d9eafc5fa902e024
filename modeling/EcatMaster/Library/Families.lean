import EcatMaster.Library.Runs

/-! A system with a list of components.

Each action of the system is at most one action of one component. A component
then runs as it does alone, on the actions that are aimed at it, and what each
action keeps of one component is kept of all of them.
-/

set_option autoImplicit false

namespace EcatMaster.Library

variable {S T A B : Type}

/-- The components after an action that is aimed at one of them, or at none. -/
def aimed (next' : T → B → T) (parts : List T) : Option (Nat × B) → List T
  | none => parts
  | some (i, b) => parts.modify i (next' · b)

/-- What the component at this place is made to do. -/
def ownAction (i : Nat) : Option (Nat × B) → List B
  | none => []
  | some (j, b) => if j = i then [b] else []

theorem length_aimed (next' : T → B → T) (parts : List T) (target : Option (Nat × B)) :
    (aimed next' parts target).length = parts.length := by
  cases target with
  | none => rfl
  | some aim => exact List.length_modify ..

theorem getElem?_aimed (next' : T → B → T) (parts : List T) (target : Option (Nat × B)) (i : Nat) :
    (aimed next' parts target)[i]? = parts[i]?.map fun t => exec next' t (ownAction i target) := by
  cases target with
  | none => exact (Option.map_id' ..).symm
  | some aim =>
    obtain ⟨j, b⟩ := aim
    by_cases here : j = i
    · subst here
      rw [aimed, ownAction, if_pos rfl, List.getElem?_modify_eq]
      rfl
    · rw [aimed, ownAction, if_neg here, List.getElem?_modify_ne _ _ here]
      exact (Option.map_id' ..).symm

theorem map_aimed {C : Type} {next' : T → B → T} {f : T → C} {target : Option (Nat × B)}
    (kept : ∀ i b, target = some (i, b) → ∀ t, f (next' t b) = f t) (parts : List T) (i : Nat) :
    (aimed next' parts target)[i]?.map f = parts[i]?.map f := by
  rw [getElem?_aimed, Option.map_map]
  congr 1
  funext t
  cases target with
  | none => rfl
  | some aim =>
    obtain ⟨j, b⟩ := aim
    change f (exec next' t (ownAction i (some (j, b)))) = f t
    rw [ownAction]
    split
    · exact kept j b rfl t
    · rfl

section System
variable {next : S → A → S} {next' : T → B → T} {parts : S → List T} {target : S → A → Option (Nat × B)}

def ownActions (next : S → A → S) (target : S → A → Option (Nat × B)) (i : Nat) (s : S) (run : List A) : List B :=
  labels next (fun s a => ownAction i (target s a)) s run

variable (family : ∀ s a, parts (next s a) = aimed next' (parts s) (target s a))
include family

theorem family_length (s : S) (run : List A) : (parts (exec next s run)).length = (parts s).length := by
  induction run generalizing s with
  | nil => rfl
  | cons a run ih => rw [exec, ih, family, length_aimed]

/-- Every component runs as it does alone. -/
theorem family_exec (s : S) (run : List A) (i : Nat) :
    (parts (exec next s run))[i]? = (parts s)[i]?.map fun t => exec next' t (ownActions next target i s run) := by
  induction run generalizing s with
  | nil => exact (Option.map_id' ..).symm
  | cons a run ih =>
    rw [exec, ih, family, getElem?_aimed, Option.map_map]
    congr 1
    funext t
    exact (exec_append next' t _ _).symm

theorem family_invariant {I : T → Prop} (keep : ∀ t b, I t → I (next' t b)) {s : S} (start : ∀ t ∈ parts s, I t)
    (run : List A) : ∀ t ∈ parts (exec next s run), I t := by
  intro t member
  obtain ⟨i, found⟩ := List.mem_iff_getElem?.mp member
  rw [family_exec family] at found
  obtain ⟨before, here, rfl⟩ := Option.map_eq_some_iff.mp found
  exact exec_invariant (start before (List.mem_of_getElem? here)) keep

end System

end EcatMaster.Library
