import Mathlib.Logic.Function.Basic

/-! Parties that share objects.

Each party fills one of several objects and puts out its content; parties of one
class have the same object. What a party puts out depends on its own inputs only
if its calls overwrite the object or if nobody else has it.
-/

set_option autoImplicit false

namespace EcatMaster.Library

structure Filler (C : Type) (Content : C → Type) (I : Type) where
  object : C
  fill : I → Content object → Content object

variable {P C I : Type} [DecidableEq P] [DecidableEq C] {Content : C → Type}

def own (a : P) (run : List (P × I)) : List I := (run.filter fun call => call.1 = a).map Prod.snd

theorem own_cons_self (a : P) (input : I) (run : List (P × I)) : own a ((a, input) :: run) = input :: own a run := by
  simp [own]

theorem own_cons_other {a b : P} (other : b ≠ a) (input : I) (run : List (P × I)) :
    own a ((b, input) :: run) = own a run := by
  simp [own, other]

theorem own_append (a : P) (first rest : List (P × I)) : own a (first ++ rest) = own a first ++ own a rest := by
  simp [own]

theorem own_map (a : P) (inputs : List I) : own a (inputs.map fun input => (a, input)) = inputs := by
  induction inputs with
  | nil => rfl
  | cons input inputs ih => rw [List.map_cons, own_cons_self, ih]

section Runs
variable (party : P → Option (Filler C Content I))

def fillStep (shared : (c : C) → Content c) (call : P × I) : (c : C) → Content c :=
  match party call.1 with
  | none => shared
  | some filler => Function.update shared filler.object (filler.fill call.2 (shared filler.object))

/-- What a call puts out: the object of its party, as it is afterwards. -/
def output (shared : (c : C) → Content c) (call : P × I) : Option ((c : C) × Content c) :=
  (party call.1).map fun filler => ⟨filler.object, filler.fill call.2 (shared filler.object)⟩

def outputs (a : P) : ((c : C) → Content c) → List (P × I) → List ((c : C) × Content c)
  | _, [] => []
  | shared, call :: run =>
    (if call.1 = a then (output party shared call).toList else []) ++ outputs a (fillStep party shared call) run

end Runs

/-- What a party puts out that has its object for itself. -/
def replay (filler : Filler C Content I) :
    Content filler.object → List I → List ((c : C) × Content c)
  | _, [] => []
  | content, input :: inputs =>
    ⟨filler.object, filler.fill input content⟩ :: replay filler (filler.fill input content) inputs

omit [DecidableEq C] in
theorem replay_map {J : Type} {object : C} {fill : I → Content object → Content object}
    {fill' : J → Content object → Content object} {view : I → J}
    (sees : ∀ input content, fill input content = fill' (view input) content) (content : Content object)
    (inputs : List I) :
    replay ⟨object, fill⟩ content inputs = replay ⟨object, fill'⟩ content (inputs.map view) := by
  induction inputs generalizing content with
  | nil => rfl
  | cons input inputs ih => simp only [List.map_cons, replay, sees, ih]

variable {party : P → Option (Filler C Content I)} {a : P} {filler : Filler C Content I}

theorem outputs_append (shared : (c : C) → Content c) (first rest : List (P × I)) :
    outputs party a shared (first ++ rest) =
      outputs party a shared first ++ outputs party a (first.foldl (fillStep party) shared) rest := by
  induction first generalizing shared with
  | nil => rfl
  | cons call first ih => rw [List.cons_append, outputs, ih, outputs, List.foldl_cons, List.append_assoc]

theorem outputs_cons_self (known : party a = some filler) (shared : (c : C) → Content c) (input : I)
    (run : List (P × I)) :
    outputs party a shared ((a, input) :: run) =
      ⟨filler.object, filler.fill input (shared filler.object)⟩ ::
        outputs party a (fillStep party shared (a, input)) run := by
  simp [outputs, output, known]

theorem outputs_cons_other {b : P} (other : b ≠ a) (shared : (c : C) → Content c) (input : I) (run : List (P × I)) :
    outputs party a shared ((b, input) :: run) = outputs party a (fillStep party shared (b, input)) run := by
  simp [outputs, other]

omit [DecidableEq P] in
theorem fillStep_self (known : party a = some filler) (shared : (c : C) → Content c) (input : I) :
    fillStep party shared (a, input) filler.object = filler.fill input (shared filler.object) := by
  simp [fillStep, known]

/-- Where every call of the party overwrites the object, its outputs are those of its inputs. -/
theorem outputs_of_overwrites (known : party a = some filler) (content : Content filler.object)
    (shared : (c : C) → Content c) (run : List (P × I))
    (overwrites : ∀ input ∈ own a run, ∀ before before', filler.fill input before = filler.fill input before') :
    outputs party a shared run =
      (own a run).map fun input => ⟨filler.object, filler.fill input content⟩ := by
  induction run generalizing shared with
  | nil => rfl
  | cons call run ih =>
    obtain ⟨b, input⟩ := call
    by_cases same : b = a
    case pos =>
      subst same
      rw [own_cons_self] at overwrites ⊢
      rw [outputs_cons_self known, List.map_cons, ih _ fun later within =>
        overwrites later (List.mem_cons_of_mem input within)]
      rw [overwrites input List.mem_cons_self (shared filler.object) content]
    case neg =>
      rw [own_cons_other same] at overwrites ⊢
      rw [outputs_cons_other same, ih _ overwrites]

/-- Where no other party has the object, the outputs are those of the party alone. -/
theorem outputs_of_alone (known : party a = some filler)
    (alone : ∀ b, b ≠ a → ∀ other, party b = some other → other.object ≠ filler.object)
    (shared : (c : C) → Content c) (run : List (P × I)) :
    outputs party a shared run = replay filler (shared filler.object) (own a run) := by
  induction run generalizing shared with
  | nil => rfl
  | cons call run ih =>
    obtain ⟨b, input⟩ := call
    by_cases same : b = a
    case pos =>
      subst same
      rw [outputs_cons_self known, own_cons_self, replay, ih, fillStep_self known]
    case neg =>
      -- A call of another party fills another object.
      have kept : fillStep party shared (b, input) filler.object = shared filler.object := by
        unfold fillStep
        cases found : party b with
        | none => simp
        | some other =>
          exact Function.update_of_ne (alone b same other found).symm _ _
      rw [outputs_cons_other same, own_cons_other same, ih, kept]

/-- An output shows the object that another party has just filled, if the call keeps
something of it. -/
theorem outputs_differ (known : party a = some filler) {b : P} (other : b ≠ a)
    {fill : I → Content filler.object → Content filler.object} (shares : party b = some ⟨filler.object, fill⟩)
    {input : I} {left right : I}
    (reveals : ∀ content, filler.fill input (fill left content) ≠ filler.fill input (fill right content))
    (shared : (c : C) → Content c) (first rest : List (P × I)) :
    outputs party a shared (first ++ (b, left) :: (a, input) :: rest) ≠
      outputs party a shared (first ++ (b, right) :: (a, input) :: rest) := by
  intro same
  simp only [outputs_append, List.append_cancel_left_eq, outputs_cons_other other, outputs_cons_self known,
    List.cons.injEq, Sigma.mk.injEq, heq_eq_eq, true_and] at same
  have filled := fun input => fillStep_self shares (first.foldl (fillStep party) shared) input
  rw [filled left, filled right] at same
  exact reveals _ same.1

end EcatMaster.Library
