import Mathlib.Data.List.Basic

/-! Layouts of records whose shape depends on their content.

A layout says which field comes next in a stream, given the fields so far. A
field is stored by an encoding from which the value and the rest of the stream
can be told; then the stream of a whole record, or of a list of records, has
one reading only.
-/

set_option autoImplicit false

namespace EcatMaster.Library

variable {K V B T : Type}

inductive Layout (K V : Type) where
  | done
  | field (key : K) (next : V → Layout K V)
  /-- A field that decides what comes next and is not stored here. -/
  | peek (key : K) (next : V → Layout K V)

namespace Layout

/-- The fields that are stored for a source of values, in order. -/
def collect (get : K → Option V) : Layout K V → Option (List (K × V))
  | .done => some []
  | .field key next => do
    let value ← get key
    let rest ← (next value).collect get
    return (key, value) :: rest
  | .peek key next => do
    let value ← get key
    (next value).collect get

def fields (keys : List K) (rest : Layout K V) : Layout K V :=
  keys.foldr (fun key rest => .field key fun _ => rest) rest

theorem collect_field {get : K → Option V} {key : K} {next : V → Layout K V} {entries : List (K × V)} :
    (Layout.field key next).collect get = some entries ↔
      ∃ value rest, get key = some value ∧ (next value).collect get = some rest ∧ entries = (key, value) :: rest := by
  simp only [collect, Option.bind_eq_bind, Option.bind_eq_some_iff, Option.pure_def, Option.some.injEq]
  constructor
  · rintro ⟨value, found, rest, collected, rfl⟩
    exact ⟨value, rest, found, collected, rfl⟩
  · rintro ⟨value, rest, found, collected, rfl⟩
    exact ⟨value, found, rest, collected, rfl⟩

theorem collect_peek {get : K → Option V} {key : K} {next : V → Layout K V} {entries : List (K × V)} :
    (Layout.peek key next).collect get = some entries ↔
      ∃ value, get key = some value ∧ (next value).collect get = some entries := by
  simp only [collect, Option.bind_eq_bind, Option.bind_eq_some_iff]

theorem collect_fields {get : K → Option V} {keys : List K} {values : List V} {rest : Layout K V}
    {later : List (K × V)} (found : keys.map get = values.map some) (collected : rest.collect get = some later) :
    (fields keys rest).collect get = some (keys.zip values ++ later) := by
  induction keys generalizing values with
  | nil =>
    cases values with
    | nil => exact collected
    | cons value values => cases found
  | cons key keys ih =>
    cases values with
    | nil => cases found
    | cons value values =>
      obtain ⟨here, others⟩ := List.cons.inj found
      exact collect_field.mpr ⟨value, _, here, ih others, rfl⟩

theorem collect_fields_done {get : K → Option V} {keys : List K} {values : List V}
    (found : keys.map get = values.map some) : (fields keys .done).collect get = some (keys.zip values) := by
  have nothing : (done : Layout K V).collect get = some [] := rfl
  rw [collect_fields found nothing, List.append_nil]

def andThen : Layout K V → Layout K V → Layout K V
  | .done, rest => rest
  | .field key next, rest => .field key fun value => (next value).andThen rest
  | .peek key next, rest => .peek key fun value => (next value).andThen rest

theorem collect_andThen {get : K → Option V} {layout rest : Layout K V} {first later : List (K × V)}
    (collected : layout.collect get = some first) (collected' : rest.collect get = some later) :
    (layout.andThen rest).collect get = some (first ++ later) := by
  induction layout generalizing first with
  | done =>
    cases collected
    exact collected'
  | field key next ih =>
    obtain ⟨value, entries, found, inside, rfl⟩ := collect_field.mp collected
    exact collect_field.mpr ⟨value, _, found, ih value inside, rfl⟩
  | peek key next ih =>
    obtain ⟨value, found, inside⟩ := collect_peek.mp collected
    exact collect_peek.mpr ⟨value, found, ih value inside⟩

def stored (encode : V → List B) (entries : List (K × V)) : List B := entries.flatMap fun entry => encode entry.2

theorem stored_append (encode : V → List B) (first later : List (K × V)) :
    stored encode (first ++ later) = stored encode first ++ stored encode later := List.flatMap_append

/-- Each field can be told from what follows, under the values that are allowed for it. Where
what is looked at first is usable, it is the next field to be stored. -/
inductive SelfDelimiting (allowed usable : K → V → Prop) : Layout K V → Prop
  | done : SelfDelimiting allowed usable .done
  | field {key : K} {next : V → Layout K V}
      (inner : ∀ value, allowed key value → SelfDelimiting allowed usable (next value)) :
      SelfDelimiting allowed usable (.field key next)
  | peek {key : K} {next : V → Layout K V} (after : V → Layout K V)
      (stores : ∀ value, usable key value → next value = .field key after)
      (inner : ∀ value, allowed key value → SelfDelimiting allowed usable (after value)) :
      SelfDelimiting allowed usable (.peek key next)

theorem SelfDelimiting.fields {allowed usable : K → V → Prop} {rest : Layout K V}
    (inner : SelfDelimiting allowed usable rest) (keys : List K) :
    SelfDelimiting allowed usable (fields keys rest) := by
  induction keys with
  | nil => exact inner
  | cons key keys ih => exact .field fun _ _ => ih

theorem SelfDelimiting.andThen {allowed usable : K → V → Prop} {layout rest : Layout K V}
    (delimited : SelfDelimiting allowed usable layout) (delimited' : SelfDelimiting allowed usable rest) :
    SelfDelimiting allowed usable (layout.andThen rest) := by
  induction delimited with
  | done => exact delimited'
  | field inner ih => exact .field ih
  | peek after stores inner ih =>
    refine .peek (fun value => (after value).andThen rest) ?_ ih
    intro value permitted
    rw [stores value permitted]
    rfl

/-- What the layout stores from this source is allowed, and what it looks at is usable. -/
def Meets (allowed usable : K → V → Prop) (get : K → Option V) : Layout K V → Prop
  | .done => True
  | .field key next => ∀ value, get key = some value → allowed key value ∧ (next value).Meets allowed usable get
  | .peek key next => ∀ value, get key = some value → usable key value ∧ (next value).Meets allowed usable get

section Meets
variable {allowed usable : K → V → Prop} {get : K → Option V} {rest : Layout K V}

theorem Meets.fields (all : ∀ key value, get key = some value → allowed key value)
    (onward : rest.Meets allowed usable get) (keys : List K) : (fields keys rest).Meets allowed usable get := by
  induction keys with
  | nil => exact onward
  | cons key keys ih => exact fun value found => ⟨all key value found, ih⟩

theorem Meets.andThen {layout : Layout K V} (first : layout.Meets allowed usable get)
    (onward : rest.Meets allowed usable get) : (layout.andThen rest).Meets allowed usable get := by
  induction layout with
  | done => exact onward
  | field key next ih =>
    intro value found
    obtain ⟨permitted, inside⟩ := first value found
    exact ⟨permitted, ih value inside⟩
  | peek key next ih =>
    intro value found
    obtain ⟨permitted, inside⟩ := first value found
    exact ⟨permitted, ih value inside⟩

end Meets

/-- The encoding of an allowed value ends where it ends in every stream. -/
def Separates (encode : V → List B) (allowed : K → V → Prop) : Prop :=
  ∀ key value value' rest rest', allowed key value → allowed key value' →
    encode value ++ rest = encode value' ++ rest' → value = value' ∧ rest = rest'

section Unique
variable {encode : V → List B} {allowed usable : K → V → Prop} {get get' : K → Option V}

theorem collect_field_unique (separates : Separates encode allowed) {key : K} {next : V → Layout K V}
    (meets : (field key next).Meets allowed usable get) (meets' : (field key next).Meets allowed usable get')
    (inner : ∀ value, allowed key value →
      (next value).Meets allowed usable get → (next value).Meets allowed usable get' →
      ∀ entries entries' rest rest', (next value).collect get = some entries →
        (next value).collect get' = some entries' → stored encode entries ++ rest = stored encode entries' ++ rest' →
        entries = entries' ∧ rest = rest')
    {entries entries' : List (K × V)} {rest rest' : List B} (collected : (field key next).collect get = some entries)
    (collected' : (field key next).collect get' = some entries')
    (same : stored encode entries ++ rest = stored encode entries' ++ rest') :
    entries = entries' ∧ rest = rest' := by
  obtain ⟨value, later, found, inside, rfl⟩ := collect_field.mp collected
  obtain ⟨value', later', found', inside', rfl⟩ := collect_field.mp collected'
  obtain ⟨permitted, onward⟩ := meets value found
  obtain ⟨permitted', onward'⟩ := meets' value' found'
  simp only [stored, List.flatMap_cons, List.append_assoc] at same
  obtain ⟨rfl, remaining⟩ := separates key value value' _ _ permitted permitted' same
  obtain ⟨rfl, ends⟩ := inner value permitted onward onward' later later' rest rest' inside inside' remaining
  exact ⟨rfl, ends⟩

/-- A stream has one reading as a record of this layout. -/
theorem SelfDelimiting.collect_unique {layout : Layout K V} (delimited : SelfDelimiting allowed usable layout)
    (separates : Separates encode allowed) (meets : layout.Meets allowed usable get)
    (meets' : layout.Meets allowed usable get')
    {entries entries' : List (K × V)} {rest rest' : List B} (collected : layout.collect get = some entries)
    (collected' : layout.collect get' = some entries')
    (same : stored encode entries ++ rest = stored encode entries' ++ rest') :
    entries = entries' ∧ rest = rest' := by
  induction delimited generalizing entries entries' rest rest' with
  | done =>
    cases collected
    cases collected'
    exact ⟨rfl, same⟩
  | field inner ih =>
    exact collect_field_unique separates meets meets'
      (fun value permitted onward onward' _ _ _ _ inside inside' remaining =>
        ih value permitted onward onward' inside inside' remaining)
      collected collected' same
  | peek after stores inner ih =>
    -- What was looked at is stored next, so both sides are records with this field first.
    obtain ⟨value, found, inside⟩ := collect_peek.mp collected
    obtain ⟨value', found', inside'⟩ := collect_peek.mp collected'
    obtain ⟨permitted, onward⟩ := meets value found
    obtain ⟨permitted', onward'⟩ := meets' value' found'
    rw [stores value permitted] at inside onward
    rw [stores value' permitted'] at inside' onward'
    exact collect_field_unique separates onward onward'
      (fun value permitted onward onward' _ _ _ _ within within' remaining =>
        ih value permitted onward onward' within within' remaining)
      inside inside' same

end Unique

/-- The stream of records that begin with a tag. -/
def records (encodeTag : T → List B) (encode : V → List B) (list : List (T × List (K × V))) : List B :=
  list.flatMap fun record => encodeTag record.1 ++ stored encode record.2

def Recorded (layout : T → Layout K V) (allowed : T → K → V → Prop) (usable : K → V → Prop)
    (record : T × List (K × V)) : Prop :=
  ∃ get, (layout record.1).Meets (allowed record.1) usable get ∧ (layout record.1).collect get = some record.2

/-- Where each tag says which self-delimiting layout follows, equal streams of equally many
records are the same records. -/
theorem records_unique {encodeTag : T → List B} {encode : V → List B} {layout : T → Layout K V}
    {allowed : T → K → V → Prop} {usable : K → V → Prop}
    (tags : ∀ tag tag' rest rest', encodeTag tag ++ rest = encodeTag tag' ++ rest' → tag = tag' ∧ rest = rest')
    (separates : ∀ tag, Separates encode (allowed tag))
    (delimited : ∀ tag, SelfDelimiting (allowed tag) usable (layout tag))
    {list list' : List (T × List (K × V))} (count : list.length = list'.length)
    (recorded : ∀ record ∈ list, Recorded layout allowed usable record)
    (recorded' : ∀ record ∈ list', Recorded layout allowed usable record)
    (same : records encodeTag encode list = records encodeTag encode list') : list = list' := by
  induction list generalizing list' with
  | nil => exact (List.eq_nil_of_length_eq_zero count.symm).symm
  | cons record list ih =>
    cases list' with
    | nil => cases count
    | cons record' list' =>
      obtain ⟨tag, entries⟩ := record
      obtain ⟨tag', entries'⟩ := record'
      obtain ⟨get, meets, collected⟩ := recorded _ List.mem_cons_self
      obtain ⟨get', meets', collected'⟩ := recorded' _ List.mem_cons_self
      simp only [records, List.flatMap_cons, List.append_assoc] at same
      obtain ⟨rfl, remaining⟩ := tags _ _ _ _ same
      obtain ⟨rfl, others⟩ := (delimited tag).collect_unique (separates tag) meets meets' collected collected' remaining
      rw [ih (Nat.succ.inj count) (fun record within => recorded record (List.mem_cons_of_mem _ within))
        (fun record within => recorded' record (List.mem_cons_of_mem _ within)) others]

end Layout

end EcatMaster.Library
