import EcatMaster.Tasks.Blocks

/-! What a receiver of the argument stream can tell.

Where the tag of every field is fixed, the block of each task type ends where its
layout says. The only thing a receiver has to be promised besides is that the control
types of DJI motors are among the known ones: the block of another one is empty.
-/

set_option autoImplicit false

namespace EcatMaster.Tasks
open Library Config

def Follows (tag : String → NumericTag) (name : String) (value : Variant) : Prop := HasTag (tag name) value

def Usable (_ : String) (value : Variant) : Prop := handledControl value = true

theorem follows_separates (tag : String → NumericTag) : Layout.Separates variantBytes (Follows tag) := by
  intro name value value' rest rest' follows follows' same
  exact variantBytes_separates follows follows' same

/-- The block of a task type is that of the LK, DJI or DD motors, or a list of fields. -/
theorem blockLayout_rec {P : Layout String Variant → Prop} {taskType : UInt8} (lk : P LkMotor.block)
    (listed : ∀ names, P (plain names)) (dji : taskType = DJICAN_APP_ID → P DjiMotor.block)
    (dd : P DdMotor.block) : P (blockLayout taskType) := by
  unfold blockLayout
  split
  · exact lk
  split
  · exact listed _
  split
  · exact listed _
  split
  case isTrue here => exact dji here
  split
  · exact listed _
  split
  · exact listed _
  split
  · exact listed _
  split
  · exact listed _
  split
  · exact listed _
  split
  · exact dd
  · exact listed []

section Delimited
variable {allowed : String → Variant → Prop}

theorem plain_delimited (names : List String) : Layout.SelfDelimiting allowed Usable (plain names) := .fields .done names

theorem motorBlock_delimited {control : Nat → Layout String Variant}
    (each : ∀ i, Layout.SelfDelimiting allowed Usable (control i)) (i : Nat) (canId : Variant) :
    Layout.SelfDelimiting allowed Usable (motorBlock control i canId) := by
  unfold motorBlock
  split
  · exact each i
  · exact .done

theorem motorsBlock_delimited {control : Nat → Layout String Variant}
    (each : ∀ i, Layout.SelfDelimiting allowed Usable (control i)) (first : List String) :
    Layout.SelfDelimiting allowed Usable (motorsBlock first control) := by
  apply Layout.SelfDelimiting.fields
  refine .field fun canId1 _ => .field fun canId2 _ => .field fun canId3 _ => .field fun canId4 _ => .field fun _ _ => ?_
  have block := motorBlock_delimited each
  exact (block 1 canId1).andThen ((block 2 canId2).andThen ((block 3 canId3).andThen (block 4 canId4)))

theorem DjiMotor.control_delimited (i : Nat) : Layout.SelfDelimiting allowed Usable (DjiMotor.control i) := by
  refine .peek (DjiMotor.afterControl i) ?_ fun controlType _ => plain_delimited _
  intro controlType usable
  exact if_pos usable

theorem LkMotor.block_delimited : Layout.SelfDelimiting allowed Usable LkMotor.block :=
  .field fun _ _ => .field fun _ _ => .field fun _ _ => plain_delimited _

theorem blockLayout_delimited (taskType : UInt8) : Layout.SelfDelimiting allowed Usable (blockLayout taskType) := by
  apply blockLayout_rec
  case lk => exact LkMotor.block_delimited
  case listed => exact plain_delimited
  case dji => exact fun _ => motorsBlock_delimited DjiMotor.control_delimited _
  case dd => exact motorsBlock_delimited (fun i => plain_delimited _) _

end Delimited

section Meets
variable {allowed : String → Variant → Prop} {get : String → Option Variant}

theorem plain_meets (all : ∀ name value, get name = some value → allowed name value) (names : List String) :
    (plain names).Meets allowed Usable get := by
  apply Layout.Meets.fields all
  trivial

/-- The control types of the enabled motors are known ones. -/
def KnownControls (get : String → Option Variant) : Prop :=
  ∀ i ∈ [1, 2, 3, 4], ∀ canId controlType, get (motorName i "can_id") = some canId → isEnabled canId = true →
    get (motorName i "control_type") = some controlType → handledControl controlType = true

theorem motorBlock_meets {control : Nat → Layout String Variant} {i : Nat} {canId : Variant}
    (control_meets : isEnabled canId = true → (control i).Meets allowed Usable get) :
    (motorBlock control i canId).Meets allowed Usable get := by
  unfold motorBlock
  split
  case isTrue enabled => exact control_meets enabled
  case isFalse => trivial

theorem motorsBlock_meets (all : ∀ name value, get name = some value → allowed name value)
    {control : Nat → Layout String Variant}
    (each : ∀ i ∈ [1, 2, 3, 4], ∀ canId, get (motorName i "can_id") = some canId → isEnabled canId = true →
      (control i).Meets allowed Usable get) (first : List String) :
    (motorsBlock first control).Meets allowed Usable get := by
  apply Layout.Meets.fields all
  intro canId1 found1
  refine ⟨all _ _ found1, fun canId2 found2 => ⟨all _ _ found2, fun canId3 found3 => ⟨all _ _ found3,
    fun canId4 found4 => ⟨all _ _ found4, fun canInst found => ⟨all _ _ found, ?_⟩⟩⟩⟩⟩
  have block1 := motorBlock_meets (each 1 (by decide) canId1 found1)
  have block2 := motorBlock_meets (each 2 (by decide) canId2 found2)
  have block3 := motorBlock_meets (each 3 (by decide) canId3 found3)
  have block4 := motorBlock_meets (each 4 (by decide) canId4 found4)
  exact block1.andThen (block2.andThen (block3.andThen block4))

theorem DjiMotor.control_meets (all : ∀ name value, get name = some value → allowed name value) {i : Nat}
    (known : ∀ controlType, get (motorName i "control_type") = some controlType → handledControl controlType = true) :
    (DjiMotor.control i).Meets allowed Usable get := by
  intro controlType found
  have handled := known controlType found
  refine ⟨handled, ?_⟩
  dsimp only
  rw [if_pos handled]
  exact fun value found => ⟨all _ value found, plain_meets all _⟩

theorem blockLayout_meets {taskType : UInt8} (all : ∀ name value, get name = some value → allowed name value)
    (known : taskType = DJICAN_APP_ID → KnownControls get) : (blockLayout taskType).Meets allowed Usable get := by
  apply blockLayout_rec
  case lk =>
    exact fun action found => ⟨all _ action found, fun period found => ⟨all _ period found,
      fun controlType found => ⟨all _ controlType found, plain_meets all _⟩⟩⟩
  case listed => exact plain_meets all
  case dji =>
    intro here
    apply motorsBlock_meets all
    intro i motor canId found enabled
    exact DjiMotor.control_meets all fun controlType => known here i motor canId controlType found enabled
  case dd => exact motorsBlock_meets all (fun i _ _ _ _ => plain_meets all _) _

end Meets

end EcatMaster.Tasks
