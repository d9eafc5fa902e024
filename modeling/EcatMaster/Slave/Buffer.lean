import EcatMaster.Library.Window

/-! The byte vectors of a slave device.

`std::vector<uint8_t>` is its allocated storage and the number of live elements.
The program copies through `data()`, so it uses the storage also where the
number of live elements is smaller.
-/

set_option autoImplicit false

namespace EcatMaster.Slave
open Library

/-- The statement that stored a byte of `master_to_slave_buf_`. -/
inductive Origin where
  | allocation
  | zeroFill
  | initValue
  | command
  | argument
  deriving DecidableEq, Repr

/-- A cell holds a byte; a labelling cell also remembers its origin, which no function
of the model reads. -/
class Cell (β : Type) where
  byte : β → UInt8
  store : Origin → UInt8 → β
  byte_store : ∀ origin value, byte (store origin value) = value

instance : Cell UInt8 := ⟨id, fun _ value => value, fun _ _ => rfl⟩

structure Tagged where
  value : UInt8
  origin : Origin
  deriving DecidableEq, Repr

instance : Cell Tagged := ⟨Tagged.value, fun origin value => ⟨value, origin⟩, fun _ _ => rfl⟩

structure ByteVec (β : Type) where
  storage : List β
  size : Nat
  size_le : size ≤ storage.length
  deriving DecidableEq

namespace ByteVec
variable {β : Type}

def empty : ByteVec β := ⟨[], 0, Nat.le_refl 0⟩

def clear (v : ByteVec β) : ByteVec β := { v with size := 0, size_le := Nat.zero_le _ }

/-- New elements are value-initialised; storage that is too small is replaced. -/
def resize (v : ByteVec β) (n : Nat) (fill : β) : ByteVec β :=
  if fits : n ≤ v.storage.length then
    -- Only elements past the old size are filled; the storage after `n` keeps its bytes.
    ⟨overwrite v.storage v.size (List.replicate (n - v.size) fill), n, by simpa using fits⟩
  else
    -- A reallocation copies the live elements only.
    ⟨v.storage.take v.size ++ List.replicate (n - v.size) fill, n, by
      have bound := v.size_le
      simp only [List.length_append, List.length_take, List.length_replicate]
      omega⟩

/-- `memcpy` or a sequence of stores through `data()`. -/
def copyIn (v : ByteVec β) (off : Nat) (cells : List β) : ByteVec β :=
  { v with storage := overwrite v.storage off cells, size_le := by simpa using v.size_le }

@[simp] theorem storage_clear (v : ByteVec β) : v.clear.storage = v.storage := rfl

@[simp] theorem size_clear (v : ByteVec β) : v.clear.size = 0 := rfl

@[simp] theorem size_resize (v : ByteVec β) (n : Nat) (fill : β) : (v.resize n fill).size = n := by
  unfold resize
  split <;> rfl

@[simp] theorem storage_copyIn (v : ByteVec β) (off : Nat) (cells : List β) :
    (v.copyIn off cells).storage = overwrite v.storage off cells := rfl

@[simp] theorem size_copyIn (v : ByteVec β) (off : Nat) (cells : List β) :
    (v.copyIn off cells).size = v.size := rfl

def copyAll (v : ByteVec β) (writes : List (Nat × List β)) : ByteVec β :=
  { v with storage := overwriteAll v.storage writes, size_le := by simpa using v.size_le }

@[simp] theorem storage_copyAll (v : ByteVec β) (writes : List (Nat × List β)) :
    (v.copyAll writes).storage = overwriteAll v.storage writes := rfl

@[simp] theorem size_copyAll (v : ByteVec β) (writes : List (Nat × List β)) :
    (v.copyAll writes).size = v.size := rfl

theorem copyAll_cons (v : ByteVec β) (write : Nat × List β) (writes : List (Nat × List β)) :
    v.copyAll (write :: writes) = (v.copyIn write.1 write.2).copyAll writes := rfl

theorem copyAll_append (v : ByteVec β) (first later : List (Nat × List β)) :
    v.copyAll (first ++ later) = (v.copyAll first).copyAll later := by
  unfold copyAll
  congr 1
  exact overwriteAll_append v.storage first later

theorem le_storage_resize (v : ByteVec β) (n : Nat) (fill : β) : n ≤ (v.resize n fill).storage.length := by
  have bound := (v.resize n fill).size_le
  simpa using bound

theorem length_le_resize (v : ByteVec β) (n : Nat) (fill : β) :
    v.storage.length ≤ (v.resize n fill).storage.length := by
  have bound := v.size_le
  unfold resize
  split
  case isTrue fits => simp
  case isFalse larger =>
    simp only [List.length_append, List.length_take, List.length_replicate]
    omega

theorem storage_resize_clear (v : ByteVec β) (n : Nat) (fill : β) :
    (v.clear.resize n fill).storage =
      if n ≤ v.storage.length then overwrite v.storage 0 (List.replicate n fill) else List.replicate n fill := by
  unfold resize
  by_cases fits : n ≤ v.storage.length
  · simp [fits]
  · simp [fits]

theorem length_resize_empty (n : Nat) (fill : β) : ((empty : ByteVec β).resize n fill).storage.length = n := by
  cases n with
  | zero => rfl
  | succ n => simp [resize, empty]

end ByteVec

end EcatMaster.Slave
