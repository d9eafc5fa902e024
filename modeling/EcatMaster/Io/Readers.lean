import EcatMaster.Io.LittleEndian

/-! The little-endian readers of `utils/io_utils.cpp`.

A reader looks at the buffer from an offset on and returns its value together
with the advanced offset. It is the inverse of a writer exactly if it returns
the value wherever the bytes of the writer lie.
-/

set_option autoImplicit false

namespace EcatMaster.Io
open Library

/-- `const uint8_t *buf, int *offset`. -/
abbrev Reader (T : Type) := ReaderT (List UInt8) (StateM Nat) T

def byteAt (buf : List UInt8) (i : Nat) : UInt8 := buf[i]?.getD 0

def readUint8 : Reader UInt8 := fun buf offset => (byteAt buf offset, offset + 1)

def readUint16 : Reader UInt16 := fun buf offset =>
  (word (byteAt buf offset) (byteAt buf (offset + 1)), offset + 2)

def readInt16 : Reader Int16 := do return (← readUint16).toInt16

def readUint32 : Reader UInt32 := fun buf offset =>
  (([0, 1, 2, 3] : List Nat).foldl
    (fun res i => res ||| (byteAt buf (offset + i)).toUInt32 <<< UInt32.ofNat (8 * i)) 0, offset + 4)

def readInt32 : Reader Int32 := do return (← readUint32).toInt32

/-- The four bytes are the object representation of the float, so they give its pattern. -/
def readFloat : Reader UInt32 := readUint32

/-- The reader moves over `len` bytes and its value depends on nothing else. -/
def Local {T : Type} (reader : Reader T) (len : Nat) : Prop :=
  ∀ buf buf' off off', window buf off len = window buf' off' len →
    (reader buf off).1 = (reader buf' off').1 ∧ (reader buf off).2 = off + len

theorem byteAt_of_window {buf buf' : List UInt8} {off off' len : Nat}
    (same : window buf off len = window buf' off' len) {i : Nat} (inside : i < len) :
    byteAt buf (off + i) = byteAt buf' (off' + i) := by
  have cell := congrArg (fun bytes => bytes[i]?) same
  simp only [getElem?_window, inside, if_true] at cell
  rw [byteAt, byteAt, cell]

theorem Local.pure {T : Type} (value : T) : Local (Pure.pure value : Reader T) 0 :=
  fun _ _ _ _ _ => ⟨rfl, rfl⟩

theorem Local.bind {S T : Type} {first : Reader S} {rest : S → Reader T} {len more : Nat}
    (left : Local first len) (right : ∀ value, Local (rest value) more) :
    Local (first >>= rest) (len + more) := by
  intro buf buf' off off' same
  obtain ⟨value, moved⟩ := left buf buf' off off' (by
    rw [← window_prefix buf off (Nat.le_add_right len more), same, window_prefix _ _ (Nat.le_add_right len more)])
  have moved' := (left buf' buf' off' off' rfl).2
  have later : window buf (off + len) more = window buf' (off' + len) more := by
    have dropped := congrArg (List.drop len) same
    simpa only [window, List.drop_take, List.drop_drop, Nat.add_sub_cancel_left] using dropped
  obtain ⟨result, finished⟩ := right (first buf off).1 buf buf' (off + len) (off' + len) later
  change (rest (first buf off).1 buf (first buf off).2).1 = (rest (first buf' off').1 buf' (first buf' off').2).1 ∧
    (rest (first buf off).1 buf (first buf off).2).2 = off + (len + more)
  rw [moved, moved', ← value]
  exact ⟨result, by rw [finished, Nat.add_assoc]⟩

theorem readUint8_local : Local readUint8 1 := by
  intro buf buf' off off' same
  exact ⟨byteAt_of_window same Nat.zero_lt_one, rfl⟩

theorem readUint16_local : Local readUint16 2 := by
  intro buf buf' off off' same
  have low : byteAt buf off = byteAt buf' off' := byteAt_of_window same (i := 0) (by omega)
  have high := byteAt_of_window same (i := 1) (by omega)
  refine ⟨?_, rfl⟩
  change word _ _ = word _ _
  rw [low, high]

theorem readUint32_local : Local readUint32 4 := by
  intro buf buf' off off' same
  have cells : ∀ i < 4, byteAt buf (off + i) = byteAt buf' (off' + i) := fun i => byteAt_of_window same
  refine ⟨?_, rfl⟩
  simp only [readUint32, List.foldl_cons, List.foldl_nil, cells 0 (by omega), cells 1 (by omega),
    cells 2 (by omega), cells 3 (by omega)]

theorem readInt16_local : Local readInt16 2 := readUint16_local.bind fun _ => Local.pure _

theorem readInt32_local : Local readInt32 4 := readUint32_local.bind fun _ => Local.pure _

/-- Wherever these bytes lie, the reader returns the value and moves past them. -/
def Reads {T : Type} (reader : Reader T) (bytes : List UInt8) (value : T) : Prop :=
  ∀ buf off, window buf off bytes.length = bytes → reader buf off = (value, off + bytes.length)

theorem byteAt_of_holds {buf bytes : List UInt8} {off : Nat} (holds : window buf off bytes.length = bytes) {i : Nat}
    (inside : i < bytes.length) : byteAt buf (off + i) = bytes[i] := by
  have cell := congrArg (fun content => content[i]?) holds
  simp only [getElem?_window, inside, if_true, List.getElem?_eq_getElem] at cell
  rw [byteAt, cell]
  rfl

theorem Reads.pure {T : Type} (value : T) : Reads (Pure.pure value : Reader T) [] value := fun _ _ _ => rfl

theorem Reads.bind {S T : Type} {first : Reader S} {rest : S → Reader T} {xs ys : List UInt8} {a : S} {b : T}
    (left : Reads first xs a) (right : Reads (rest a) ys b) : Reads (first >>= rest) (xs ++ ys) b := by
  intro buf off holds
  change rest (first buf off).1 buf (first buf off).2 = _
  rw [left buf off (window_append_left holds), right buf _ (window_append_right holds), List.length_append,
    Nat.add_assoc]

theorem Reads.map {S T : Type} {reader : Reader S} {bytes : List UInt8} {value : S} (f : S → T)
    (reads : Reads reader bytes value) : Reads (do return f (← reader)) bytes (f value) := by
  intro buf off holds
  change (f (reader buf off).1, (reader buf off).2) = _
  rw [reads buf off holds]

theorem readUint8_reads (value : UInt8) : Reads readUint8 [value] value := by
  intro buf off holds
  have byte := byteAt_of_holds holds (i := 0) (by simp)
  exact congrArg (fun byte => (byte, off + 1)) byte

theorem readUint16_reads (value : UInt16) : Reads readUint16 (uint16Bytes value) value := by
  intro buf off holds
  have low : byteAt buf off = _ := byteAt_of_holds holds (i := 0) (by simp [uint16Bytes])
  have high := byteAt_of_holds holds (i := 1) (by simp [uint16Bytes])
  have whole : word (byteAt buf off) (byteAt buf (off + 1)) = value := by
    rw [low, high]
    exact (word_eq_iff _ _ value).mpr rfl
  exact congrArg (fun result => (result, off + 2)) whole

theorem readInt16_reads (value : Int16) : Reads readInt16 (uint16Bytes value.toUInt16) value := by
  intro buf off holds
  change ((readUint16 buf off).1.toInt16, (readUint16 buf off).2) = _
  rw [readUint16_reads value.toUInt16 buf off holds, Int16.toInt16_toUInt16]

theorem or_shiftLeft {low k : Nat} (bound : low < 1 <<< k) (high : Nat) : low ||| high <<< k = low + high <<< k := by
  rw [Nat.one_shiftLeft] at bound
  rw [Nat.or_comm, ← Nat.shiftLeft_add_eq_or_of_lt bound, Nat.add_comm]

theorem word32_bytes (value : UInt32) :
    value.toUInt8.toUInt32 ||| (value >>> 8).toUInt8.toUInt32 <<< 8 |||
      (value >>> 16).toUInt8.toUInt32 <<< 16 ||| (value >>> 24).toUInt8.toUInt32 <<< 24 = value := by
  have bound := value.toNat_lt
  have small : ∀ n : Nat, n % 256 < 256 := fun n => Nat.mod_lt n (by decide)
  have place : ∀ byte < 256, ∀ k ≤ 24, byte <<< k % 2 ^ 32 = byte <<< k := by
    intro byte small k low
    rw [Nat.shiftLeft_eq]
    apply Nat.mod_eq_of_lt
    calc byte * 2 ^ k < 2 ^ 8 * 2 ^ k := Nat.mul_lt_mul_of_pos_right small (Nat.two_pow_pos k)
      _ = 2 ^ (8 + k) := (Nat.pow_add 2 8 k).symm
      _ ≤ 2 ^ 32 := Nat.pow_le_pow_right (by decide) (by omega)
  apply UInt32.toNat_inj.mp
  simp only [UInt32.toNat_or, UInt32.toNat_shiftLeft, UInt8.toNat_toUInt32, UInt32.toNat_toUInt8,
    UInt32.toNat_shiftRight]
  change value.toNat % 256 ||| (value.toNat >>> 8 % 256) <<< 8 % 2 ^ 32 |||
    (value.toNat >>> 16 % 256) <<< 16 % 2 ^ 32 ||| (value.toNat >>> 24 % 256) <<< 24 % 2 ^ 32 = value.toNat
  rw [place _ (small _) 8 (by decide), place _ (small _) 16 (by decide), place _ (small _) 24 (by decide)]
  -- The bytes lie in different places, so each `or` is a sum.
  rw [or_shiftLeft (k := 8) (by omega), or_shiftLeft (k := 16) (by omega), or_shiftLeft (k := 24) (by omega)]
  omega

theorem readUint32_reads (value : UInt32) : Reads readUint32 (uint32Bytes value) value := by
  intro buf off holds
  have cells : ∀ i, (inside : i < 4) → byteAt buf (off + i) = (uint32Bytes value)[i] :=
    fun i inside => byteAt_of_holds holds inside
  refine Prod.ext ?_ rfl
  simp only [readUint32, List.foldl_cons, List.foldl_nil, cells 0 (by decide), cells 1 (by decide),
    cells 2 (by decide), cells 3 (by decide)]
  simpa [uint32Bytes] using word32_bytes value

theorem readInt32_reads (value : Int32) : Reads readInt32 (uint32Bytes value.toUInt32) value := by
  intro buf off holds
  change ((readUint32 buf off).1.toInt32, (readUint32 buf off).2) = _
  rw [readUint32_reads value.toUInt32 buf off holds, Int32.toInt32_toUInt32]

theorem readFloat_reads (pattern : UInt32) : Reads readFloat (uint32Bytes pattern) pattern :=
  readUint32_reads pattern

end EcatMaster.Io
