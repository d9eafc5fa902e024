import EcatMaster.Tasks.Blocks
import Mathlib.Algebra.GroupWithZero.Nat

/-! Serialising lists of typed values.

The writers and the readers of `utils/io_utils.cpp` are written apart from each
other. Over a list of values of mixed types each of them moves an offset, and
one law connects the two: what was written one after the other is read back in
the same order. `build_buf` is the writer side over a list of configuration
fields; it works in a buffer that all its calls share.
-/

set_option autoImplicit false

namespace EcatMaster.Tasks
open Io Library Config

/-- The types for which there is a writer and a reader. -/
inductive Kind where
  | uint8
  | uint16
  | int16
  | uint32
  | int32
  | float
  deriving DecidableEq, Repr

inductive Value where
  | uint8 (value : UInt8)
  | uint16 (value : UInt16)
  | int16 (value : Int16)
  | uint32 (value : UInt32)
  | int32 (value : Int32)
  | float (pattern : UInt32)
  deriving DecidableEq, Repr

def Kind.width : Kind → Nat
  | .uint8 => 1
  | .uint16 => 2
  | .int16 => 2
  | .uint32 => 4
  | .int32 => 4
  | .float => 4

def Kind.read : Kind → Reader Value
  | .uint8 => do return .uint8 (← readUint8)
  | .uint16 => do return .uint16 (← readUint16)
  | .int16 => do return .int16 (← readInt16)
  | .uint32 => do return .uint32 (← readUint32)
  | .int32 => do return .int32 (← readInt32)
  | .float => do return .float (← readFloat)

def Value.kind : Value → Kind
  | .uint8 _ => .uint8
  | .uint16 _ => .uint16
  | .int16 _ => .int16
  | .uint32 _ => .uint32
  | .int32 _ => .int32
  | .float _ => .float

def Value.write : Value → Cursor UInt8 → Cursor UInt8
  | .uint8 value => writeUint8 value
  | .uint16 value => writeUint16 value
  | .int16 value => writeInt16 value
  | .uint32 value => writeUint32 value
  | .int32 value => writeInt32 value
  | .float pattern => writeFloat pattern

def writeValues (values : List Value) (c : Cursor UInt8) : Cursor UInt8 :=
  values.foldl (fun c value => value.write c) c

def readValues : List Kind → Reader (List Value)
  | [] => return []
  | kind :: kinds => do
    let value ← kind.read
    let values ← readValues kinds
    return value :: values

def width (values : List Value) : Nat := (values.map fun value => value.kind.width).sum

def Value.bytes : Value → List UInt8
  | .uint8 value => [value]
  | .uint16 value => uint16Bytes value
  | .int16 value => uint16Bytes value.toUInt16
  | .uint32 value => uint32Bytes value
  | .int32 value => uint32Bytes value.toUInt32
  | .float pattern => uint32Bytes pattern

theorem Value.length_bytes (value : Value) : value.bytes.length = value.kind.width := by
  cases value <;> rfl

theorem Value.write_writes (value : Value) : Writes value.write value.bytes := by
  cases value with
  | uint8 value => exact writeUint8_writes value
  | uint16 value => exact writeUint16_writes value
  | int16 value => exact writeInt16_writes value
  | uint32 value => exact writeUint32_writes value
  | int32 value => exact writeInt32_writes value
  | float pattern => exact writeFloat_writes pattern

theorem Value.read_reads (value : Value) : Reads value.kind.read value.bytes value := by
  cases value with
  | uint8 value => exact (readUint8_reads value).map Value.uint8
  | uint16 value => exact (readUint16_reads value).map Value.uint16
  | int16 value => exact (readInt16_reads value).map Value.int16
  | uint32 value => exact (readUint32_reads value).map Value.uint32
  | int32 value => exact (readInt32_reads value).map Value.int32
  | float pattern => exact (readFloat_reads pattern).map Value.float

theorem length_encoding (values : List Value) : (values.flatMap Value.bytes).length = width values := by
  induction values with
  | nil => rfl
  | cons value values ih =>
    rw [List.flatMap_cons, List.length_append, ih, value.length_bytes, width, width, List.map_cons, List.sum_cons]

theorem writeValues_writes (values : List Value) : Writes (writeValues values) (values.flatMap Value.bytes) := by
  induction values with
  | nil => exact Writes.nil
  | cons value values ih => exact value.write_writes.andThen ih

theorem readValues_reads (values : List Value) :
    Reads (readValues (values.map Value.kind)) (values.flatMap Value.bytes) values := by
  induction values with
  | nil => exact Reads.pure []
  | cons value values ih =>
    rw [List.flatMap_cons]
    exact value.read_reads.bind (ih.map (value :: ·))

/-- `temp_buf_` and `offset_`, which every call of `build_buf` uses. -/
structure Scratch where
  tempBuf : List UInt8
  offset : Nat
  size_eq : tempBuf.length = 1024

def writeFields (data : ConfigurationParser) (start : String) :
    List String → Cursor UInt8 → Except Exception Unit × Cursor UInt8
  | [], c => (.ok (), c)
  | name :: names, c =>
    match data.get (start ++ name) with
    | .error e => (.error e, c)
    | .ok value => writeFields data start names (writeVariant value c)

theorem length_writeFields (data : ConfigurationParser) (start : String) (names : List String) (c : Cursor UInt8) :
    (writeFields data start names c).2.buf.length = c.buf.length := by
  induction names generalizing c with
  | nil => rfl
  | cons name names ih =>
    unfold writeFields
    cases data.get (start ++ name) with
    | error e => rfl
    | ok value =>
      change (writeFields data start names (writeVariant value c)).2.buf.length = _
      rw [ih, writeVariant_writes value c]
      exact length_overwrite _ _ _

/-- `build_buf` with the members it works in. -/
def Scratch.buildBuf (data : ConfigurationParser) (start : String) (names : List String) (scratch : Scratch) :
    Except Exception BuildBufResult × Scratch :=
  let cleared : Cursor UInt8 := ⟨id, overwrite scratch.tempBuf 0 (List.replicate 1024 0), 0⟩
  let filled := writeFields data start names cleared
  (filled.1.map fun _ => ⟨filled.2.buf, filled.2.offset⟩,
    { tempBuf := filled.2.buf
      offset := filled.2.offset
      size_eq := by rw [length_writeFields, length_overwrite, scratch.size_eq] })

theorem cleared_eq (scratch : Scratch) :
    overwrite scratch.tempBuf 0 (List.replicate 1024 0) = List.replicate 1024 0 := by
  rw [overwrite_all _ _ (by rw [List.length_replicate, scratch.size_eq]), scratch.size_eq, List.take_replicate,
    Nat.min_self]

theorem writeFields_eq (data : ConfigurationParser) (start : String) (names : List String) (c : Cursor UInt8) :
    ((writeFields data start names c).1.map fun _ => (writeFields data start names c).2) =
      names.foldlM (fun c name => do return writeVariant (← data.get (start ++ name)) c) c := by
  induction names generalizing c with
  | nil => rfl
  | cons name names ih =>
    rw [List.foldlM_cons, writeFields]
    cases data.get (start ++ name) with
    | error e => rfl
    | ok value => exact ih (writeVariant value c)

theorem Scratch.buildBuf_eq (data : ConfigurationParser) (start : String) (names : List String)
    (scratch : Scratch) : (scratch.buildBuf data start names).1 = data.buildBuf start names := by
  unfold ConfigurationParser.buildBuf Scratch.buildBuf
  simp only [cleared_eq, ← writeFields_eq]
  generalize writeFields data start names _ = filled
  obtain ⟨outcome, c⟩ := filled
  cases outcome with
  | error e => rfl
  | ok done => rfl

/-- `sizeof` of a numeric field; the visitor has no branch for the other two types. -/
def variantWidth : Variant → Nat
  | .uint8 _ => 1
  | .int8 _ => 1
  | .uint16 _ => 2
  | .int16 _ => 2
  | .uint32 _ => 4
  | .int32 _ => 4
  | .float _ => 4
  | .string _ => 0
  | .bool _ => 0

theorem length_variantBytes (value : Variant) : (variantBytes value).length = variantWidth value := by
  cases value <;> rfl

theorem length_variants (values : List Variant) :
    (values.flatMap variantBytes).length = (values.map variantWidth).sum := by
  rw [List.length_flatMap]
  exact congrArg List.sum (List.map_congr_left fun value _ => length_variantBytes value)

theorem foldlM_found {data : ConfigurationParser} {start : String} {names : List String} {values : List Variant}
    (found : names.map (source data start) = values.map some) (c : Cursor UInt8) :
    names.foldlM (fun c name => do return writeVariant (← data.get (start ++ name)) c) c =
      .ok (c.putAll (values.flatMap variantBytes)) := by
  induction names generalizing c values with
  | nil =>
    cases values with
    | nil => rfl
    | cons value values => cases found
  | cons name names ih =>
    cases values with
    | nil => cases found
    | cons value values =>
      obtain ⟨here, others⟩ := List.cons.inj found
      have got : data.get (start ++ name) = .ok value := by
        unfold ConfigurationParser.get
        rw [show data.fields.lookup (start ++ name) = some value from here]
      rw [List.foldlM_cons, got]
      change names.foldlM _ (writeVariant value c) = _
      rw [ih others, writeVariant_writes value c, List.flatMap_cons, Cursor.putAll_append]

theorem buildBuf_found {data : ConfigurationParser} {start : String} {names : List String} {values : List Variant}
    (found : names.map (source data start) = values.map some) (room : (values.map variantWidth).sum ≤ 1024) :
    ∃ result, data.buildBuf start names = .ok result ∧ result.len = (values.map variantWidth).sum ∧
      result.buf.take result.len = values.flatMap variantBytes := by
  have count := length_variants values
  have filled := foldlM_found found (⟨id, List.replicate 1024 0, 0⟩ : Cursor UInt8)
  refine ⟨⟨overwrite (List.replicate 1024 0) 0 (values.flatMap variantBytes), (values.map variantWidth).sum⟩,
    ?_, rfl, ?_⟩
  · unfold ConfigurationParser.buildBuf
    rw [filled]
    change Except.ok (⟨overwrite (List.replicate 1024 0) 0 ((values.flatMap variantBytes).map id),
      0 + (values.flatMap variantBytes).length⟩ : BuildBufResult) = _
    rw [List.map_id, Nat.zero_add, count]
  · change (overwrite (List.replicate 1024 0) 0 _).take _ = _
    rw [overwrite_front _ _ (by rw [List.length_replicate, count]; exact room), ← count, List.take_left]

theorem readValues_writeValues (values : List Value) (buf : List UInt8) (start : Nat)
    (room : start + width values ≤ buf.length) :
    readValues (values.map Value.kind) (writeValues values ⟨id, buf, start⟩).buf start =
      (values, start + width values) := by
  have count := length_encoding values
  have stored : (writeValues values ⟨id, buf, start⟩).buf = overwrite buf start (values.flatMap Value.bytes) := by
    rw [writeValues_writes values, Cursor.putAll, List.map_id]
  have holds := window_overwrite_same buf (values.flatMap Value.bytes) start (Or.inr (by rw [count]; exact room))
  rw [stored, readValues_reads values _ _ holds, count]

/-- Written and read with the same types from the same start. `build_buf` is the writer over the
fields of a configuration; a field that is not numeric would store nothing. -/
theorem serialisation_round_trip :
    (∀ (values : List Value) (buf : List UInt8) (start : Nat), start + width values ≤ buf.length →
      let written := writeValues values ⟨id, buf, start⟩
      readValues (values.map Value.kind) written.buf start = (values, start + width values) ∧
      written.offset = start + width values ∧
      written.buf.length = buf.length ∧
      ∀ i, i < start ∨ start + width values ≤ i → written.buf[i]? = buf[i]?) ∧
    (∀ (data : ConfigurationParser) (start : String) (names : List String) (values : List Variant),
      names.map (source data start) = values.map some → (values.map variantWidth).sum ≤ 1024 →
      ∃ result : BuildBufResult, (∀ scratch : Scratch, (scratch.buildBuf data start names).1 = .ok result) ∧
        result.len = (values.map variantWidth).sum ∧
        result.buf.take result.len = values.flatMap variantBytes) := by
  constructor
  · intro values buf start room
    have count := length_encoding values
    have written : writeValues values ⟨id, buf, start⟩ =
        Cursor.putAll (values.flatMap Value.bytes) ⟨id, buf, start⟩ := writeValues_writes values _
    refine ⟨readValues_writeValues values buf start room, ?_, ?_, ?_⟩
    · rw [written, ← count]
      rfl
    · rw [written]
      exact length_overwrite _ _ _
    · intro i outside
      rw [written]
      apply getElem?_overwrite_outside
      rw [List.map_id, count]
      exact outside
  · intro data start names values found room
    obtain ⟨result, returned, len, block⟩ := buildBuf_found found room
    exact ⟨result, fun scratch => (scratch.buildBuf_eq data start names).trans returned, len, block⟩

def mixedValues : List Value := [.uint8 0x11, .int16 (-2), .uint32 0xDEADBEEF, .float 0x3F800000]

def mixedData : ConfigurationParser where
  fields := [("a", .int8 (-1)), ("b", .uint16 0x1234), ("c", .float 0x3F800000)]

/-- Eleven bytes from the third byte of a buffer on, and three fields of a configuration. -/
theorem mixed_round_trip :
    readValues (mixedValues.map Value.kind) (writeValues mixedValues ⟨id, List.replicate 16 0xEE, 2⟩).buf 2 =
      (mixedValues, 13) ∧
    ∃ result : BuildBufResult,
      (∀ scratch : Scratch, (scratch.buildBuf mixedData "" ["b", "a", "c"]).1 = .ok result) ∧ result.len = 7 ∧
        result.buf.take result.len = [0x34, 0x12, 0xFF, 0x00, 0x00, 0x80, 0x3F] :=
  ⟨(serialisation_round_trip.1 mixedValues (List.replicate 16 0xEE) 2 (by decide)).1,
    serialisation_round_trip.2 mixedData "" ["b", "a", "c"] [.uint16 0x1234, .int8 (-1), .float 0x3F800000] rfl
      (by decide)⟩

end EcatMaster.Tasks
