import EcatMaster.Library.BitFields
import EcatMaster.Tasks.Publishers
import Mathlib.Data.Int.CharZero
import Mathlib.Tactic.NormNum

/-! The bit fields of the remote controls.

The channels and switches of a frame are consecutive fields of its first bytes, taken
as one little-endian stream of bits. The decoders cut them out of two or three bytes
each; here every such expression is the field at its place in the stream.
-/

set_option autoImplicit false

namespace EcatMaster.Tasks
open Library Io

def payload (buf : List UInt8) (off len : Nat) : List UInt8 := (List.range len).map (pdo buf off)

theorem length_payload (buf : List UInt8) (off len : Nat) : (payload buf off len).length = len := by
  rw [payload, List.length_map, List.length_range]

theorem payload_append (before bytes after : List UInt8) :
    payload (before ++ bytes ++ after) before.length bytes.length = bytes := by
  apply List.ext_getElem (length_payload _ _ _)
  intro i _ inside
  simp [payload, pdo, byteAt, List.getElem?_append_right, List.getElem?_append_left, inside]

theorem testBit_payload (buf : List UInt8) (off : Nat) {len i : Nat} (inside : i < 8 * len) :
    (streamOf (payload buf off len)).testBit i = (pdo buf off (i / 8)).toNat.testBit (i % 8) := by
  have byte : i / 8 < len := by omega
  rw [testBit_streamOf, payload, List.getElem?_map, List.getElem?_range byte]
  rfl

theorem testBit_byte (byte : UInt8) {i : Nat} (above : 8 ≤ i) : byte.toNat.testBit i = false :=
  Nat.testBit_lt_two_pow (Nat.lt_of_lt_of_le byte.toNat_lt (Nat.pow_le_pow_right (by decide) above))

theorem byteField_eq {buf : List UInt8} {off i : Nat} {low mask : UInt8} (len width : Nat) (inside : i < len)
    (fits : low.toNat + width ≤ 8) (masks : mask.toNat = 2 ^ width - 1) :
    (pdo buf off i >>> low &&& mask).toNat = bitField (streamOf (payload buf off len)) (8 * i + low.toNat) width := by
  apply Nat.eq_of_testBit_eq
  intro j
  rw [UInt8.toNat_and, masks, UInt8.toNat_shiftRight, Nat.testBit_and, Nat.testBit_two_pow_sub_one,
    Nat.testBit_shiftRight, testBit_bitField, Bool.and_comm]
  by_cases small : j < width
  · have place : (8 * i + low.toNat + j) / 8 = i ∧ (8 * i + low.toNat + j) % 8 = low.toNat + j := by omega
    rw [testBit_payload _ _ (by omega), place.1, place.2, Nat.mod_eq_of_lt (by omega)]
  · simp [small]

theorem bits11_eq {buf : List UInt8} {off i low : Nat} (len : Nat) (inside : i + 1 < len) (lower : low ≤ 5) :
    bits11 buf off i low = bitField (streamOf (payload buf off len)) (8 * i + low) 11 := by
  apply Nat.eq_of_testBit_eq
  intro j
  rw [bits11, show (0x07FF : Nat) = 2 ^ 11 - 1 from rfl, Nat.testBit_and, Nat.testBit_two_pow_sub_one,
    Nat.testBit_or, Nat.testBit_shiftRight, Nat.testBit_shiftLeft, testBit_bitField, Bool.and_comm]
  by_cases small : j < 11
  · rw [testBit_payload _ _ (by omega)]
    by_cases first : low + j < 8
    · have place : (8 * i + low + j) / 8 = i ∧ (8 * i + low + j) % 8 = low + j := by omega
      have notHigh : ¬8 - low ≤ j := by omega
      simp [place, notHigh]
    · have place : (8 * i + low + j) / 8 = i + 1 ∧ (8 * i + low + j) % 8 = j - (8 - low) := by omega
      have high : 8 - low ≤ j := by omega
      simp [place, high, testBit_byte _ (Nat.le_of_not_lt first)]
  · simp [small]

theorem wideBits11_eq {buf : List UInt8} {off i low : Nat} (len : Nat) (inside : i + 2 < len) (upper : low < 8) :
    wideBits11 buf off i low = bitField (streamOf (payload buf off len)) (8 * i + low) 11 := by
  apply Nat.eq_of_testBit_eq
  intro j
  rw [wideBits11, show (0x07FF : Nat) = 2 ^ 11 - 1 from rfl, Nat.testBit_and, Nat.testBit_two_pow_sub_one,
    Nat.testBit_or, Nat.testBit_or, Nat.testBit_shiftRight, Nat.testBit_shiftLeft, Nat.testBit_shiftLeft,
    testBit_bitField, Bool.and_comm]
  by_cases small : j < 11
  · rw [testBit_payload _ _ (by omega)]
    by_cases first : low + j < 8
    · have place : (8 * i + low + j) / 8 = i ∧ (8 * i + low + j) % 8 = low + j := by omega
      have notSecond : ¬8 - low ≤ j := by omega
      have notThird : ¬16 - low ≤ j := by omega
      simp [place, notSecond, notThird]
    · by_cases second : low + j < 16
      · have place : (8 * i + low + j) / 8 = i + 1 ∧ (8 * i + low + j) % 8 = j - (8 - low) := by omega
        have here : 8 - low ≤ j := by omega
        have notThird : ¬16 - low ≤ j := by omega
        simp [place, here, notThird, testBit_byte _ (Nat.le_of_not_lt first)]
      · have place : (8 * i + low + j) / 8 = i + 2 ∧ (8 * i + low + j) % 8 = j - (16 - low) := by omega
        have above : 8 ≤ j - (8 - low) := by omega
        have here : 16 - low ≤ j := by omega
        simp [place, here, testBit_byte _ (Nat.le_of_not_lt first), testBit_byte _ above]
  · simp [small]

/-- The raw values are consecutive fields of the first `len` bytes. So each of the bits that they
cover belongs to one of them, and the values and these bits determine each other. -/
structure Tiles (raw : List UInt8 → Nat → List Nat) (widths : List Nat) (len : Nat) : Prop where
  cut : ∀ buf off, raw buf off = bitFields widths (streamOf (payload buf off len))
  determine : ∀ buf off buf' off', raw buf off = raw buf' off' ↔
    streamOf (payload buf off len) % 2 ^ widths.sum = streamOf (payload buf' off' len) % 2 ^ widths.sum
  every : ∀ values, FieldsFit widths values → ∀ before after, ∃ bytes, bytes.length = len ∧
    raw (before ++ bytes ++ after) before.length = values

theorem tiles_of_cut {raw : List UInt8 → Nat → List Nat} {widths : List Nat} {len : Nat}
    (covered : widths.sum ≤ (List.replicate len 8).sum)
    (cut : ∀ buf off, raw buf off = bitFields widths (streamOf (payload buf off len))) : Tiles raw widths len where
  cut := cut
  determine := by
    intro buf off buf' off'
    rw [cut, cut, bitFields_eq_iff]
  every := by
    intro values fit before after
    have small : joinFields widths values < 2 ^ (List.replicate len 8).sum :=
      Nat.lt_of_lt_of_le (joinFields_lt fit) (Nat.pow_le_pow_right (by decide) covered)
    refine ⟨bytesOf len (joinFields widths values), length_bytesOf _ _, ?_⟩
    have frame : payload (before ++ bytesOf len (joinFields widths values) ++ after) before.length len =
        bytesOf len (joinFields widths values) := by
      have whole := payload_append before (bytesOf len (joinFields widths values)) after
      rwa [length_bytesOf] at whole
    rw [cut, frame, streamOf_bytesOf, Nat.mod_eq_of_lt small, bitFields_joinFields fit]

/-- Sixteen channels of eleven bits are the bits of 22 bytes. -/
def SbusRc.widths : List Nat := List.replicate 16 11

def SbusRc.raw (buf : List UInt8) (off : Nat) : List Nat :=
  [bits11 buf off 0 0, bits11 buf off 1 3, wideBits11 buf off 2 6, bits11 buf off 4 1,
   bits11 buf off 5 4, wideBits11 buf off 6 7, bits11 buf off 8 2, bits11 buf off 9 5,
   bits11 buf off 11 0, bits11 buf off 12 3, wideBits11 buf off 13 6, bits11 buf off 15 1,
   bits11 buf off 16 4, wideBits11 buf off 17 7, bits11 buf off 19 2, bits11 buf off 20 5]

theorem SbusRc.tiles : Tiles SbusRc.raw SbusRc.widths 22 := by
  apply tiles_of_cut (by decide)
  intro buf off
  simp (disch := decide) only [SbusRc.raw, bits11_eq 22, wideBits11_eq 22]
  rw [bitFields_eq_from]
  rfl

theorem SbusRc.read_channels {buf : List UInt8} {off : Nat} (online : pdo buf off 23 ≠ 0) (stamp : Int)
    (msg : ReadSBUSRC) : (SbusRc.read stamp buf off msg).channels = (SbusRc.raw buf off).map UInt16.ofNat := by
  rw [SbusRc.read, if_pos online]
  rfl

theorem map_toNat_channels {values : List Nat} (fit : FieldsFit SbusRc.widths values) :
    (values.map UInt16.ofNat).map UInt16.toNat = values := by
  obtain ⟨_, below⟩ := (fieldsFit_replicate 16 11 values).mp fit
  have same : ∀ value ∈ values, (UInt16.toNat ∘ UInt16.ofNat) value = id value := fun value member =>
    UInt16.toNat_ofNat_of_lt' (Nat.lt_trans (below value member) (by decide))
  rw [List.map_map, List.map_congr_left same, List.map_id]

theorem map_channels_bijOn :
    Set.BijOn (List.map UInt16.ofNat) {values | FieldsFit SbusRc.widths values}
      {channels | channels.length = 16 ∧ ∀ channel ∈ channels, channel.toNat < 2048} := by
  have fits : Set.MapsTo (List.map UInt16.toNat)
      {channels | channels.length = 16 ∧ ∀ channel ∈ channels, channel.toNat < 2048}
      {values | FieldsFit SbusRc.widths values} := by
    rintro channels ⟨count, below⟩
    apply (fieldsFit_replicate 16 11 _).mpr
    refine ⟨by rw [List.length_map, count], ?_⟩
    intro value member
    obtain ⟨channel, within, rfl⟩ := List.mem_map.mp member
    exact below channel within
  have inverse : Set.LeftInvOn (List.map UInt16.ofNat) (List.map UInt16.toNat)
      {channels | channels.length = 16 ∧ ∀ channel ∈ channels, channel.toNat < 2048} := by
    intro channels _
    rw [List.map_map]
    exact List.map_id'' (fun channel => UInt16.ofNat_toNat) channels
  refine Set.InvOn.bijOn ⟨fun values fit => map_toNat_channels fit, inverse⟩ ?_ fits
  intro values fit
  obtain ⟨count, below⟩ := (fieldsFit_replicate 16 11 values).mp fit
  refine ⟨by rw [List.length_map, count], ?_⟩
  intro channel member
  have within : channel.toNat ∈ (values.map UInt16.ofNat).map UInt16.toNat := List.mem_map_of_mem member
  rw [map_toNat_channels fit] at within
  exact below _ within

/-- Every 16 values below 2048 are the channels of exactly one payload of 22 bytes. -/
theorem SbusRc.channels_bijOn :
    Set.BijOn (fun bytes => (bitFields SbusRc.widths (streamOf bytes)).map UInt16.ofNat) {bytes | bytes.length = 22}
      {channels | channels.length = 16 ∧ ∀ channel ∈ channels, channel.toNat < 2048} :=
  map_channels_bijOn.comp ((bitFields_bijOn SbusRc.widths).comp (streamOf_bijOn 22))

theorem flag_eq (byte mask : UInt8) {i : Nat} (single : mask.toNat = 2 ^ i) :
    (if byte &&& mask ≠ 0 then (1 : UInt8) else 0).toNat = bitField byte.toNat i 1 := by
  have value : (byte &&& mask).toNat = (byte.toNat.testBit i).toNat * 2 ^ i := by
    rw [UInt8.toNat_and, single, Nat.and_two_pow]
  rw [bitField_one]
  cases set : byte.toNat.testBit i with
  | false =>
    have zero : byte &&& mask = 0 := UInt8.toNat_inj.mp (by rw [value, set, Bool.toNat_false, Nat.zero_mul]; rfl)
    rw [if_neg (not_not_intro zero)]
    rfl
  | true =>
    have nonzero : byte &&& mask ≠ 0 := by
      intro zero
      rw [zero, set, Bool.toNat_true, Nat.one_mul] at value
      exact absurd value.symm (Nat.ne_of_gt (Nat.two_pow_pos i))
    rw [if_pos nonzero]
    rfl

/-- The channels and flags of an online frame are its bits, and decoding loses and invents none. -/
theorem SbusRc.decodes_exactly :
    (∀ stamp buf off msg, pdo buf off 23 ≠ 0 →
      ((SbusRc.read stamp buf off msg).channels.map UInt16.toNat =
        (List.range 16).map fun i => bitField (streamOf (payload buf off 22)) (11 * i) 11) ∧
      let report := SbusRc.read stamp buf off msg
      [report.ch17, report.ch18, report.failSafe, report.frameLost].map UInt8.toNat =
        (List.range 4).map fun i => bitField (pdo buf off 22).toNat i 1) ∧
    ∀ stamp before flags online after msg, online ≠ 0 →
      Set.BijOn (fun bytes =>
          (SbusRc.read stamp (before ++ bytes ++ flags :: online :: after) before.length msg).channels)
        {bytes | bytes.length = 22}
        {channels | channels.length = 16 ∧ ∀ channel ∈ channels, channel.toNat < 2048} := by
  refine ⟨?_, ?_⟩
  · intro stamp buf off msg online
    refine ⟨?_, ?_⟩
    · have fit := bitFields_fit SbusRc.widths (streamOf (payload buf off 22))
      rw [SbusRc.read_channels online, SbusRc.tiles.cut, map_toNat_channels fit]
      exact bitFields_replicate 16 11 _
    · rw [SbusRc.read, if_pos online]
      simp only [List.map_cons, List.map_nil]
      rw [flag_eq _ 0x01 (i := 0) rfl, flag_eq _ 0x02 (i := 1) rfl, flag_eq _ 0x04 (i := 2) rfl,
        flag_eq _ 0x08 (i := 3) rfl]
      rfl
  · intro stamp before flags online after msg working
    apply SbusRc.channels_bijOn.congr
    intro bytes sized
    have sized : bytes.length = 22 := sized
    have frame : payload (before ++ bytes ++ flags :: online :: after) before.length 22 = bytes := by
      rw [← sized, payload_append]
    have place : before.length + 23 = (before ++ bytes).length + 1 := by rw [List.length_append, sized]
    have works : pdo (before ++ bytes ++ flags :: online :: after) before.length 23 = online := by
      rw [pdo, byteAt, place, List.getElem?_append_right (Nat.le_add_right _ _), Nat.add_sub_cancel_left]
      rfl
    change _ = (SbusRc.read stamp (before ++ bytes ++ flags :: online :: after) before.length msg).channels
    rw [SbusRc.read_channels (by rw [works]; exact working), SbusRc.tiles.cut, frame]

/-- A payload of alternating bits, with the flags 17 and fail-safe set. -/
def SbusRc.frame : List UInt8 := List.replicate 22 0x55 ++ [0x05, 0x01]

theorem SbusRc.decodes_frame :
    ((SbusRc.read 0 SbusRc.frame 0 {}).channels.map UInt16.toNat =
      (List.range 16).map fun i => bitField (streamOf (payload SbusRc.frame 0 22)) (11 * i) 11) ∧
    Set.BijOn (fun bytes => (SbusRc.read 0 ([] ++ bytes ++ [0x05, 0x01]) 0 {}).channels) {bytes | bytes.length = 22}
      {channels | channels.length = 16 ∧ ∀ channel ∈ channels, channel.toNat < 2048} :=
  ⟨(SbusRc.decodes_exactly.1 0 SbusRc.frame 0 {} (by decide)).1,
    SbusRc.decodes_exactly.2 0 [] 0x05 0x01 [] {} (by decide)⟩

namespace DbusRc

def widths : List Nat := [11, 11, 11, 11, 2, 2]

def raw (buf : List UInt8) (off : Nat) : List Nat :=
  [bits11 buf off 0 0, bits11 buf off 1 3, wideBits11 buf off 2 6, bits11 buf off 4 1,
   (pdo buf off 5 >>> 4 &&& 0x03).toNat, (pdo buf off 5 >>> 6 &&& 0x03).toNat]

theorem tiles : Tiles raw widths 6 := by
  apply tiles_of_cut (by decide)
  intro buf off
  simp (disch := decide) only [raw, bits11_eq 6, wideBits11_eq 6, byteField_eq 6 2]
  rw [bitFields_eq_from]
  rfl

end DbusRc

namespace Vt13Rc

def widths : List Nat := [11, 11, 11, 11, 2, 1, 1, 1, 11, 1]

def raw (buf : List UInt8) (off : Nat) : List Nat :=
  [bits11 buf off 0 0, bits11 buf off 1 3, wideBits11 buf off 2 6, bits11 buf off 4 1,
   (pdo buf off 5 >>> 4 &&& 0x03).toNat, (pdo buf off 5 >>> 6 &&& 0x01).toNat,
   (pdo buf off 5 >>> 7 &&& 0x01).toNat, (pdo buf off 6 &&& 0x01).toNat, bits11 buf off 6 1,
   (pdo buf off 7 >>> 4 &&& 0x01).toNat]

-- The bits 61 to 63 belong to no field.
theorem tiles : Tiles raw widths 8 := by
  apply tiles_of_cut (by decide)
  intro buf off
  have unshifted : pdo buf off 6 &&& (0x01 : UInt8) = pdo buf off 6 >>> 0 &&& 0x01 := by rw [UInt8.shiftRight_zero]
  simp (disch := decide) only [raw, unshifted, bits11_eq 8, wideBits11_eq 8, byteField_eq 8 2, byteField_eq 8 1]
  rw [bitFields_eq_from]
  rfl

end Vt13Rc

/-- The flags of the keys, from the lowest bit of the key word on. -/
def Keyboard.flags (keys : Keyboard) : List UInt8 :=
  [keys.w, keys.s, keys.a, keys.d, keys.shift, keys.ctrl, keys.q, keys.e,
   keys.r, keys.f, keys.g, keys.z, keys.x, keys.c, keys.v, keys.b]

theorem word_stream (buf : List UInt8) (off i : Nat) :
    (word (pdo buf off i) (pdo buf off (i + 1))).toNat = streamOf (payload buf (off + i) 2) := by
  have first : pdo buf (off + i) 0 = pdo buf off i := rfl
  have second : pdo buf (off + i) 1 = pdo buf off (i + 1) := by rw [pdo, pdo, Nat.add_assoc]
  have stream : streamOf (payload buf (off + i) 2) =
      2 ^ 8 * (2 ^ 8 * 0 + (pdo buf (off + i) 1).toNat) + (pdo buf (off + i) 0).toNat := rfl
  rw [word_toNat, stream, first, second]
  omega

theorem readKeyboard_flags (keyValue : UInt16) :
    (readKeyboard keyValue).flags.map UInt8.toNat = bitFields (List.replicate 16 1) keyValue.toNat := by
  have flags : (readKeyboard keyValue).flags =
      (List.range 16).map fun i => (keyValue >>> UInt16.ofNat i &&& 0x01).toUInt8 := rfl
  rw [flags, List.map_map, bitFields_replicate]
  apply List.map_congr_left
  intro i inside
  have small : (UInt16.ofNat i).toNat % 16 = i := by
    have below := List.mem_range.mp inside
    rw [UInt16.toNat_ofNat_of_lt' (Nat.lt_trans below (by decide)), Nat.mod_eq_of_lt below]
  rw [Function.comp, UInt16.toNat_toUInt8, UInt16.toNat_and, UInt16.toNat_shiftRight, small,
    show (0x01 : UInt16).toNat = 2 ^ 1 - 1 from rfl, Nat.and_two_pow_sub_one_eq_mod, Nat.one_mul, bitField]
  omega

theorem axis_toInt (buf : List UInt8) (off i : Nat) :
    (word (pdo buf off i) (pdo buf off (i + 1))).toInt16.toInt =
      (streamOf (payload buf (off + i) 2) : Int).bmod (2 ^ 16) := by
  rw [← word_stream]
  exact BitVec.toInt_eq_toNat_bmod _

/-- The dead zone around the middle of a stick. -/
def Centred (rawData : Nat) : Prop := 1019 ≤ rawData ∧ rawData ≤ 1029

instance (rawData : Nat) : Decidable (Centred rawData) := inferInstanceAs (Decidable (_ ∧ _))

theorem getPercentage_eq (rawData : Nat) :
    getPercentage rawData = if Centred rawData then 0 else (((rawData : Int) - 1024 : Int) : Rat) / 660 := by
  have zone : (-5 ≤ (rawData : Int) - 1024 ∧ (rawData : Int) - 1024 ≤ 5) ↔ Centred rawData := by
    unfold Centred
    omega
  exact if_congr zone rfl rfl

theorem getPercentage_ne_zero {rawData : Nat} (moved : ¬Centred rawData) : getPercentage rawData ≠ 0 := by
  rw [getPercentage_eq, if_neg moved]
  have away : (rawData : Int) - 1024 ≠ 0 := by
    unfold Centred at moved
    omega
  exact div_ne_zero (Int.cast_ne_zero.mpr away) (by norm_num)

/-- Only in the dead zone two raw values give the same stick value. -/
theorem getPercentage_eq_iff (rawData rawData' : Nat) :
    getPercentage rawData = getPercentage rawData' ↔ rawData = rawData' ∨ Centred rawData ∧ Centred rawData' := by
  have zero : ∀ {n}, Centred n → getPercentage n = 0 := fun centred => by rw [getPercentage_eq, if_pos centred]
  constructor
  · intro same
    by_cases left : Centred rawData <;> by_cases right : Centred rawData'
    · exact Or.inr ⟨left, right⟩
    · exact absurd (same.symm.trans (zero left)) (getPercentage_ne_zero right)
    · exact absurd (same.trans (zero right)) (getPercentage_ne_zero left)
    · rw [getPercentage_eq, getPercentage_eq, if_neg left, if_neg right] at same
      have values := Int.cast_injective ((div_left_inj' (by norm_num)).mp same)
      exact Or.inl (by omega)
  · rintro (rfl | ⟨left, right⟩)
    · rfl
    · rw [zero left, zero right]

/-- An online report shows the fields of the frame, its keys and its mouse axes. -/
structure DbusRc.Shows (report : ReadDJIRC) (buf : List UInt8) (off : Nat) : Prop where
  sticks : [report.rightX, report.rightY, report.leftX, report.leftY] =
    ((DbusRc.raw buf off).take 4).map getPercentage
  switches : [report.rightSwitch, report.leftSwitch].map UInt8.toNat = (DbusRc.raw buf off).drop 4
  keys : report.keyboard.flags.map UInt8.toNat =
    bitFields (List.replicate 16 1) (streamOf (payload buf (off + 14) 2))
  mouse : [report.mouseX, report.mouseY].map Int16.toInt =
    [6, 8].map fun i => (streamOf (payload buf (off + i) 2) : Int).bmod (2 ^ 16)

structure Vt13Rc.Shows (report : ReadVT13RC) (buf : List UInt8) (off : Nat) : Prop where
  sticks : [report.rightX, report.rightY, report.leftX, report.leftY] =
    ((Vt13Rc.raw buf off).take 4).map getPercentage
  buttons : [report.gearSwitching, report.pauseButton, report.leftCustomButton, report.rightCustomButton].map
    UInt8.toNat = ((Vt13Rc.raw buf off).drop 4).take 4
  dial : [report.dial] = (((Vt13Rc.raw buf off).drop 8).take 1).map getPercentage
  trigger : [report.triggerButton].map UInt8.toNat = (Vt13Rc.raw buf off).drop 9
  keys : report.keyboard.flags.map UInt8.toNat =
    bitFields (List.replicate 16 1) (streamOf (payload buf (off + 15) 2))
  mouse : [report.mouseX, report.mouseY, report.mouseZ].map Int16.toInt =
    [8, 10, 12].map fun i => (streamOf (payload buf (off + i) 2) : Int).bmod (2 ^ 16)

theorem DbusRc.read_shows {buf : List UInt8} {off : Nat} (online : pdo buf off 18 ≠ 0) (stamp : Int)
    (msg : ReadDJIRC) : DbusRc.Shows (DbusRc.read stamp buf off msg) buf off := by
  rw [DbusRc.read, if_pos online]
  constructor
  · rfl
  · rfl
  · exact (readKeyboard_flags _).trans (congrArg _ (word_stream buf off 14))
  · change [Int16.toInt _, Int16.toInt _] = _
    rw [axis_toInt, axis_toInt]
    rfl

theorem Vt13Rc.read_shows {buf : List UInt8} {off : Nat} (online : pdo buf off 17 ≠ 0) (stamp : Int)
    (msg : ReadVT13RC) : Vt13Rc.Shows (Vt13Rc.read stamp buf off msg) buf off := by
  rw [Vt13Rc.read, if_pos online]
  constructor
  · rfl
  · rfl
  · rfl
  · rfl
  · exact (readKeyboard_flags _).trans (congrArg _ (word_stream buf off 15))
  · change [Int16.toInt _, Int16.toInt _, Int16.toInt _] = _
    rw [axis_toInt, axis_toInt, axis_toInt]
    rfl

/-- The fields of both remote controls tile their frames, and the sticks lose nothing outside of
the dead zone. -/
theorem remote_frames_tiled :
    (Tiles DbusRc.raw DbusRc.widths 6 ∧ ∀ stamp buf off msg, pdo buf off 18 ≠ 0 →
      DbusRc.Shows (DbusRc.read stamp buf off msg) buf off) ∧
    (Tiles Vt13Rc.raw Vt13Rc.widths 8 ∧ ∀ stamp buf off msg, pdo buf off 17 ≠ 0 →
      Vt13Rc.Shows (Vt13Rc.read stamp buf off msg) buf off) ∧
    ∀ rawData rawData', getPercentage rawData = getPercentage rawData' →
      rawData = rawData' ∨ Centred rawData ∧ Centred rawData' :=
  ⟨⟨DbusRc.tiles, fun stamp _ _ msg online => DbusRc.read_shows online stamp msg⟩,
    ⟨Vt13Rc.tiles, fun stamp _ _ msg online => Vt13Rc.read_shows online stamp msg⟩,
    fun _ _ => (getPercentage_eq_iff _ _).mp⟩

/-- Frames whose last byte says that they are online. -/
theorem remote_frames_shown :
    DbusRc.Shows (DbusRc.read 0 (List.replicate 19 0x35) 0 {}) (List.replicate 19 0x35) 0 ∧
    Vt13Rc.Shows (Vt13Rc.read 0 (List.replicate 18 0x35) 0 {}) (List.replicate 18 0x35) 0 ∧
    (1020 = 1029 ∨ Centred 1020 ∧ Centred 1029) :=
  ⟨remote_frames_tiled.1.2 0 _ 0 {} (by decide), remote_frames_tiled.2.1.2 0 _ 0 {} (by decide),
    remote_frames_tiled.2.2 1020 1029 rfl⟩

end EcatMaster.Tasks
