import EcatMaster.Io.Readers
import EcatMaster.Library.Runs
import EcatMaster.Tasks.Handlers

/-! The slots of an external PWM task under messages of any length.

The configuration gives the number of slots, a message gives the array. What lies
in memory past the array is part of the run, so that a value from there can be
told from one that was given: by `init_value`, by this message or by an earlier one.
-/

set_option autoImplicit false

namespace EcatMaster.Tasks.ExternalPwm
open Library Io

def slotAt (buf : List UInt8) (off i : Nat) : UInt16 := word (byteAt buf (off + 2 * i)) (byteAt buf (off + 2 * i + 1))

theorem length_words (values : List UInt16) : (values.flatMap uint16Bytes).length = 2 * values.length := by
  induction values with
  | nil => rfl
  | cons value values ih =>
    rw [List.flatMap_cons, List.length_append, ih, List.length_cons, uint16Bytes]
    exact Nat.add_comm _ _

theorem getElem?_words {values : List UInt16} {i : Nat} {value : UInt16} (found : values[i]? = some value) :
    (values.flatMap uint16Bytes)[2 * i]? = some value.toUInt8 ∧
      (values.flatMap uint16Bytes)[2 * i + 1]? = some (value >>> 8).toUInt8 := by
  induction values generalizing i with
  | nil => cases found
  | cons first values ih =>
    cases i with
    | zero =>
      cases found
      exact ⟨rfl, rfl⟩
    | succ i => exact ih found

theorem slotAt_overwrite {buf : List UInt8} {off i : Nat} {values : List UInt16} {value : UInt16}
    (fits : off + 2 * values.length ≤ buf.length) (found : values[i]? = some value) :
    slotAt (overwrite buf off (values.flatMap uint16Bytes)) off i = value := by
  have inside : i < values.length := (List.getElem?_eq_some_iff.mp found).1
  have len := length_words values
  obtain ⟨low, high⟩ := getElem?_words found
  have cell : ∀ j byte, j < 2 * values.length → (values.flatMap uint16Bytes)[j]? = some byte →
      byteAt (overwrite buf off (values.flatMap uint16Bytes)) (off + j) = byte := by
    intro j byte bound here
    rw [byteAt, getElem?_overwrite_inside _ _ _ _ (Nat.le_add_right _ _) (by omega) (by omega),
      Nat.add_sub_cancel_left, here]
    rfl
  rw [slotAt, cell (2 * i) _ (by omega) low, Nat.add_assoc off, cell (2 * i + 1) _ (by omega) high, word_eq_iff]
  rfl

def stored (channelNum : UInt8) (channels beyond : List UInt16) : List UInt16 :=
  (List.range channelNum.toNat).map (channelAt channels beyond)

theorem length_stored (channelNum : UInt8) (channels beyond : List UInt16) :
    (stored channelNum channels beyond).length = channelNum.toNat := by
  rw [stored, List.length_map, List.length_range]

theorem getElem?_stored {channelNum : UInt8} {i : Nat} (inside : i < channelNum.toNat) (channels beyond : List UInt16) :
    (stored channelNum channels beyond)[i]? = some (channelAt channels beyond i) := by
  rw [stored, List.getElem?_map, List.getElem?_range inside]
  rfl

def handle (channelNum : UInt8) (off : Nat) (channels beyond : List UInt16) (buf : List UInt8) : List UInt8 :=
  (onCommand channelNum channels beyond ⟨id, buf, off⟩).buf

theorem handle_eq (channelNum : UInt8) (off : Nat) (channels beyond : List UInt16) (buf : List UInt8) :
    handle channelNum off channels beyond buf =
      overwrite buf off ((stored channelNum channels beyond).flatMap uint16Bytes) := by
  have written : Writes (β := UInt8) (onCommand channelNum channels beyond) _ :=
    writeAll_writes (fun i => writeUint16_writes (channelAt channels beyond i)) (List.range channelNum.toNat)
  rw [handle, written, stored, List.flatMap_map, Cursor.putAll, List.map_id]

def initialised (channelNum : UInt8) (off : Nat) (initial : UInt16) (buf : List UInt8) : List UInt8 :=
  (initValue channelNum initial ⟨id, buf, off⟩).buf

theorem initialised_eq (channelNum : UInt8) (off : Nat) (initial : UInt16) (buf : List UInt8) :
    initialised channelNum off initial buf =
      overwrite buf off ((List.replicate channelNum.toNat initial).flatMap uint16Bytes) := by
  have written : Writes (β := UInt8) (initValue channelNum initial) _ :=
    (writeUint16_writes initial).repeat channelNum.toNat
  rw [initialised, written, Cursor.putAll, List.map_id, List.flatMap_def, List.map_replicate]

/-- A message, and what lies past its array when the callback runs. -/
structure Received where
  channels : List UInt16
  beyond : List UInt16

/-- The command buffer, and the arrays of values that it was given so far. -/
structure Region where
  buf : List UInt8
  given : List (List UInt16)

def start (channelNum : UInt8) (off : Nat) (initial : UInt16) (buf : List UInt8) : Region where
  buf := initialised channelNum off initial buf
  given := [List.replicate channelNum.toNat initial]

def next (channelNum : UInt8) (off : Nat) (r : Region) (msg : Received) : Region where
  buf := handle channelNum off msg.channels msg.beyond r.buf
  given := msg.channels :: r.given

/-- The callback reads the array only, writes its own slots only, puts each element that is there into
its slot, and leaves no value in a slot that was not given for this slot. -/
structure Harmless (channelNum : UInt8) (off : Nat) (r : Region) (msg : Received) : Prop where
  reads : ∀ beyond, (next channelNum off r ⟨msg.channels, beyond⟩).buf = (next channelNum off r msg).buf
  writes : ∀ j, j < off ∨ off + 2 * channelNum.toNat ≤ j → (next channelNum off r msg).buf[j]? = r.buf[j]?
  stores : ∀ i < channelNum.toNat, ∀ value, msg.channels[i]? = some value →
    slotAt (next channelNum off r msg).buf off i = value
  gives : ∀ i < channelNum.toNat, ∃ values ∈ (next channelNum off r msg).given,
    values[i]? = some (slotAt (next channelNum off r msg).buf off i)

theorem channelAt_of_some {channels : List UInt16} {i : Nat} {value : UInt16} (found : channels[i]? = some value)
    (beyond : List UInt16) : channelAt channels beyond i = value := by
  rw [channelAt, found]
  rfl

theorem channelAt_beyond (channels : List UInt16) (value : UInt16) (beyond : List UInt16) :
    channelAt channels (value :: beyond) channels.length = value := by
  rw [channelAt, List.getElem?_eq_none (Nat.le_refl _), Nat.sub_self]
  rfl

section Steps
variable {channelNum : UInt8} {off : Nat} {r : Region}

theorem slotAt_next (fits : off + 2 * channelNum.toNat ≤ r.buf.length) {i : Nat} (inside : i < channelNum.toNat)
    (msg : Received) : slotAt (next channelNum off r msg).buf off i = channelAt msg.channels msg.beyond i := by
  rw [next, handle_eq]
  exact slotAt_overwrite (by rwa [length_stored]) (getElem?_stored inside _ _)

theorem next_writes (msg : Received) {j : Nat} (outside : j < off ∨ off + 2 * channelNum.toNat ≤ j) :
    (next channelNum off r msg).buf[j]? = r.buf[j]? := by
  rw [next, handle_eq, getElem?_overwrite_outside _ _ _ _ (by rwa [length_words, length_stored])]

theorem next_stores (fits : off + 2 * channelNum.toNat ≤ r.buf.length) (msg : Received) {i : Nat}
    (inside : i < channelNum.toNat) {value : UInt16} (found : msg.channels[i]? = some value) :
    slotAt (next channelNum off r msg).buf off i = value := by
  rw [slotAt_next fits inside, channelAt_of_some found]

/-- One message does no harm exactly if it has an element for each slot. -/
theorem harmless_iff (fits : off + 2 * channelNum.toNat ≤ r.buf.length) (msg : Received) :
    Harmless channelNum off r msg ↔ channelNum.toNat ≤ msg.channels.length := by
  constructor
  · intro harmless
    by_contra short
    -- Another value past the array would have come into the first slot without an element.
    have inside : msg.channels.length < channelNum.toNat := by omega
    have same := congrArg (fun buf => slotAt buf off msg.channels.length)
      (harmless.reads [channelAt msg.channels msg.beyond msg.channels.length + 1])
    simp only [slotAt_next fits inside, channelAt_beyond] at same
    exact absurd same (by simp)
  · intro long
    have element : ∀ i < channelNum.toNat, ∃ value, msg.channels[i]? = some value :=
      fun i inside => ⟨_, List.getElem?_eq_getElem (Nat.lt_of_lt_of_le inside long)⟩
    refine ⟨fun beyond => ?_, fun j => next_writes msg, fun i inside value => next_stores fits msg inside, ?_⟩
    · have same : stored channelNum msg.channels beyond = stored channelNum msg.channels msg.beyond := by
        apply List.map_congr_left
        intro i member
        obtain ⟨value, found⟩ := element i (List.mem_range.mp member)
        rw [channelAt_of_some found, channelAt_of_some found]
      rw [next, next, handle_eq, handle_eq, same]
    · intro i inside
      obtain ⟨value, found⟩ := element i inside
      rw [next_stores fits msg inside found]
      exact ⟨msg.channels, List.mem_cons_self, found⟩

end Steps

theorem length_next (channelNum : UInt8) (off : Nat) (r : Region) (msg : Received) :
    (next channelNum off r msg).buf.length = r.buf.length := by
  rw [next, handle_eq, length_overwrite]

/-- After `init_value`, messages do no harm exactly if each of them has an element for each slot. -/
theorem harmless_along_iff {channelNum : UInt8} {off : Nat} {buf : List UInt8}
    (fits : off + 2 * channelNum.toNat ≤ buf.length) (initial : UInt16) (run : List Received) :
    Along (next channelNum off) (Harmless channelNum off) (start channelNum off initial buf) run ↔
      ∀ msg ∈ run, channelNum.toNat ≤ msg.channels.length := by
  have each : Along (next channelNum off) (fun _ msg => channelNum.toNat ≤ msg.channels.length)
      (start channelNum off initial buf) run ↔ ∀ msg ∈ run, channelNum.toNat ≤ msg.channels.length :=
    along_iff_forall _ run
  rw [← each]
  have started : off + 2 * channelNum.toNat ≤ (start channelNum off initial buf).buf.length := by
    rwa [start, initialised_eq, length_overwrite]
  have kept : ∀ r msg, off + 2 * channelNum.toNat ≤ r.buf.length → channelNum.toNat ≤ msg.channels.length →
      off + 2 * channelNum.toNat ≤ (next channelNum off r msg).buf.length := by
    intro r msg fits _
    rwa [length_next]
  exact (along_iff_along (I := fun r : Region => off + 2 * channelNum.toNat ≤ r.buf.length) started kept
    fun r msg fits => (harmless_iff fits msg).symm).symm

theorem harmless_along_iff_long :
    Along (next 2 0) (Harmless 2 0) (start 2 0 1500 [0, 0, 0, 0]) [⟨[1600, 1700], []⟩, ⟨[1, 2, 3], []⟩] ↔
      ∀ msg ∈ [Received.mk [1600, 1700] [], ⟨[1, 2, 3], []⟩], (2 : UInt8).toNat ≤ msg.channels.length :=
  harmless_along_iff (by decide) 1500 _

/-- A message of one element for two slots: the second one takes what lies behind the array. -/
theorem short_message_harmful :
    ¬∀ (channelNum : UInt8) (off : Nat) (buf : List UInt8), off + 2 * channelNum.toNat ≤ buf.length →
      ∀ (initial : UInt16) (run : List Received),
        Along (next channelNum off) (Harmless channelNum off) (start channelNum off initial buf) run := by
  intro always
  have harmless := (always 2 0 [0, 0, 0, 0] (by decide) 1500 [⟨[1600], [0xBEEF]⟩]).1
  obtain ⟨values, given, value⟩ := harmless.gives 1 (by decide)
  have never : ∀ values ∈ [[(1600 : UInt16)], [1500, 1500]], values[1]? ≠ some 0xBEEF := by decide
  exact never values given value

end EcatMaster.Tasks.ExternalPwm
