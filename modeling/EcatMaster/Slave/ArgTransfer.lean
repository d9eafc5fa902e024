import EcatMaster.Library.StopAndWait
import EcatMaster.Slave.Equations

/-! The transfer of the argument buffer by `send_arg`.

`send_arg` is the sender of a stop-and-wait transfer: the argument bytes are the
items, the first three input bytes are the echo.
-/

set_option autoImplicit false

namespace EcatMaster.Slave
open Library Io

namespace SlaveDevice
variable {β : Type} [Cell β]

omit [Cell β] in
theorem argTriple_eq (d : SlaveDevice β) (idx : UInt16) : d.argTriple idx = uint16Bytes idx ++ [d.argByte idx] := by
  have high : (idx >>> 8 &&& 0xFF).toUInt8 = (idx >>> 8).toUInt8 := low_byte16 (idx >>> 8)
  simp only [argTriple, uint16Bytes, low_byte16, high, List.cons_append, List.nil_append]

def inputTriple (d : SlaveDevice β) : List UInt8 := [d.inputByte 0, d.inputByte 1, d.inputByte 2]

omit [Cell β] in
theorem echoed_iff (d : SlaveDevice β) :
    d.echoed = true ↔ d.inputTriple = d.argTriple d.sendingArgBufIdx := by
  rw [argTriple_eq, echoed, inputTriple, Bool.and_eq_true, beq_iff_eq, beq_iff_eq, word_eq_iff]
  simp [uint16Bytes, and_assoc]

end SlaveDevice

/-- A device with what the calls have stored and seen since the transfer began. -/
structure Transfer (β : Type) where
  device : SlaveDevice β
  placed : List (List UInt8)
  seen : List (List UInt8)

def tripleOf (inputs : ByteVec UInt8) : List UInt8 :=
  [inputs.storage[0]?.getD 0, inputs.storage[1]?.getD 0, inputs.storage[2]?.getD 0]

def echoOf (inputs : ByteVec UInt8) : Nat × UInt8 :=
  ((word (inputs.storage[0]?.getD 0) (inputs.storage[1]?.getD 0)).toNat, inputs.storage[2]?.getD 0)

namespace Transfer
open SlaveDevice
variable {β : Type}

def start (d : SlaveDevice β) : Transfer β := ⟨d, [], []⟩

/-- The slave sends back nothing yet, or a triple that an earlier call has placed. -/
def Echo (t : Transfer β) (inputs : ByteVec UInt8) : Prop :=
  tripleOf inputs = [0, 0, 0] ∨ tripleOf inputs ∈ t.placed

instance (t : Transfer β) (inputs : ByteVec UInt8) : Decidable (t.Echo inputs) := inferInstanceAs (Decidable (_ ∨ _))

/-- The call sees the triple that the previous call has placed. -/
def Prompt (t : Transfer β) (inputs : ByteVec UInt8) : Prop :=
  t.device.isArgSent = false → ∀ triple, t.placed.getLast? = some triple → tripleOf inputs = triple

instance (t : Transfer β) (inputs : ByteVec UInt8) : Decidable (t.Prompt inputs) :=
  inferInstanceAs (Decidable (_ → ∀ triple ∈ t.placed.getLast?, tripleOf inputs = triple))

/-- The transfer of these items, as the abstract sender sees it. -/
structure Sends (items : List UInt8) (t : Transfer β) (s : Sender) : Prop where
  index : s.index = t.device.sendingArgBufIdx.toNat
  done : s.done = t.device.isArgSent
  range : s.InRange items
  args : t.device.argBuf = items
  count : t.device.argBufLen.toNat = items.length

theorem Sends.start {d : SlaveDevice β} (full : d.argBuf.length = d.argBufLen.toNat)
    (nonempty : 1 ≤ d.argBufLen.toNat) (first : d.sendingArgBufIdx = 1) (unsent : d.isArgSent = false) :
    Sends d.argBuf (Transfer.start d) Sender.start where
  index := by rw [Transfer.start, first]; rfl
  done := unsent.symm
  range := Sender.start_inRange (by omega)
  args := rfl
  count := full.symm

theorem Sends.echoed_iff {items : List UInt8} {t : Transfer β} {s : Sender} (sends : Sends items t s)
    (inputs : ByteVec UInt8) :
    ({ t.device with slaveToMasterBuf := inputs } : SlaveDevice β).echoed = true ↔
      s.Awaits items (echoOf inputs) := by
  have bound : s.index - 1 < items.length := by
    have low := sends.range.low
    have high := sends.range.high
    omega
  rw [echoed, Bool.and_eq_true, beq_iff_eq, beq_iff_eq, ← UInt16.toNat_inj, Sender.Awaits,
    sends.index, argByte, sends.args]
  rw [sends.index] at bound
  simp only [List.getElem?_eq_getElem bound, Option.getD_some, Option.some.injEq]
  exact and_congr Iff.rfl (eq_comm (a := (echoOf inputs).2))

section Cells
variable [Cell β]

def call (t : Transfer β) (inputs : ByteVec UInt8) : Transfer β :=
  let d := ({ t.device with slaveToMasterBuf := inputs } : SlaveDevice β).sendArg
  { device := d
    placed := if d.isArgSent then t.placed else t.placed ++ [d.argTriple d.sendingArgBufIdx]
    seen := t.seen ++ [tripleOf inputs] }

/-- A call of `send_arg` is a step of the abstract sender. -/
theorem Sends.call {items : List UInt8} {t : Transfer β} {s : Sender} (inputs : ByteVec UInt8)
    (sends : Sends items t s) : Sends items (t.call inputs) (s.receive items (echoOf inputs)) := by
  have accepts := sends.echoed_iff inputs
  have range := Sender.receive_inRange (echoOf inputs) sends.range
  -- The index of the source is a 16-bit word; it does not wrap, since it stops at the length.
  have last : s.index = items.length ↔ t.device.sendingArgBufIdx = t.device.argBufLen := by
    rw [← UInt16.toNat_inj, sends.index, sends.count]
  have low := sends.range.low
  have high := sends.range.high
  refine ⟨?_, ?_, range, ?_, ?_⟩
  all_goals rw [Transfer.call, sendArg_eq]
  · simp only [nextArgIdx, Sender.receive, ← accepts, last]
    cases echoed : ({ t.device with slaveToMasterBuf := inputs } : SlaveDevice β).echoed with
    | false => simpa using sends.index
    | true =>
      by_cases final : t.device.sendingArgBufIdx = t.device.argBufLen
      · simpa [final] using sends.index.trans (congrArg UInt16.toNat final)
      · have more : t.device.sendingArgBufIdx.toNat + 1 < 65536 := by
          have bound := t.device.argBufLen.toNat_lt
          have apart := mt last.mp final
          rw [sends.index] at apart high
          rw [sends.count] at bound
          omega
        simp [final, sends.index, UInt16.toNat_add, Nat.mod_eq_of_lt more]
  · simp only [lastEchoed, Sender.receive, ← accepts, last]
    cases echoed : ({ t.device with slaveToMasterBuf := inputs } : SlaveDevice β).echoed with
    | false => simpa using sends.done
    | true => by_cases final : t.device.sendingArgBufIdx = t.device.argBufLen <;> simp [final, sends.done]
  · exact sends.args
  · exact sends.count

/-- A call keeps the index in the range of a buffer of `n` bytes and moves it by at most one. -/
structure Advances (n : Nat) (t : Transfer β) (inputs : ByteVec UInt8) : Prop where
  low : 1 ≤ (t.call inputs).device.sendingArgBufIdx.toNat
  high : (t.call inputs).device.sendingArgBufIdx.toNat ≤ n
  mono : t.device.sendingArgBufIdx.toNat ≤ (t.call inputs).device.sendingArgBufIdx.toNat
  one : (t.call inputs).device.sendingArgBufIdx.toNat ≤ t.device.sendingArgBufIdx.toNat + 1

theorem Sends.advances {items : List UInt8} {t : Transfer β} {s : Sender} (inputs : ByteVec UInt8)
    (sends : Sends items t s) : Advances items.length t inputs := by
  have later := sends.call inputs
  have moved := Sender.receive_index items s (echoOf inputs)
  rw [later.index, sends.index] at moved
  refine ⟨?_, ?_, moved.1, moved.2⟩
  · rw [← later.index]
    exact later.range.low
  · rw [← later.index]
    exact later.range.high

theorem seen_exec (t : Transfer β) (calls : List (ByteVec UInt8)) :
    (exec call t calls).seen = t.seen ++ calls.map tripleOf := by
  induction calls generalizing t with
  | nil => simp [exec]
  | cons inputs calls ih => rw [exec, ih]; simp [call]

theorem placed_call (t : Transfer β) (inputs : ByteVec UInt8) (unsent : (t.call inputs).device.isArgSent = false) :
    (t.call inputs).placed.getLast? =
      some ((t.call inputs).device.argTriple (t.call inputs).device.sendingArgBufIdx) := by
  simp only [call] at unsent ⊢
  simp [unsent]

end Cells

def bytesOf (echo : Nat × UInt8) : List UInt8 := uint16Bytes (UInt16.ofNat echo.1) ++ [echo.2]

theorem bytesOf_echoOf (inputs : ByteVec UInt8) : bytesOf (echoOf inputs) = tripleOf inputs := by
  have bytes := (word_eq_iff (inputs.storage[0]?.getD 0) (inputs.storage[1]?.getD 0) _).mp rfl
  rw [bytesOf, echoOf, UInt16.ofNat_toNat, ← bytes]
  rfl

end Transfer

/-- The triples of the whole argument buffer, in the order of their indices. -/
def SlaveDevice.argTriples {β : Type} (d : SlaveDevice β) : List (List UInt8) :=
  (List.range d.argBufLen.toNat).map fun k => d.argTriple (UInt16.ofNat (k + 1))

namespace Transfer
open SlaveDevice
variable {β : Type}

theorem argTriples_eq (d : SlaveDevice β) (full : d.argBuf.length = d.argBufLen.toNat) :
    d.argTriples = (Sender.frames d.argBuf).map bytesOf := by
  have bound := d.argBufLen.toNat_lt
  apply List.ext_getElem
  · simp [argTriples, Sender.frames, full]
  · intro k inside _
    simp only [argTriples, List.length_map, List.length_range] at inside
    have small : k + 1 < 65536 := by omega
    simp only [argTriples, Sender.frames, List.getElem_map, List.getElem_range, List.getElem_mapIdx,
      bytesOf, argTriple_eq, argByte, UInt16.toNat_ofNat_of_lt' small, Nat.add_sub_cancel]
    rw [List.getElem?_eq_getElem (by omega), Option.getD_some]

variable [Cell β]

omit [Cell β] in
/-- While arguments remain, a call that sees the last triple answers what the sender awaits. -/
theorem Sends.prompt {items : List UInt8} {t : Transfer β} {s : Sender} (sends : Sends items t s)
    (placed : t.device.isArgSent = false →
      t.placed.getLast? = some (t.device.argTriple t.device.sendingArgBufIdx))
    {inputs : ByteVec UInt8} (prompt : t.Prompt inputs) : Sender.Prompt items s (echoOf inputs) := by
  intro waiting
  have unsent := sends.done.symm.trans waiting
  apply (sends.echoed_iff inputs).mp
  rw [SlaveDevice.echoed_iff]
  exact prompt unsent _ (placed unsent)

/-- In a prompt transfer all arguments are confirmed one call after the last was sent. -/
theorem prompt_transfer (d : SlaveDevice β) (full : d.argBuf.length = d.argBufLen.toNat)
    (nonempty : 1 ≤ d.argBufLen.toNat) (first : d.sendingArgBufIdx = 1) (unsent : d.isArgSent = false)
    (calls : List (ByteVec UInt8)) (echo : Along call Echo (start d) calls)
    (prompt : Along call Prompt (start d) calls) :
    (exec call (start d) calls).device.isArgSent = true ↔ d.argBufLen.toNat + 1 ≤ calls.length := by
  have begins := Sends.start full nonempty first unsent
  cases calls with
  | nil => simp [exec, start, unsent]
  | cons inputs calls =>
    have zero : tripleOf inputs = [0, 0, 0] := by
      rcases echo.1 with zero | placed
      · exact zero
      · exact absurd placed List.not_mem_nil
    have idle : (echoOf inputs).1 = 0 := by
      simp only [tripleOf, List.cons.injEq] at zero
      simp [echoOf, zero.1, zero.2.1, word]
    -- The first call places the first triple, so from then on every call answers the sender.
    have follows : Along (Sender.receive d.argBuf) (Sender.Prompt d.argBuf) Sender.start (calls.map echoOf) := by
      have ignored : Sender.start.receive d.argBuf (echoOf inputs) = Sender.start :=
        if_neg fun waited => absurd (idle.symm.trans waited.1) (by decide)
      have sends := begins.call inputs
      rw [ignored] at sends
      refine Along.simulates (R := fun t s => Sends d.argBuf t s ∧ (t.device.isArgSent = false →
          t.placed.getLast? = some (t.device.argTriple t.device.sendingArgBufIdx)))
        (fun t s inputs related => ⟨related.1.call inputs, placed_call t inputs⟩)
        (fun t s inputs related => related.1.prompt related.2) ⟨sends, placed_call _ inputs⟩ prompt.2
    have final := exec_simulates (fun t s inputs => Sends.call inputs) begins (inputs :: calls)
    rw [← final.done, List.map_cons, Sender.exec_prompt_start (by omega) idle follows]
    simp [full]

/-- Soundness of the transfer: the index stays in range and advances by single steps, all
arguments are confirmed only after all of them have come back in order, and a prompt
transfer ends with the call after the last argument. -/
theorem transfer_sound (d : SlaveDevice β) (full : d.argBuf.length = d.argBufLen.toNat)
    (nonempty : 1 ≤ d.argBufLen.toNat) (first : d.sendingArgBufIdx = 1) (unsent : d.isArgSent = false)
    (calls : List (ByteVec UInt8)) (echo : Along call Echo (start d) calls) :
    Along call (Advances d.argBufLen.toNat) (start d) calls ∧
    ((exec call (start d) calls).device.isArgSent = true →
      d.argTriples.Sublist (exec call (start d) calls).seen) ∧
    (Along call Prompt (start d) calls →
      ((exec call (start d) calls).device.isArgSent = true ↔ d.argBufLen.toNat + 1 ≤ calls.length)) := by
  have begins := Sends.start full nonempty first unsent
  refine ⟨?_, ?_, prompt_transfer d full nonempty first unsent calls echo⟩
  · rw [← full]
    exact along_of_invariant (I := fun t => ∃ s, Sends d.argBuf t s) ⟨_, begins⟩
      (fun t inputs ⟨s, sends⟩ => ⟨_, sends.call inputs⟩) (fun t inputs ⟨s, sends⟩ => sends.advances inputs)
  · intro sent
    have final := exec_simulates (fun t s inputs => Sends.call inputs) begins calls
    have done := final.done.trans sent
    have confirmed := @Sender.acknowledged_sublist _ _ d.argBuf (by omega) (calls.map echoOf)
    have count : (exec (Sender.receive d.argBuf) Sender.start (calls.map echoOf)).acknowledged =
        (Sender.frames d.argBuf).length := by
      rw [Sender.acknowledged, if_pos done, final.range.last done]
      simp [Sender.frames]
    rw [count, List.take_length] at confirmed
    rw [seen_exec, argTriples_eq d full]
    have bytes := confirmed.map bytesOf
    simpa [start, List.map_map, Function.comp_def, bytesOf_echoOf] using bytes

def threeArgs : SlaveDevice UInt8 := { (new : SlaveDevice UInt8) with argBuf := [7, 18, 9], argBufLen := 3 }

def inputBuf (bytes : List UInt8) : ByteVec UInt8 := ⟨bytes, 0, Nat.zero_le _⟩

/-- Echoes that come late, come again or come back after newer ones. -/
def delayedCalls : List (ByteVec UInt8) :=
  [[0, 0, 0], [0, 0, 0], [1, 0, 7], [1, 0, 7], [0, 0, 0], [2, 0, 18], [1, 0, 7], [2, 0, 18], [3, 0, 9], [2, 0, 18]].map inputBuf

/-- Each call sees the triple of the call before. -/
def promptCalls : List (ByteVec UInt8) := [[0, 0, 0], [1, 0, 7], [2, 0, 18], [3, 0, 9]].map inputBuf

theorem transfer_sound_three :
    (Along call (Advances 3) (start threeArgs) delayedCalls ∧
      [[1, 0, 7], [2, 0, 18], [3, 0, 9]].Sublist (exec call (start threeArgs) delayedCalls).seen) ∧
    (exec call (start threeArgs) (promptCalls.take 3)).device.isArgSent = false ∧
    (exec call (start threeArgs) promptCalls).device.isArgSent = true := by
  have delayed := transfer_sound threeArgs rfl (by decide) rfl rfl delayedCalls (by decide)
  have early := transfer_sound threeArgs rfl (by decide) rfl rfl (promptCalls.take 3) (by decide)
  have prompt := transfer_sound threeArgs rfl (by decide) rfl rfl promptCalls (by decide)
  refine ⟨⟨delayed.1, delayed.2.1 (by decide)⟩, ?_, ?_⟩
  · exact Bool.eq_false_iff.mpr fun sent => absurd ((early.2.2 (by decide)).mp sent) (by decide)
  · exact (prompt.2.2 (by decide)).mpr (by decide)

end Transfer

end EcatMaster.Slave
