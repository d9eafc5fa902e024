import EcatMaster.Library.Progress
import EcatMaster.Slave.ArgTransfer
import EcatMaster.Slave.Commands
import EcatMaster.Slave.StatusByte

/-! A slave comes into work.

The slave is a parameter: in argument mode it sends back the triple that it has got and is
ready with the last one, afterwards it confirms. Output and input frames may be lost or
late, so a cycle reads the answer to any of the frames that were transferred before. A good
cycle reads the answer to the last one.
-/

set_option autoImplicit false

namespace EcatMaster.Slave
open Library Config Tasks Io SlaveDevice

/-- What the master relies on: how a slave with this number of arguments answers a frame,
whatever else it sends. -/
structure Protocol (count : UInt16) (slave : Frame → List UInt8 → Inputs) : Prop where
  echo : ∀ frame data, frame.status = MASTER_SENDING_ARGUMENTS →
    frame.data.take 3 <+: (slave frame data).data
  asks : ∀ frame data, frame.status = MASTER_SENDING_ARGUMENTS → frame.data.take 2 = uint16Bytes count →
    (slave frame data).status = SLAVE_READY
  waits : ∀ frame data, frame.status = MASTER_SENDING_ARGUMENTS → (slave frame data).status ≠ SLAVE_CONFIRM_READY
  confirms : ∀ frame data, frame.status = MASTER_READY → (slave frame data).status = SLAVE_CONFIRM_READY

/-- What is read from a slave that has got these frames, the last one first. The input bytes are 0
until the slave has answered. -/
def answer (slave : Frame → List UInt8 → Inputs) (frames : List Frame) (len age : Nat) (data : List UInt8) : Inputs :=
  match frames[age]? with
  | none => ⟨SLAVE_INITIALIZING, List.replicate len 0⟩
  | some frame => slave frame data

/-- A data cycle, with the frame that its inputs answer: 0 for the last one, 1 for the one before. -/
structure Turn where
  beforeReceive : List (Nat × CommandMessage)
  beforeProcess : List (Nat × CommandMessage)
  beforeTransfer : List (Nat × CommandMessage)
  currentTime : Int
  age : Nat
  data : List UInt8
  deriving DecidableEq

def Turn.good (t : Turn) : Bool := t.age == 0

/-- A device and the frames that were transferred to its slave, the last one first. -/
structure Booting where
  device : SlaveDevice UInt8
  frames : List Frame

namespace Booting

def inputs (slave : Frame → List UInt8 → Inputs) (b : Booting) (t : Turn) : Inputs :=
  answer slave b.frames b.device.slaveToMasterBufLen.toNat t.age t.data

def cycle (slave : Frame → List UInt8 → Inputs) (b : Booting) (t : Turn) : Cycle :=
  ⟨t.beforeReceive, b.inputs slave t, t.beforeProcess, t.currentTime, t.beforeTransfer⟩

def next (data : ConfigurationParser) (slave : Frame → List UInt8 → Inputs) (b : Booting) (t : Turn) : Booting :=
  let device := exec (SlaveDevice.next data) b.device (b.cycle slave t).steps
  ⟨device, device.transferToSlave :: b.frames⟩

def start (d : SlaveDevice UInt8) : Booting := ⟨d, []⟩

end Booting

namespace SlaveDevice

def found (d : SlaveDevice UInt8) (inputs : Inputs) (buf : ByteVec UInt8) : SlaveDevice UInt8 :=
  { d with
    slaveStatus := inputs.status
    slaveToMasterBuf := d.slaveToMasterBuf.copyIn 0 (inputs.data.take d.slaveToMasterBufLen.toNat)
    masterToSlaveBuf := buf }

theorem cycle_found (data : ConfigurationParser) (d : SlaveDevice UInt8) (c : Cycle) :
    ∃ buf : ByteVec UInt8, buf.storage.length = d.masterToSlaveBuf.storage.length ∧
      exec (next data) d c.steps =
        let p := ((d.found c.inputs buf).process c.currentTime).1
        { p with masterToSlaveBuf := p.masterToSlaveBuf.copyAll (p.commandsWrites c.beforeTransfer) } := by
  refine ⟨(d.masterToSlaveBuf.copyAll (d.commandsWrites c.beforeReceive)).copyAll
    (d.commandsWrites c.beforeProcess), ?_, ?_⟩
  · simp
  · rw [Cycle.steps, exec_append, exec_commandSteps, exec, exec_append, exec_commandSteps, exec, exec_append,
      exec_commandSteps]
    rfl

theorem pass_unconfirmed {d : SlaveDevice UInt8} (sending : d.sending = true) (waiting : d.isReady = false)
    (early : d.slaveStatus ≠ SLAVE_CONFIRM_READY) (more : d.lastEchoed = false) :
    d.readyAfter = false ∧ d.argSentAfter = false ∧ d.statusAfter = MASTER_SENDING_ARGUMENTS ∧
      d.bufferAfter = d.masterToSlaveBuf.copyIn 0 (d.argTriple d.nextArgIdx) := by
  have mode : d.masterStatus = MASTER_SENDING_ARGUMENTS ∧ d.isArgSent = false := by
    simpa only [SlaveDevice.sending, Bool.and_eq_true, beq_iff_eq, Bool.not_eq_true'] using sending
  have idle : d.readyAfter = false := by simp [readyAfter, waiting, early]
  have unsent : d.argSentAfter = false := by simp [argSentAfter, mode.2, more]
  have passed : d.handshakes = false := by simp [handshakes, unsent]
  refine ⟨idle, unsent, ?_, ?_⟩
  · simp [statusAfter, counts, statusBefore, idle, passed, mode.1]
  · have stores : d.sendingWrites = [(0, d.argTriple d.nextArgIdx)] := by
      simp only [sendingWrites, argWrites, sending, if_true, mode.2, more, Bool.or_self, Bool.false_eq_true, if_false]
      rfl
    rw [bufferAfter, passed, stores]
    rfl

theorem pass_confirmed {d : SlaveDevice UInt8} (sending : d.sending = true) (waiting : d.isReady = false)
    (asks : d.slaveStatus = SLAVE_READY) (last : d.lastEchoed = true) :
    d.readyAfter = false ∧ d.argSentAfter = true ∧ d.statusAfter = MASTER_READY := by
  have idle : d.readyAfter = false := by
    rw [readyAfter, waiting, asks]
    rfl
  have sent : d.argSentAfter = true := by simp [argSentAfter, sending, last]
  have taken : d.handshakes = true := by simp [handshakes, idle, sent, asks]
  exact ⟨idle, sent, handshakes_statusAfter taken⟩

end SlaveDevice

namespace Booting
open SlaveDevice

structure Fits (d : SlaveDevice UInt8) : Prop where
  configured : d.isConfigured = true
  nonempty : 1 ≤ d.argBufLen.toNat
  outputs : 3 ≤ d.masterToSlaveBufLen.toNat
  inputs : 3 ≤ d.slaveToMasterBufLen.toNat
  allocated : d.Allocated
  received : d.slaveToMasterBufLen.toNat ≤ d.slaveToMasterBuf.storage.length

theorem inputTriple_received {d : SlaveDevice UInt8} (fits : Fits d) {inputs : Inputs}
    {a b c : UInt8} {rest : List UInt8} (received : inputs.data = a :: b :: c :: rest) :
    (d.receiveFromSlave inputs).inputTriple = [a, b, c] := by
  have room := fits.inputs
  have storage := fits.received
  have byte : ∀ i < 3, (d.receiveFromSlave inputs).inputByte i = (a :: b :: c :: rest)[i]?.getD 0 := by
    intro i low
    simp only [inputByte, receiveFromSlave, ByteVec.storage_copyIn, received]
    rw [getElem?_overwrite_inside _ _ _ _ (Nat.zero_le i) _ (by omega), Nat.sub_zero, List.getElem?_take_of_lt (by omega)]
    simp only [List.length_take, List.length_cons]
    omega
  rw [inputTriple, byte 0 (by omega), byte 1 (by omega), byte 2 (by omega)]
  rfl

structure Offers (d : SlaveDevice UInt8) (idx : UInt16) (frame : Frame) : Prop where
  status : frame.status = MASTER_SENDING_ARGUMENTS
  triple : frame.data.take 3 = d.argTriple idx

theorem Offers.index {d : SlaveDevice UInt8} {idx : UInt16} {frame : Frame} (offers : Offers d idx frame) :
    frame.data.take 2 = uint16Bytes idx := by
  have two : frame.data.take 2 = (frame.data.take 3).take 2 := by rw [List.take_take, Nat.min_eq_left (by omega)]
  rw [two, offers.triple, argTriple_eq]
  rfl

theorem argTriple_inj {d : SlaveDevice UInt8} {idx other : UInt16} (same : d.argTriple idx = d.argTriple other) :
    idx = other := by
  rw [argTriple_eq, argTriple_eq] at same
  exact (uint16Bytes_separates same).1

inductive Phase (b : Booting) : Prop where
  | sending (status : b.device.masterStatus = MASTER_SENDING_ARGUMENTS) (unsent : b.device.isArgSent = false)
      (low : 1 ≤ b.device.sendingArgBufIdx.toNat)
      (high : b.device.sendingArgBufIdx.toNat ≤ b.device.argBufLen.toNat)
      (earlier : ∀ frame ∈ b.frames, ∃ idx ≤ b.device.sendingArgBufIdx, Offers b.device idx frame)
      (last : ∀ frame, b.frames.head? = some frame → Offers b.device b.device.sendingArgBufIdx frame)
  | confirming (status : b.device.masterStatus = MASTER_READY) (sent : b.device.isArgSent = true)
      (earlier : ∀ frame ∈ b.frames, frame.status = MASTER_SENDING_ARGUMENTS ∨ frame.status = MASTER_READY)
      (last : b.frames.head?.map Frame.status = some MASTER_READY)

structure Starting (b : Booting) : Prop where
  fits : Fits b.device
  waiting : b.device.isReady = false
  phase : Phase b

/-- The slave works and the device keeps it so. -/
structure Working (b : Booting) : Prop where
  ready : b.device.isReady = true
  sent : b.device.isArgSent = true
  status : MASTER_READY ≤ b.device.masterStatus

def left (b : Booting) : Nat :=
  if b.device.isArgSent then 0
  else b.device.argBufLen.toNat - b.device.sendingArgBufIdx.toNat + 1 + (if b.frames = [] then 1 else 0)

/-- While arguments are sent, no command reaches the triple after the processing block. -/
def Undisturbed (b : Booting) (t : Turn) : Prop :=
  b.device.isArgSent = false → ∀ write ∈ b.device.commandsWrites t.beforeTransfer, 3 ≤ write.1

instance (b : Booting) (t : Turn) : Decidable (b.Undisturbed t) := inferInstanceAs (Decidable (_ → ∀ _ ∈ _, _))

section Slave
variable {slave : Frame → List UInt8 → Inputs} {b : Booting} {t : Turn}

theorem heard_sending (fits : Fits b.device) (protocol : Protocol b.device.argBufLen slave)
    (low : 1 ≤ b.device.sendingArgBufIdx.toNat)
    (earlier : ∀ frame ∈ b.frames, ∃ idx ≤ b.device.sendingArgBufIdx, Offers b.device idx frame)
    (last : ∀ frame, b.frames.head? = some frame → Offers b.device b.device.sendingArgBufIdx frame) :
    (b.inputs slave t).status ≠ SLAVE_CONFIRM_READY ∧
      ((b.device.receiveFromSlave (b.inputs slave t)).echoed = false ∧ (t.good = true → b.frames = []) ∨
        (b.device.receiveFromSlave (b.inputs slave t)).echoed = true ∧
          (b.device.sendingArgBufIdx = b.device.argBufLen → (b.inputs slave t).status = SLAVE_READY)) := by
  cases answered : b.frames[t.age]? with
  | none =>
    have zeros : (b.inputs slave t).data = 0 :: 0 :: 0 :: List.replicate (b.device.slaveToMasterBufLen.toNat - 3) 0 := by
      obtain ⟨more, length⟩ := Nat.exists_eq_add_of_le' fits.inputs
      simp [inputs, answer, answered, length, List.replicate_succ]
    refine ⟨?_, Or.inl ⟨?_, ?_⟩⟩
    · simp only [inputs, answer, answered]
      decide
    · rw [Bool.eq_false_iff, Ne, echoed_iff, inputTriple_received fits zeros, argTriple_eq]
      intro same
      have zero : uint16Bytes 0 ++ [0] = uint16Bytes b.device.sendingArgBufIdx ++ [_] := same
      rw [← (uint16Bytes_separates zero).1] at low
      exact absurd low (by decide)
    · intro good
      rw [Turn.good, beq_iff_eq] at good
      simpa [good] using answered
  | some frame =>
    obtain ⟨idx, notLater, offers⟩ := earlier frame (List.mem_of_getElem? answered)
    have heard : b.inputs slave t = slave frame t.data := by simp only [inputs, answer, answered]
    have triple : (b.device.receiveFromSlave (b.inputs slave t)).inputTriple = b.device.argTriple idx := by
      obtain ⟨rest, sent⟩ := protocol.echo frame t.data offers.status
      rw [offers.triple, ← heard] at sent
      exact inputTriple_received fits sent.symm
    refine ⟨heard ▸ protocol.waits frame t.data offers.status, ?_⟩
    by_cases current : idx = b.device.sendingArgBufIdx
    · refine Or.inr ⟨?_, ?_⟩
      · rw [echoed_iff, triple, current]
        rfl
      · intro final
        rw [heard]
        apply protocol.asks frame t.data offers.status
        rw [offers.index, current, final]
    · refine Or.inl ⟨?_, ?_⟩
      · rw [Bool.eq_false_iff, Ne, echoed_iff, triple]
        exact fun same => current (argTriple_inj same)
      · intro good
        rw [Turn.good, beq_iff_eq] at good
        rw [good, ← List.head?_eq_getElem?] at answered
        have same := (last frame answered).triple.symm.trans offers.triple
        exact absurd (argTriple_inj same).symm current

theorem heard_confirming (protocol : Protocol b.device.argBufLen slave)
    (earlier : ∀ frame ∈ b.frames, frame.status = MASTER_SENDING_ARGUMENTS ∨ frame.status = MASTER_READY)
    (last : b.frames.head?.map Frame.status = some MASTER_READY) :
    (b.inputs slave t).status = SLAVE_CONFIRM_READY ∨
      (b.inputs slave t).status ≠ SLAVE_CONFIRM_READY ∧ t.good = false := by
  have latest : t.good = true → (b.frames[t.age]?).map Frame.status = some MASTER_READY := by
    intro good
    rw [Turn.good, beq_iff_eq] at good
    rwa [good, ← List.head?_eq_getElem?]
  cases answered : b.frames[t.age]? with
  | none =>
    rw [answered] at latest
    refine Or.inr ⟨?_, Bool.eq_false_iff.mpr fun good => absurd (latest good) (by simp)⟩
    simp only [inputs, answer, answered]
    decide
  | some frame =>
    rw [answered] at latest
    have heard : b.inputs slave t = slave frame t.data := by simp only [inputs, answer, answered]
    rw [heard]
    rcases earlier frame (List.mem_of_getElem? answered) with sending | ready
    · refine Or.inr ⟨protocol.waits frame t.data sending, Bool.eq_false_iff.mpr fun good => ?_⟩
      have same := Option.some.inj (latest good)
      rw [sending] at same
      exact absurd same (by decide)
    · exact Or.inl (protocol.confirms frame t.data ready)

theorem next_eq (data : ConfigurationParser) (slave : Frame → List UInt8 → Inputs) (t : Turn)
    (configured : b.device.isConfigured = true) :
    ∃ buf : ByteVec UInt8, buf.storage.length = b.device.masterToSlaveBuf.storage.length ∧
      let p := b.device.found (b.inputs slave t) buf
      (b.next data slave t).device = { p with
        isReady := p.readyAfter
        isArgSent := p.argSentAfter
        sendingArgBufIdx := p.argIdxAfter
        masterStatus := p.statusAfter
        masterToSlaveBuf := p.bufferAfter.copyAll (b.device.commandsWrites t.beforeTransfer)
        currentDataStamp := if p.counts then p.lastLatencyCheckPacketSendTime else p.currentDataStamp
        lastLatencyCheckPacketSendTime := if p.counts then t.currentTime else p.lastLatencyCheckPacketSendTime } := by
  obtain ⟨buf, extent, after⟩ := SlaveDevice.cycle_found data b.device (b.cycle slave t)
  refine ⟨buf, extent, ?_⟩
  have processed : (b.device.found (b.inputs slave t) buf).isConfigured = true := configured
  rw [Booting.next, after, Booting.cycle, process_eq _ _ processed]
  rfl

theorem next_fits (data : ConfigurationParser) (slave : Frame → List UInt8 → Inputs) (t : Turn) (fits : Fits b.device) :
    Fits (b.next data slave t).device := by
  obtain ⟨buf, extent, after⟩ := next_eq data slave t fits.configured
  rw [after]
  refine ⟨fits.configured, fits.nonempty, fits.outputs, fits.inputs, ?_, ?_⟩
  · rw [Allocated, ByteVec.storage_copyAll, length_overwriteAll, (bufferAfter_extent _).2]
    exact fits.allocated.trans_eq extent.symm
  · exact fits.received.trans_eq (length_overwrite _ _ _).symm

theorem argBufLen_next (data : ConfigurationParser) (slave : Frame → List UInt8 → Inputs) (t : Turn)
    (fits : Fits b.device) :
    (b.next data slave t).device.argBufLen = b.device.argBufLen := by
  obtain ⟨buf, _, after⟩ := next_eq data slave t fits.configured
  rw [after]
  rfl

theorem argTriple_next (data : ConfigurationParser) (slave : Frame → List UInt8 → Inputs) (t : Turn)
    (fits : Fits b.device) (idx : UInt16) :
    (b.next data slave t).device.argTriple idx = b.device.argTriple idx := by
  obtain ⟨buf, _, after⟩ := next_eq data slave t fits.configured
  rw [after]
  rfl

theorem Offers.next (data : ConfigurationParser) (fits : Fits b.device) {idx : UInt16}
    {frame : Frame} (offers : Offers b.device idx frame) : Offers (b.next data slave t).device idx frame :=
  ⟨offers.status, offers.triple.trans (argTriple_next data slave t fits idx).symm⟩

theorem take_transferred (triple : List UInt8) {storage : List UInt8} {len : Nat} {writes : List (Nat × List UInt8)}
    (room : triple.length ≤ storage.length) (covers : triple.length ≤ len)
    (behind : ∀ write ∈ writes, triple.length ≤ write.1) :
    (((overwriteAll (overwrite storage 0 triple) writes).take len).map Cell.byte).take triple.length = triple := by
  have kept := window_overwriteAll_apart (overwrite storage 0 triple) writes 0 triple.length
    fun write member => Or.inr (Or.inr (Or.inr ((Nat.zero_add _).trans_le (behind write member))))
  rw [window_overwrite_same _ _ _ (Or.inr (by simpa using room))] at kept
  rw [show (Cell.byte : UInt8 → UInt8) = id from rfl, List.map_id, List.take_take, Nat.min_eq_left covers]
  exact kept

theorem left_next {data : ConfigurationParser} (unsent : (b.next data slave t).device.isArgSent = false) :
    (b.next data slave t).left =
      (b.next data slave t).device.argBufLen.toNat - (b.next data slave t).device.sendingArgBufIdx.toNat + 1 := by
  rw [left, unsent]
  rfl

theorem next_asking (data : ConfigurationParser) (next : UInt16) (fits : Fits b.device)
    (waiting : b.device.isReady = false)
    (behind : ∀ write ∈ b.device.commandsWrites t.beforeTransfer, 3 ≤ write.1) (sending : b.device.sending = true)
    (earlier : ∀ frame ∈ b.frames, ∃ idx ≤ b.device.sendingArgBufIdx, Offers b.device idx frame)
    (early : (b.inputs slave t).status ≠ SLAVE_CONFIRM_READY)
    (more : (b.device.receiveFromSlave (b.inputs slave t)).lastEchoed = false)
    (index : (b.device.receiveFromSlave (b.inputs slave t)).nextArgIdx = next)
    (notBefore : b.device.sendingArgBufIdx ≤ next) (low : 1 ≤ next.toNat)
    (high : next.toNat ≤ b.device.argBufLen.toNat) :
    Starting (b.next data slave t) ∧ (b.next data slave t).left = b.device.argBufLen.toNat - next.toNat + 1 := by
  obtain ⟨buf, extent, after⟩ := next_eq data slave t fits.configured
  obtain ⟨idle, unsent, status, stored⟩ :=
    pass_unconfirmed (d := b.device.found (b.inputs slave t) buf) sending waiting early more
  have moved : (b.device.found (b.inputs slave t) buf).argIdxAfter = next := by
    rw [argIdxAfter, show (b.device.found (b.inputs slave t) buf).sending = true from sending, if_pos rfl]
    exact index
  rw [show (b.device.found (b.inputs slave t) buf).nextArgIdx = next from index] at stored
  simp only [idle, unsent, status, stored, moved] at after
  have asked : Offers (b.next data slave t).device next (b.next data slave t).device.transferToSlave := by
    refine ⟨by rw [after]; rfl, ?_⟩
    rw [argTriple_next data slave t fits, after]
    have room := fits.allocated
    have outputs := fits.outputs
    rw [Allocated, ← extent] at room
    exact take_transferred (b.device.argTriple next) (Nat.le_trans outputs room) outputs behind
  refine ⟨⟨next_fits data slave t fits, by rw [after], ?_⟩, ?_⟩
  · refine .sending (by rw [after]) (by rw [after]) (by rwa [after]) (by rwa [after]) ?_ ?_
    · intro frame member
      rcases List.mem_cons.mp member with rfl | before
      · exact ⟨next, by rw [after]; exact UInt16.le_refl _, asked⟩
      · obtain ⟨idx, notLater, offers⟩ := earlier frame before
        exact ⟨idx, by rw [after]; exact UInt16.le_trans notLater notBefore, offers.next data fits⟩
    · intro frame first
      cases first
      rw [show (b.next data slave t).device.sendingArgBufIdx = next by rw [after]]
      exact asked
  · rw [left_next (by rw [after]), after]
    rfl

theorem next_confirmed (data : ConfigurationParser) (fits : Fits b.device) (waiting : b.device.isReady = false)
    (sending : b.device.sending = true)
    (earlier : ∀ frame ∈ b.frames, ∃ idx ≤ b.device.sendingArgBufIdx, Offers b.device idx frame)
    (asks : (b.inputs slave t).status = SLAVE_READY)
    (last : (b.device.receiveFromSlave (b.inputs slave t)).lastEchoed = true) :
    Starting (b.next data slave t) ∧ (b.next data slave t).left = 0 := by
  obtain ⟨buf, extent, after⟩ := next_eq data slave t fits.configured
  obtain ⟨idle, sent, status⟩ := pass_confirmed (d := b.device.found (b.inputs slave t) buf) sending waiting asks last
  simp only [idle, sent, status] at after
  have readied : (b.next data slave t).device.transferToSlave.status = MASTER_READY := by
    rw [after]
    rfl
  refine ⟨⟨next_fits data slave t fits, by rw [after], ?_⟩, ?_⟩
  · refine .confirming (by rw [after]) (by rw [after]) ?_ (congrArg some readied)
    intro frame member
    rcases List.mem_cons.mp member with rfl | before
    · exact Or.inr readied
    · obtain ⟨idx, _, offers⟩ := earlier frame before
      exact Or.inl offers.status
  · rw [left, show (b.next data slave t).device.isArgSent = true by rw [after]]
    rfl

theorem next_sending (data : ConfigurationParser) (fits : Fits b.device)
    (protocol : Protocol b.device.argBufLen slave)
    (waiting : b.device.isReady = false) (undisturbed : b.Undisturbed t)
    (status : b.device.masterStatus = MASTER_SENDING_ARGUMENTS) (unsent : b.device.isArgSent = false)
    (low : 1 ≤ b.device.sendingArgBufIdx.toNat) (high : b.device.sendingArgBufIdx.toNat ≤ b.device.argBufLen.toNat)
    (earlier : ∀ frame ∈ b.frames, ∃ idx ≤ b.device.sendingArgBufIdx, Offers b.device idx frame)
    (last : ∀ frame, b.frames.head? = some frame → Offers b.device b.device.sendingArgBufIdx frame) :
    Starting (b.next data slave t) ∧ (b.next data slave t).left + t.good.toNat ≤ b.left := by
  have sending : b.device.sending = true := by simp [SlaveDevice.sending, status, unsent]
  obtain ⟨early, ends⟩ := heard_sending (t := t) fits protocol low earlier last
  have before : b.left = b.device.argBufLen.toNat - b.device.sendingArgBufIdx.toNat + 1 +
      (if b.frames = [] then 1 else 0) := by
    rw [left, unsent]
    rfl
  have turns : t.good.toNat ≤ 1 := Bool.toNat_le _
  rcases ends with ⟨unheard, stale⟩ | ⟨heard, answer⟩
  · -- The same triple is sent once more.
    have asked := next_asking data b.device.sendingArgBufIdx fits waiting (undisturbed unsent) sending earlier early
      (by simp [lastEchoed, unheard]) (by rw [nextArgIdx, unheard]; rfl) (UInt16.le_refl _) low high
    refine ⟨asked.1, ?_⟩
    rw [asked.2, before]
    cases good : t.good with
    | false => simp
    | true => simp [stale good]
  · by_cases final : b.device.sendingArgBufIdx = b.device.argBufLen
    · have confirmed := next_confirmed data fits waiting sending earlier (answer final)
        (by rw [lastEchoed, heard]; simpa [receiveFromSlave] using final)
      exact ⟨confirmed.1, by omega⟩
    · have bound := b.device.argBufLen.toNat_lt
      have apart := mt UInt16.toNat_inj.mp final
      have moved : (b.device.sendingArgBufIdx + 1).toNat = b.device.sendingArgBufIdx.toNat + 1 := by
        rw [UInt16.toNat_add]
        exact Nat.mod_eq_of_lt (by simp; omega)
      have asked := next_asking data (b.device.sendingArgBufIdx + 1) fits waiting (undisturbed unsent) sending earlier
        early (by rw [lastEchoed, heard]; simpa [receiveFromSlave] using final)
        (by rw [nextArgIdx, heard]; simp [receiveFromSlave, final])
        (by rw [UInt16.le_iff_toNat_le]; omega) (by omega) (by omega)
      exact ⟨asked.1, by omega⟩

theorem next_confirming (data : ConfigurationParser) (fits : Fits b.device)
    (protocol : Protocol b.device.argBufLen slave)
    (waiting : b.device.isReady = false) (status : b.device.masterStatus = MASTER_READY)
    (sent : b.device.isArgSent = true)
    (earlier : ∀ frame ∈ b.frames, frame.status = MASTER_SENDING_ARGUMENTS ∨ frame.status = MASTER_READY)
    (last : b.frames.head?.map Frame.status = some MASTER_READY) :
    Working (b.next data slave t) ∨ Starting (b.next data slave t) ∧ (b.next data slave t).left + t.good.toNat ≤ b.left := by
  obtain ⟨buf, extent, after⟩ := next_eq data slave t fits.configured
  have sentAfter : (b.device.found (b.inputs slave t) buf).argSentAfter = true := by
    rw [argSentAfter, show (b.device.found (b.inputs slave t) buf).isArgSent = true from sent]
    rfl
  rcases heard_confirming protocol earlier last (t := t) with confirms | ⟨other, stale⟩
  · have readied : (b.device.found (b.inputs slave t) buf).readyAfter = true := by
      rw [readyAfter, show (b.device.found (b.inputs slave t) buf).slaveStatus = _ from confirms]
      simp
    have counted := statusAfter_ready (d := b.device.found (b.inputs slave t) buf) (UInt8.le_of_eq status.symm)
    exact Or.inl ⟨by rw [after]; exact readied, by rw [after]; exact sentAfter, by rw [after]; exact counted⟩
  · have idle : (b.device.found (b.inputs slave t) buf).readyAfter = false := by
      rw [readyAfter, show (b.device.found (b.inputs slave t) buf).isReady = false from waiting, Bool.false_or,
        beq_eq_false_iff_ne]
      exact other
    have same : (b.device.found (b.inputs slave t) buf).statusAfter = MASTER_READY := by
      have byte : (b.device.found (b.inputs slave t) buf).masterStatus = MASTER_READY := status
      simp [statusAfter, counts, statusBefore, idle, byte]
    simp only [idle, sentAfter, same] at after
    have readied : (b.next data slave t).device.transferToSlave.status = MASTER_READY := by
      rw [after]
      rfl
    refine Or.inr ⟨⟨next_fits data slave t fits, by rw [after], ?_⟩, ?_⟩
    · refine .confirming (by rw [after]) (by rw [after]) ?_ (congrArg some readied)
      intro frame member
      rcases List.mem_cons.mp member with rfl | before
      · exact Or.inr readied
      · exact earlier frame before
    · rw [left, left, show (b.next data slave t).device.isArgSent = true by rw [after], sent, stale]
      rfl

theorem next_working (data : ConfigurationParser) (slave : Frame → List UInt8 → Inputs) (t : Turn)
    (fits : Fits b.device) (working : Working b) :
    Working (b.next data slave t) := by
  obtain ⟨buf, extent, after⟩ := next_eq data slave t fits.configured
  have counted := statusAfter_ready (d := b.device.found (b.inputs slave t) buf) working.status
  refine ⟨?_, ?_, by rw [after]; exact counted⟩
  · rw [after, readyAfter, show (b.device.found (b.inputs slave t) buf).isReady = true from working.ready]
    rfl
  · rw [after, argSentAfter, show (b.device.found (b.inputs slave t) buf).isArgSent = true from working.sent]
    rfl

theorem start_fits {data : ConfigurationParser} {d : SlaveDevice UInt8} (configured : Configured data d)
    (nonempty : 1 ≤ d.argBufLen.toNat) (outputs : 3 ≤ d.masterToSlaveBufLen.toNat)
    (inputs : 3 ≤ d.slaveToMasterBufLen.toNat) : Fits d := by
  refine ⟨?_, nonempty, outputs, inputs, configured_allocated configured, ?_⟩
  all_goals obtain ⟨call, sn, sdoLen, argBuf, taskList, _, _, rfl⟩ := configured_eq configured
  · rfl
  · exact ByteVec.le_storage_resize _ _ _

theorem start_starting {data : ConfigurationParser} {d : SlaveDevice UInt8} (configured : Configured data d)
    (fits : Fits d) : Starting (start d) ∧ (start d).left = d.argBufLen.toNat + 1 := by
  obtain ⟨call, sn, sdoLen, argBuf, taskList, _, _, rfl⟩ := configured_eq configured
  have nonempty : 1 ≤ sdoLen.toNat := fits.nonempty
  have arguments : sdoLen ≠ 0 := by
    rintro rfl
    exact absurd nonempty (by decide)
  refine ⟨⟨fits, rfl, ?_⟩, ?_⟩
  · refine .sending (if_neg arguments) rfl (Nat.le_refl 1) nonempty ?_ ?_
    · intro frame member
      cases member
    · intro frame first
      cases first
  · change sdoLen.toNat - 1 + 1 + 1 = sdoLen.toNat + 1
    rw [Nat.sub_add_cancel nonempty]

theorem next_boots (data : ConfigurationParser) (starting : Starting b) (protocol : Protocol b.device.argBufLen slave)
    (undisturbed : b.Undisturbed t) :
    Working (b.next data slave t) ∨ Starting (b.next data slave t) ∧ (b.next data slave t).left + t.good.toNat ≤ b.left := by
  obtain ⟨fits, waiting, phase⟩ := starting
  rcases phase with ⟨status, unsent, low, high, earlier, last⟩ | ⟨status, sent, earlier, last⟩
  · exact Or.inr (next_sending data fits protocol waiting undisturbed status unsent low high earlier last)
  · exact next_confirming data fits protocol waiting status sent earlier last

structure Boots (count : UInt16) (b : Booting) : Prop where
  fits : Fits b.device
  count_eq : b.device.argBufLen = count
  stage : Starting b ∨ Working b

theorem boots_next (data : ConfigurationParser) {count : UInt16} (boots : Boots count b)
    (protocol : Protocol count slave)
    (undisturbed : b.Undisturbed t) : Boots count (b.next data slave t) where
  fits := next_fits data slave t boots.fits
  count_eq := (argBufLen_next data slave t boots.fits).trans boots.count_eq
  stage := by
    rcases boots.stage with starting | working
    · rw [← boots.count_eq] at protocol
      exact (next_boots data starting protocol undisturbed).symm.imp_left And.left
    · exact Or.inr (next_working data slave t boots.fits working)

theorem starting_works {data : ConfigurationParser} (starting : Starting b)
    (protocol : Protocol b.device.argBufLen slave) {run : List Turn}
    (undisturbed : Along (Booting.next data slave) Undisturbed b run) (enough : b.left < run.countP Turn.good) :
    Working (exec (Booting.next data slave) b run) := by
  generalize count_eq : b.device.argBufLen = count at protocol
  have step : ∀ b t, Starting b ∧ b.device.argBufLen = count → b.Undisturbed t → ¬(Working b ∧ Fits b.device) →
      (Working (b.next data slave t) ∧ Fits (b.next data slave t).device) ∨
        (Starting (b.next data slave t) ∧ (b.next data slave t).device.argBufLen = count) ∧
          (b.next data slave t).left + t.good.toNat ≤ b.left := by
    rintro b t ⟨starting, count_eq⟩ apart _
    rw [← count_eq] at protocol ⊢
    rcases next_boots data starting protocol apart with working | ⟨others, lower⟩
    · exact Or.inl ⟨working, next_fits data slave t starting.fits⟩
    · exact Or.inr ⟨⟨others, argBufLen_next data slave t starting.fits⟩, lower⟩
  obtain ⟨first, rest, rfl, reached⟩ := Along.reaches step ⟨starting, count_eq⟩ undisturbed enough
  have stays : ∀ b t, Working b ∧ Fits b.device →
      Working (b.next data slave t) ∧ Fits (b.next data slave t).device :=
    fun b t ⟨working, fits⟩ => ⟨next_working data slave t fits working, next_fits data slave t fits⟩
  rw [exec_append]
  exact (exec_invariant (I := fun b => Working b ∧ Fits b.device) reached stays).1

theorem next_waits (data : ConfigurationParser) (t : Turn) (starting : Starting b)
    (protocol : Protocol b.device.argBufLen slave)
    (unsent : b.device.isArgSent = false) : (b.next data slave t).device.isReady = false := by
  obtain ⟨fits, waiting, phase⟩ := starting
  rcases phase with ⟨status, unsent, low, high, earlier, last⟩ | ⟨_, sent, _, _⟩
  · obtain ⟨buf, _, after⟩ := next_eq data slave t fits.configured
    have early := (heard_sending (t := t) fits protocol low earlier last).1
    have heard : (b.device.found (b.inputs slave t) buf).slaveStatus ≠ SLAVE_CONFIRM_READY := early
    have idle : (b.device.found (b.inputs slave t) buf).isReady = false := waiting
    rw [after]
    simp [readyAfter, heard, idle]
  · rw [unsent] at sent
    cases sent

/-- However many frames are lost or late, a device with `n` arguments has its slave in work
after `n + 2` cycles that read the answer to the last frame, and keeps it there. -/
theorem starts_up (data : ConfigurationParser) (d : SlaveDevice UInt8) (configured : Configured data d)
    (nonempty : 1 ≤ d.argBufLen.toNat) (outputs : 3 ≤ d.masterToSlaveBufLen.toNat)
    (inputs : 3 ≤ d.slaveToMasterBufLen.toNat) (slave : Frame → List UInt8 → Inputs)
    (protocol : Protocol d.argBufLen slave) (run : List Turn)
    (undisturbed : Along (Booting.next data slave) Undisturbed (start d) run)
    (enough : d.argBufLen.toNat + 2 ≤ run.countP Turn.good) :
    Working (exec (Booting.next data slave) (start d) run) := by
  obtain ⟨starting, measure⟩ := start_starting configured (start_fits configured nonempty outputs inputs)
  exact starting_works starting protocol undisturbed (by omega)

end Slave

def promptSlave (count : UInt16) (frame : Frame) (rest : List UInt8) : Inputs :=
  if frame.status = MASTER_SENDING_ARGUMENTS then
    ⟨if frame.data.take 2 = uint16Bytes count then SLAVE_READY else SLAVE_INITIALIZING, frame.data.take 3 ++ rest⟩
  else ⟨frame.status, rest⟩

theorem promptSlave_protocol (count : UInt16) : Protocol count (promptSlave count) where
  echo := fun frame rest sending => by
    rw [promptSlave, if_pos sending]
    exact List.prefix_append _ _
  asks := fun frame rest sending last => by
    rw [promptSlave, if_pos sending]
    exact if_pos last
  waits := fun frame rest sending => by
    rw [promptSlave, if_pos sending]
    split
    · exact (by decide : SLAVE_READY ≠ SLAVE_CONFIRM_READY)
    · exact (by decide : SLAVE_INITIALIZING ≠ SLAVE_CONFIRM_READY)
  confirms := fun frame rest ready => by
    rw [promptSlave, if_neg (by rw [ready]; decide), ready]
    rfl

/-- The frame after the first answer is lost, the answer after the second one is late. -/
def unevenTurns : List Turn :=
  [⟨[], [], [], 0, 0, []⟩, ⟨[], [], [], 1, 0, []⟩, ⟨[], [], [], 2, 1, []⟩, ⟨[], [], [], 3, 0, []⟩,
   ⟨[], [], [], 4, 2, []⟩, ⟨[], [], [], 5, 0, []⟩]

theorem starts_up_receiver :
    Working (exec (Booting.next receiverData (promptSlave 2)) (start (setUp receiverData boardCall)) unevenTurns) :=
  starts_up receiverData _ receiver_bytes_configured (by decide) (by decide) (by decide) (promptSlave 2)
    (promptSlave_protocol 2) unevenTurns (by decide) (by decide)

end Booting

end EcatMaster.Slave
