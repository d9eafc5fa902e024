import EcatMaster.Slave.Equations

/-! The vectors of a slave and the lengths that are recorded for them.

`init` clears both process data vectors once more after it has resized them, and the
operations go through `data()` or an unchecked `[]`. The indices that they use are
compared with the number of live elements, and with the storage.
-/

set_option autoImplicit false

namespace EcatMaster.Slave
open Library Config Tasks

/-- The vectors that the operations index. -/
inductive Vec where
  | masterToSlave
  | slaveToMaster
  | backup
  | arg
  deriving DecidableEq, Repr

structure Access where
  vec : Vec
  first : Int
  count : Nat
  deriving DecidableEq, Repr

def Access.Within (sizes : Vec → Nat) (access : Access) : Prop :=
  ∀ i < access.count, 0 ≤ access.first + i ∧ access.first + i < sizes access.vec

/-- The operations of a device: the steps of the threads and the call of `setup_ecat`. -/
inductive Operation where
  | initTaskList
  | step (s : Step)
  deriving DecidableEq

namespace SlaveDevice
variable {β : Type}

def liveSize (d : SlaveDevice β) : Vec → Nat
  | .masterToSlave => d.masterToSlaveBuf.size
  | .slaveToMaster => d.slaveToMasterBuf.size
  | .backup => d.masterToSlaveBufBackup.size
  | .arg => d.argBuf.length

def storageSize (d : SlaveDevice β) : Vec → Nat
  | .masterToSlave => d.masterToSlaveBuf.storage.length
  | .slaveToMaster => d.slaveToMasterBuf.storage.length
  | .backup => d.masterToSlaveBufBackup.storage.length
  | .arg => d.argBuf.length

/-- `memcpy` and `memset` on the whole command area. -/
def area (d : SlaveDevice β) (vec : Vec) : Access := ⟨vec, 0, d.masterToSlaveBufLen.toNat⟩

def restoreCopies (d : SlaveDevice β) : List Access :=
  if d.masterStatus = MASTER_READY then []
  else if d.reconnectedTimes = 0 then [d.area .masterToSlave]
  else if d.masterToSlaveBufBackup.size ≠ d.masterToSlaveBufLen.toNat then []
  else [d.area .masterToSlave, d.area .backup]

/-- The arrays that an operation copies or clears. -/
def copies (d : SlaveDevice β) : Step → List Access
  | .receiveFromSlave _ => [⟨.slaveToMaster, 0, d.slaveToMasterBufLen.toNat⟩]
  | .transferToSlave => [d.area .masterToSlave]
  -- The backup has been resized when it is filled.
  | .connectionLost => [d.area .backup, d.area .masterToSlave]
  | .exitReset => if d.isArgSent then [d.area .masterToSlave] else []
  | .process _ => if d.isConfigured && d.handshakes then d.restoreCopies else []
  | _ => []

/-- `send_arg`. The argument is read where the index has come back, and again for the next triple. -/
def sendArgElements (d : SlaveDevice β) : List Access :=
  [⟨.slaveToMaster, 1, 1⟩, ⟨.slaveToMaster, 0, 1⟩] ++
    (if Io.word (d.inputByte 0) (d.inputByte 1) = d.sendingArgBufIdx then
      [⟨.slaveToMaster, 2, 1⟩, ⟨.arg, d.sendingArgBufIdx.toNat - 1, 1⟩]
    else []) ++
    if d.isArgSent || d.lastEchoed then [] else [⟨.masterToSlave, 0, 3⟩, ⟨.arg, d.nextArgIdx.toNat - 1, 1⟩]

def initValueElements (d : SlaveDevice β) : List Access :=
  (d.taskList.filter fun task => task.body.hasSubscribers).map fun task =>
    ⟨.masterToSlave, task.pdowriteOffset.toNat, task.body.initBytes.length⟩

def initialises (d : SlaveDevice β) : Bool := d.masterStatus != MASTER_READY && d.reconnectedTimes == 0

/-- The elements that an operation indexes one by one. -/
def elements (d : SlaveDevice β) : Step → List Access
  | .process _ =>
    if d.isConfigured then
      (if d.sending then d.sendArgElements else []) ++
        if d.handshakes && d.initialises then d.initValueElements else []
    else []
  | .exitReset => if d.isArgSent then d.initValueElements else []
  | _ => []

def accesses (d : SlaveDevice β) : Operation → List Access
  | .initTaskList => []
  | .step s => d.copies s ++ d.elements s

theorem initTaskList_kept {data : ConfigurationParser} {d d' : SlaveDevice β} {done : Bool}
    (returned : initTaskList data d = .ok (done, d')) :
    d'.isEcatConfDone = d.isEcatConfDone ∧ d'.masterToSlaveBufLen = d.masterToSlaveBufLen ∧
      d'.masterToSlaveBuf = d.masterToSlaveBuf ∧ d'.slaveToMasterBufLen = d.slaveToMasterBufLen ∧
      d'.slaveToMasterBuf = d.slaveToMasterBuf := by
  rcases initTaskList_cases returned with ⟨_, _, _, rfl⟩ | ⟨_, _, _, _, _, _, _, _, rfl⟩
  · exact ⟨rfl, rfl, rfl, rfl, rfl⟩
  · exact ⟨rfl, rfl, rfl, rfl, rfl⟩

def StoresNothing (d : SlaveDevice β) : Prop :=
  ∀ task ∈ d.taskList, task.body.hasSubscribers = true → task.body.initBytes = []

end SlaveDevice

theorem Access.within_of_empty {access : Access} (sizes : Vec → Nat) (empty : access.count = 0) :
    access.Within sizes := by
  intro i inside
  omega

theorem Access.within_zero_iff {access : Access} {sizes : Vec → Nat} (zero : sizes access.vec = 0) :
    access.Within sizes ↔ access.count = 0 := by
  constructor
  · intro within
    by_contra positive
    have bound := within 0 (Nat.pos_of_ne_zero positive)
    omega
  · exact access.within_of_empty sizes

/-- The lengths that are registered for a module are 0, as for every unknown identifier. -/
def Unbuffered (eepId : UInt32) : Prop :=
  (registeredModule eepId).masterToSlaveBufLen = 0 ∧ (registeredModule eepId).slaveToMasterBufLen = 0

/-- A device and the module that the last accepted call of `init` has found. -/
structure Typed (β : Type) where
  device : SlaveDevice β
  eepId : UInt32

namespace Typed
variable {β : Type}
open SlaveDevice

def start : Typed β := ⟨new, 0⟩

structure Represented (r : Typed β) : Prop where
  masterToSlave : r.device.masterToSlaveBuf.size = r.device.masterToSlaveBufLen.toNat
  slaveToMaster : r.device.slaveToMasterBuf.size = r.device.slaveToMasterBufLen.toNat
  masterToSlaveLen : r.device.masterToSlaveBufLen = (registeredModule r.eepId).masterToSlaveBufLen
  slaveToMasterLen : r.device.slaveToMasterBufLen = (registeredModule r.eepId).slaveToMasterBufLen

/-- Only modules without buffers are accepted, `send_arg` is not called and no initial values are stored. -/
def WithoutBuffers (data : ConfigurationParser) (r : Typed β) : Operation → Prop
  | .step (.init call) => r.device.AcceptsBoard data call → Unbuffered call.eepId
  | .step (.process _) =>
    r.device.isConfigured = true →
      r.device.sending = false ∧ (r.device.handshakes = true → r.device.initialises = true → r.device.StoresNothing)
  | .step .exitReset => r.device.isEcatConfDone = true → r.device.isArgSent = true → r.device.StoresNothing
  | _ => True

section Cells
variable [Cell β] (data : ConfigurationParser)

def next (r : Typed β) : Operation → Typed β
  | .initTaskList =>
    match initTaskList data r.device with
    | .ok (_, device) => { r with device }
    -- The exception leaves `setup_ecat`, and the program ends.
    | .error _ => r
  | .step (.init call) =>
    ⟨SlaveDevice.next data r.device (.init call), if (r.device.init data call).1 then call.eepId else r.eepId⟩
  | .step s => { r with device := SlaveDevice.next data r.device s }

/-- Once the slave is configured, the vectors are represented after the operation and all indices
that it uses are those of live elements. -/
def KeepsRepresented (r : Typed β) (op : Operation) : Prop :=
  (r.next data op).device.isEcatConfDone = true →
    (r.next data op).Represented ∧ ∀ access ∈ r.device.accesses op, access.Within (r.next data op).device.liveSize

omit [Cell β] in
structure Empty (r : Typed β) : Prop where
  masterToSlave : r.device.masterToSlaveBuf.size = 0
  slaveToMaster : r.device.slaveToMasterBuf.size = 0
  masterToSlaveLen : r.device.masterToSlaveBufLen = 0
  slaveToMasterLen : r.device.slaveToMasterBufLen = 0
  unbuffered : r.device.isEcatConfDone = true → Unbuffered r.eepId

omit [Cell β] in
theorem represented_of_empty {r : Typed β} (empty : r.Empty) (done : r.device.isEcatConfDone = true) :
    r.Represented where
  masterToSlave := by rw [empty.masterToSlave, empty.masterToSlaveLen]; rfl
  slaveToMaster := by rw [empty.slaveToMaster, empty.slaveToMasterLen]; rfl
  masterToSlaveLen := empty.masterToSlaveLen.trans (empty.unbuffered done).1.symm
  slaveToMasterLen := empty.slaveToMasterLen.trans (empty.unbuffered done).2.symm

omit [Cell β] in
theorem empty_kept {r : Typed β} {device : SlaveDevice β} (kept : Kept r.device device) (empty : r.Empty) :
    ({ r with device } : Typed β).Empty where
  masterToSlave := kept.outputSize.trans empty.masterToSlave
  slaveToMaster := kept.inputSize.trans empty.slaveToMaster
  masterToSlaveLen := kept.outputLen.trans empty.masterToSlaveLen
  slaveToMasterLen := kept.inputLen.trans empty.slaveToMasterLen
  unbuffered := fun done => empty.unbuffered (kept.isEcatConfDone ▸ done)

omit [Cell β] in
theorem empty_initTaskList {r : Typed β} {device : SlaveDevice β} {done : Bool} (empty : r.Empty)
    (returned : initTaskList data r.device = .ok (done, device)) : ({ r with device } : Typed β).Empty := by
  obtain ⟨sameDone, outputLen, output, inputLen, input⟩ := initTaskList_kept returned
  constructor
  · exact (congrArg ByteVec.size output).trans empty.masterToSlave
  · exact (congrArg ByteVec.size input).trans empty.slaveToMaster
  · exact outputLen.trans empty.masterToSlaveLen
  · exact inputLen.trans empty.slaveToMasterLen
  · exact fun done => empty.unbuffered (sameDone ▸ done)

theorem sizes_init {r : Typed β} (call : InitCall) (empty : r.Empty) :
    (r.next data (.step (.init call))).device.masterToSlaveBuf.size = 0 ∧
      (r.next data (.step (.init call))).device.slaveToMasterBuf.size = 0 := by
  simp only [next, SlaveDevice.next, step]
  rcases init_vectors data call r.device with ⟨output, _, input, _⟩ | ⟨_, _, output, _, input, _⟩
  · rw [output, input]
    exact ⟨empty.masterToSlave, empty.slaveToMaster⟩
  · rw [output, input]
    exact ⟨rfl, rfl⟩

theorem lens_init {r : Typed β} (call : InitCall) (empty : r.Empty)
    (accepted : r.device.AcceptsBoard data call → Unbuffered call.eepId) :
    (r.next data (.step (.init call))).device.masterToSlaveBufLen = 0 ∧
      (r.next data (.step (.init call))).device.slaveToMasterBufLen = 0 := by
  rw [← init_accepts_iff] at accepted
  simp only [next, SlaveDevice.next, step]
  rcases init_vectors data call r.device with ⟨_, output, _, input⟩ | ⟨_, returned, _, output, _, input⟩
  · rw [output, input]
    exact ⟨empty.masterToSlaveLen, empty.slaveToMasterLen⟩
  · rw [output, input]
    exact accepted returned

variable {data}

theorem empty_init {r : Typed β} (call : InitCall) (empty : r.Empty)
    (accepted : r.device.AcceptsBoard data call → Unbuffered call.eepId) :
    (r.next data (.step (.init call))).Empty where
  masterToSlave := (sizes_init data call empty).1
  slaveToMaster := (sizes_init data call empty).2
  masterToSlaveLen := (lens_init data call empty accepted).1
  slaveToMasterLen := (lens_init data call empty accepted).2
  unbuffered := by
    intro done
    simp only [next, SlaveDevice.next, step] at done ⊢
    rw [init_isEcatConfDone] at done
    split
    case isTrue returned => exact accepted ((init_accepts_iff data r.device call).mp returned)
    case isFalse refused => exact empty.unbuffered (by simpa [refused] using done)

theorem empty_next {r : Typed β} (op : Operation) (empty : r.Empty) (allowed : r.WithoutBuffers data op) :
    (r.next data op).Empty := by
  cases op with
  | initTaskList =>
    simp only [next]
    split
    case h_1 done device returned => exact empty_initTaskList data empty returned
    case h_2 => exact empty
  | step s =>
    cases s with
    | init call => exact empty_init call empty allowed
    | _ => exact empty_kept (next_kept data r.device (fun _ => Step.noConfusion)) empty

theorem unbuffered_of_represented {r : Typed β} (call : InitCall) (empty : r.Empty)
    (kept : r.KeepsRepresented data (.step (.init call))) (accepted : r.device.AcceptsBoard data call) :
    Unbuffered call.eepId := by
  have returned := (init_accepts_iff data r.device call).mpr accepted
  have done : (r.next data (.step (.init call))).device.isEcatConfDone = true := by
    simp only [next, SlaveDevice.next, step]
    rw [init_isEcatConfDone, returned, Bool.or_true]
  have represented := (kept done).1
  have module : (r.next data (.step (.init call))).eepId = call.eepId := if_pos returned
  have sizes := sizes_init data call empty
  have noOutput := represented.masterToSlave.symm.trans sizes.1
  have noInput := represented.slaveToMaster.symm.trans sizes.2
  rw [represented.masterToSlaveLen, module] at noOutput
  rw [represented.slaveToMasterLen, module] at noInput
  exact ⟨UInt16.toNat_inj.mp noOutput, UInt16.toNat_inj.mp noInput⟩

omit [Cell β] in
theorem copies_count {r : Typed β} (empty : r.Empty) (s : Step) : ∀ access ∈ r.device.copies s, access.count = 0 := by
  have output : ∀ vec, (r.device.area vec).count = 0 := by
    intro vec
    simp [area, empty.masterToSlaveLen]
  intro access member
  cases s with
  | receiveFromSlave inputs =>
    rw [List.mem_singleton.mp member, empty.slaveToMasterLen]
    rfl
  | transferToSlave => rw [List.mem_singleton.mp member, output]
  | connectionLost =>
    simp only [copies, List.mem_cons, List.not_mem_nil, or_false] at member
    rcases member with rfl | rfl <;> exact output _
  | exitReset =>
    simp only [copies] at member
    split at member
    · rw [List.mem_singleton.mp member, output]
    · cases member
  | process currentTime =>
    simp only [copies, restoreCopies] at member
    split_ifs at member
    all_goals
      simp only [List.mem_cons, List.not_mem_nil, or_false] at member
    · rw [member, output]
    · rcases member with rfl | rfl <;> exact output _
  | preRecover => cases member
  | resetState => cases member
  | recoverState => cases member
  | init call => cases member
  | onCommand task msg => cases member

omit [Cell β] in
theorem initValueElements_within {d : SlaveDevice β} {sizes : Vec → Nat} (zero : sizes .masterToSlave = 0) :
    (∀ access ∈ d.initValueElements, access.Within sizes) ↔ d.StoresNothing := by
  unfold initValueElements StoresNothing
  simp only [List.forall_mem_map, List.mem_filter, and_imp]
  have stores : ∀ task : TaskWrapper,
      (⟨.masterToSlave, task.pdowriteOffset.toNat, task.body.initBytes.length⟩ : Access).Within sizes ↔
        task.body.initBytes = [] :=
    fun task => (Access.within_zero_iff zero).trans List.length_eq_zero_iff
  simp only [stores]

omit [Cell β] in
theorem sendArgElements_outside {d : SlaveDevice β} {sizes : Vec → Nat} (zero : sizes .slaveToMaster = 0) :
    ¬∀ access ∈ d.sendArgElements, access.Within sizes := by
  intro within
  have first : (⟨.slaveToMaster, 1, 1⟩ : Access).Within sizes := within _ (by simp [sendArgElements])
  exact absurd ((Access.within_zero_iff zero).mp first) Nat.one_ne_zero

variable (data) in
theorem next_other (r : Typed β) {s : Step} (other : ∀ call, s ≠ .init call) :
    r.next data (.step s) = { r with device := SlaveDevice.next data r.device s } := by
  cases s with
  | init call => exact absurd rfl (other call)
  | _ => rfl

theorem keepsRepresented_elements {r : Typed β} {s : Step} (empty : r.Empty) (other : ∀ call, s ≠ .init call) :
    r.KeepsRepresented data (.step s) ↔ (r.device.isEcatConfDone = true →
      ∀ access ∈ r.device.elements s, access.Within (SlaveDevice.next data r.device s).liveSize) := by
  have keeps := next_kept data r.device other
  unfold KeepsRepresented accesses
  rw [next_other data r other, keeps.isEcatConfDone]
  constructor
  · intro kept done access member
    exact (kept done).2 access (List.mem_append_right _ member)
  · intro live done
    refine ⟨represented_of_empty (empty_kept keeps empty) (keeps.isEcatConfDone.trans done), ?_⟩
    intro access member
    rcases List.mem_append.mp member with copied | single
    · exact access.within_of_empty _ (copies_count empty s access copied)
    · exact live done access single

theorem keepsRepresented_iff {r : Typed β} (op : Operation) (empty : r.Empty) :
    r.WithoutBuffers data op ↔ r.KeepsRepresented data op := by
  cases op with
  | initTaskList =>
    refine iff_of_true trivial ?_
    intro done
    exact ⟨represented_of_empty (empty_next .initTaskList empty trivial) done, fun access member => nomatch member⟩
  | step s =>
    cases s with
    | init call =>
      constructor
      · intro allowed done
        exact ⟨represented_of_empty (empty_init call empty allowed) done, fun access member => nomatch member⟩
      · exact unbuffered_of_represented call empty
    | process currentTime =>
      have kept : Kept r.device (SlaveDevice.next data r.device (.process currentTime)) :=
        next_kept data r.device (fun _ => Step.noConfusion)
      have output : (SlaveDevice.next data r.device (.process currentTime)).liveSize .masterToSlave = 0 :=
        kept.outputSize.trans empty.masterToSlave
      have input : (SlaveDevice.next data r.device (.process currentTime)).liveSize .slaveToMaster = 0 :=
        kept.inputSize.trans empty.slaveToMaster
      rw [keepsRepresented_elements empty (fun _ => Step.noConfusion)]
      change (r.device.isConfigured = true → _) ↔ _
      unfold elements
      cases configured : r.device.isConfigured with
      | false => simp
      | true =>
        have done : r.device.isEcatConfDone = true := (Bool.and_eq_true_iff.mp configured).2
        simp only [done, true_implies, if_true, List.forall_mem_append]
        refine and_congr ?_ ?_
        · cases r.device.sending with
          | false => simp
          | true => exact iff_of_false Bool.noConfusion (sendArgElements_outside input)
        · cases taken : r.device.handshakes && r.device.initialises with
          | false => simp_all
          | true =>
            obtain ⟨handshakes, initialises⟩ := Bool.and_eq_true_iff.mp taken
            simp only [handshakes, initialises, true_implies]
            exact (initValueElements_within output).symm
    | exitReset =>
      have kept : Kept r.device (SlaveDevice.next data r.device .exitReset) :=
        next_kept data r.device (fun _ => Step.noConfusion)
      rw [keepsRepresented_elements empty (fun _ => Step.noConfusion)]
      change (r.device.isEcatConfDone = true → _) ↔ _
      unfold elements
      refine imp_congr_right fun _ => ?_
      cases r.device.isArgSent with
      | false => simp
      | true =>
        simp only [true_implies, if_true]
        exact (initValueElements_within (kept.outputSize.trans empty.masterToSlave)).symm
    | _ =>
      refine iff_of_true trivial ((keepsRepresented_elements empty (fun _ => Step.noConfusion)).mpr ?_)
      intro _ access member
      exact nomatch member

omit [Cell β] in
theorem start_empty : (start : Typed β).Empty := ⟨rfl, rfl, rfl, rfl, fun done => nomatch done⟩

/-- From the constructor on, a run keeps the vectors represented and uses indices of live elements
only, if and only if it never has a module with buffers, never sends arguments and never stores
initial values. -/
theorem represented_along_iff (data : ConfigurationParser) (run : List Operation) :
    Along (next data) (WithoutBuffers data) (start : Typed β) run ↔
      Along (next data) (KeepsRepresented data) (start : Typed β) run :=
  along_iff_along start_empty (fun _ op empty allowed => empty_next op empty allowed)
    (fun _ op empty => keepsRepresented_iff op empty)

omit [Cell β] in
/-- A `clear` keeps the storage, and the copies of whole arrays stay in it. -/
structure Stored (d : SlaveDevice β) : Prop where
  output : d.Allocated
  input : d.slaveToMasterBufLen.toNat ≤ d.slaveToMasterBuf.storage.length

theorem stored_next (data : ConfigurationParser) {d : SlaveDevice β} (s : Step) (stored : Stored d) :
    Stored (SlaveDevice.next data d s) := by
  refine ⟨next_allocated data s stored.output, ?_⟩
  by_cases calls : ∃ call, s = .init call
  case neg =>
    have kept := next_kept data d (not_exists.mp calls)
    rw [kept.inputLen, kept.inputStorage]
    exact stored.input
  case pos =>
    obtain ⟨call, rfl⟩ := calls
    rw [SlaveDevice.next, step]
    rcases init_vectors data call d with ⟨_, _, buffer, length⟩ | ⟨_, _, _, _, buffer, length⟩
    · rw [buffer, length]
      exact stored.input
    · rw [buffer, length]
      exact ByteVec.le_storage_resize _ _ _

omit [Cell β] in
theorem area_within {d : SlaveDevice β} {vec : Vec} {sizes : Vec → Nat}
    (fits : d.masterToSlaveBufLen.toNat ≤ sizes vec) : (d.area vec).Within sizes := by
  intro i inside
  simp only [area] at inside ⊢
  omega

omit [Cell β] in
theorem restoreCopies_within {d : SlaveDevice β} {sizes : Vec → Nat}
    (output : d.masterToSlaveBufLen.toNat ≤ sizes .masterToSlave)
    (backup : d.masterToSlaveBufBackup.size ≤ sizes .backup) : ∀ access ∈ d.restoreCopies, access.Within sizes := by
  intro access member
  unfold restoreCopies at member
  split_ifs at member with ready first other
  · cases member
  · rw [List.mem_singleton.mp member]
    exact area_within output
  · cases member
  · simp only [List.mem_cons, List.not_mem_nil, or_false] at member
    rcases member with rfl | rfl
    · exact area_within output
    · exact area_within (by omega)

theorem copies_within (data : ConfigurationParser) {d : SlaveDevice β} (s : Step) (stored : Stored d) :
    ∀ access ∈ d.copies s, access.Within (SlaveDevice.next data d s).storageSize := by
  have after := stored_next data s stored
  have output : (∀ call, s ≠ .init call) →
      d.masterToSlaveBufLen.toNat ≤ (SlaveDevice.next data d s).storageSize .masterToSlave := by
    intro other
    rw [← (next_kept data d other).outputLen]
    exact after.output
  intro access member
  cases s with
  | receiveFromSlave inputs =>
    rw [List.mem_singleton.mp member]
    have fits : d.slaveToMasterBufLen.toNat ≤
        (SlaveDevice.next data d (.receiveFromSlave inputs)).storageSize .slaveToMaster := after.input
    intro i inside
    dsimp only at inside ⊢
    omega
  | transferToSlave =>
    rw [List.mem_singleton.mp member]
    exact area_within (output fun _ => Step.noConfusion)
  | connectionLost =>
    simp only [copies, List.mem_cons, List.not_mem_nil, or_false] at member
    rcases member with rfl | rfl
    · -- The backup has been resized to the recorded length.
      apply area_within
      rw [next_connectionLost]
      simp [storageSize, lostBackup, ByteVec.le_storage_resize]
    · exact area_within (output fun _ => Step.noConfusion)
  | exitReset =>
    simp only [copies] at member
    split at member
    · rw [List.mem_singleton.mp member]
      exact area_within (output fun _ => Step.noConfusion)
    · cases member
  | process currentTime =>
    simp only [copies] at member
    split at member
    · refine restoreCopies_within (output fun _ => Step.noConfusion) ?_ access member
      change _ ≤ (SlaveDevice.next data d (.process currentTime)).masterToSlaveBufBackup.storage.length
      rw [(next_backup data (s := .process currentTime) trivial).1]
      exact d.masterToSlaveBufBackup.size_le
    · cases member
  | preRecover => cases member
  | resetState => cases member
  | recoverState => cases member
  | init call => cases member
  | onCommand task msg => cases member

end Cells

/-- The first accepted board has vectors of size 0 and lengths of 80. -/
theorem represented_along_registered :
    ¬∀ (data : ConfigurationParser) (run : List Operation),
      Along (next data) (KeepsRepresented data) (start : Typed UInt8) run := by
  intro always
  obtain ⟨kept, _⟩ := always receiverData [.step (.init boardCall)]
  exact absurd (kept rfl).1.masterToSlave (by decide)

end Typed

end EcatMaster.Slave
