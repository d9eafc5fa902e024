import EcatMaster.Slave.LostCommands
import EcatMaster.Slave.StatusByte

/-! Where the command bytes come from.

The first three bytes of `master_to_slave_buf_` are the mailbox of the argument
transfer and belong to the commands of a task after it. The handshake hands them
over. The cells here carry the statement that stored them. Which bytes are open
follows from the order of the events alone: the triples, the commands, the losses
with their backups and the resends.
-/

set_option autoImplicit false

namespace EcatMaster.Slave
open Library Config Tasks

def Tagged.Live (cell : Tagged) : Prop :=
  cell.origin = .command ∨ cell.origin = .initValue ∨ cell.origin = .zeroFill

instance (cell : Tagged) : Decidable cell.Live := inferInstanceAs (Decidable (_ ∨ _ ∨ _))

def Live (cells : List Tagged) : Prop := ∀ cell ∈ cells, cell.Live

instance (cells : List Tagged) : Decidable (Live cells) := List.decidableBAll _ cells

namespace SlaveDevice

theorem live_overwriteAll {cells : List Tagged} {writes : List (Nat × List Tagged)} (live : Live cells)
    (stores : ∀ write ∈ writes, Live write.2) : Live (overwriteAll cells writes) := by
  intro cell member
  rcases mem_overwriteAll member with old | ⟨write, within, held⟩
  · exact live cell old
  · exact stores write within cell held

theorem live_initWrite (task : TaskWrapper) : Live (initWrite task).2 := by
  intro cell member
  obtain ⟨value, _, rfl⟩ := List.mem_map.mp member
  exact Or.inr (Or.inl rfl)

theorem live_subscriberWrites (d : SlaveDevice Tagged) : ∀ write ∈ d.subscriberWrites, Live write.2 := by
  intro write member
  obtain ⟨task, _, rfl⟩ := List.mem_map.mp member
  exact live_initWrite task

theorem live_lostWrites (d : SlaveDevice Tagged) : ∀ write ∈ d.lostWrites, Live write.2 := by
  intro write member
  obtain ⟨task, _, rfl⟩ := List.mem_map.mp member
  exact live_initWrite task

theorem live_messageWrites (d : SlaveDevice Tagged) (task : Nat) (msg : CommandMessage) :
    ∀ write ∈ d.messageWrites task msg, Live write.2 := by
  intro write member
  simp only [messageWrites, commandWrite, Option.mem_toList, Option.bind_eq_some_iff,
    Option.map_eq_some_iff] at member
  obtain ⟨wrapper, _, _, _, rfl⟩ := member
  intro cell held
  obtain ⟨value, _, rfl⟩ := List.mem_map.mp held
  exact Or.inl rfl

theorem live_initialised (d : SlaveDevice Tagged) (v : ByteVec Tagged) :
    Live ((d.initialised v).storage.take d.masterToSlaveBufLen.toNat) := by
  simp only [initialised, ByteVec.storage_copyAll, ByteVec.storage_copyIn, take_overwriteAll, take_overwrite]
  apply live_overwriteAll _ d.live_subscriberWrites
  intro cell member
  rw [overwrite_all _ _ (by simp [zeroFill])] at member
  have zero := List.eq_of_mem_replicate (List.mem_of_mem_take member)
  rw [zero]
  exact Or.inr (Or.inr rfl)

theorem live_bufferAfter {d : SlaveDevice Tagged} (allocated : d.Allocated) (taken : d.handshakes = true) :
    Live (d.bufferAfter.storage.take d.masterToSlaveBufLen.toNat) ↔ d.writesInitValues ∨ Live d.handedOver := by
  simp only [bufferAfter, taken, if_true, sendingWrites_handshake taken]
  change Live ((d.restored d.masterToSlaveBuf).storage.take _) ↔ _
  rw [take_restored allocated]
  split
  case isTrue first => exact iff_of_true (d.live_initialised _) (Or.inl first)
  case isFalse again => exact ⟨Or.inr, fun handed => handed.resolve_left again⟩

/-- A byte is open from its allocation, or from a triple that is stored over it, until a command or an
initial value covers it. The backup keeps which bytes were open when it was taken. -/
structure Custody where
  buffer : Nat → Bool
  backup : Nat → Bool

section Events
variable {β : Type}

def storesTriple (d : SlaveDevice β) : Bool := d.sending && !d.argSentAfter

/-- The bytes that are open in what a handshake takes over. -/
def Custody.takenOver (c : Custody) (d : SlaveDevice β) : Nat → Bool :=
  if d.masterStatus ≠ MASTER_READY ∧ d.masterToSlaveBufBackup.size = d.masterToSlaveBufLen.toNat then c.backup
  else c.buffer

def Custody.processed (c : Custody) (d : SlaveDevice β) : Custody :=
  if d.handshakes then { c with buffer := if d.writesInitValues then fun _ => false else c.takenOver d }
  else if d.storesTriple then { c with buffer := fun i => i < 3 || c.buffer i }
  else c

variable [Cell β] (data : ConfigurationParser)

def Custody.next (c : Custody) (d : SlaveDevice β) : Step → Custody
  | .process _ => if d.isConfigured then c.processed d else c
  | .onCommand task msg => { c with buffer := covered (d.messageWrites task msg) c.buffer }
  | .exitReset => if d.isArgSent then { c with buffer := fun _ => false } else c
  | .connectionLost => ⟨covered d.lostWrites c.buffer, covered d.lostWrites c.buffer⟩
  -- A first configuration allocates the buffer.
  | .init call => if d.sn = 0 ∧ (d.init data call).1 = true then { c with buffer := fun _ => true } else c
  | .receiveFromSlave _ | .transferToSlave | .preRecover | .resetState | .recoverState => c

end Events

structure Custody.Holds (c : Custody) (d : SlaveDevice Tagged) : Prop where
  buffer : Marks Tagged.Live c.buffer d.commandArea
  backup : Marks Tagged.Live c.backup (d.masterToSlaveBufBackup.storage.take d.masterToSlaveBufBackup.size)

theorem marks_live {cells : List Tagged} (live : Live cells) : Marks Tagged.Live (fun _ => false) cells :=
  marks_all fun cell member => iff_of_true (live cell member) rfl

theorem live_iff_covered {cells : List Tagged} {marks : Nat → Bool} (holds : Marks Tagged.Live marks cells) :
    Live cells ↔ ∀ i < cells.length, marks i = false := by
  constructor
  · intro live i inside
    exact (holds i _ (List.getElem?_eq_getElem inside)).mp (live _ (List.getElem_mem inside))
  · intro covered cell member
    obtain ⟨i, found⟩ := List.mem_iff_getElem?.mp member
    exact (holds i cell found).mpr (covered i (List.getElem?_eq_some_iff.mp found).1)

variable {d : SlaveDevice Tagged} {c : Custody}

theorem handedOver_marks (holds : c.Holds d) : Marks Tagged.Live (c.takenOver d) d.handedOver := by
  unfold Custody.takenOver handedOver
  split_ifs with restores
  · have area := holds.backup
    rwa [restores.2] at area
  · exact holds.buffer

theorem length_handedOver (allocated : d.Allocated) : d.handedOver.length = d.masterToSlaveBufLen.toNat := by
  unfold handedOver
  split_ifs with restores
  · exact length_backupArea restores.2
  · unfold Allocated at allocated
    simp [commandArea, allocated]

theorem handedOver_live_iff (holds : c.Holds d) (allocated : d.Allocated) :
    Live d.handedOver ↔ ∀ i < d.masterToSlaveBufLen.toNat, c.takenOver d i = false := by
  rw [live_iff_covered (handedOver_marks holds), length_handedOver allocated]

theorem marks_triple {cells : List Tagged} {marks : Nat → Bool} (holds : Marks Tagged.Live marks cells)
    (triple : List UInt8) (three : triple.length = 3) :
    Marks Tagged.Live (fun i => i < 3 || marks i) (overwrite cells 0 (triple.map (Cell.store .argument))) := by
  intro i cell found
  rw [getElem?_overwrite, List.length_map, three] at found
  split_ifs at found with inside
  · obtain ⟨value, _, rfl⟩ := List.mem_map.mp (List.mem_of_getElem? found)
    refine iff_of_false ?_ (by simp [inside.2.1])
    simp [Tagged.Live, Cell.store]
  · have bound := (List.getElem?_eq_some_iff.mp found).1
    have later : ¬i < 3 := by omega
    simpa [later] using holds i cell found

theorem sendingWrites_storesTriple (d : SlaveDevice Tagged) :
    d.sendingWrites = if d.storesTriple then [(0, (d.argTriple d.nextArgIdx).map (Cell.store .argument))] else [] := by
  unfold sendingWrites argWrites storesTriple argSentAfter
  cases d.sending <;> cases d.isArgSent <;> cases d.lastEchoed <;> rfl

theorem custody_process (data : ConfigurationParser) (holds : c.Holds d) (allocated : d.Allocated) (currentTime : Int) :
    (c.next data d (.process currentTime)).Holds (next data d (.process currentTime)) := by
  cases configured : d.isConfigured with
  | false =>
    rw [next_process_skipped configured, Custody.next, configured]
    exact holds
  | true =>
    rw [Custody.next, configured, if_pos rfl, Custody.processed]
    cases taken : d.handshakes with
    | true =>
      rw [if_pos rfl]
      refine ⟨?_, by rw [next_process configured]; exact holds.backup⟩
      rw [commandArea_handshake configured taken, take_restored allocated]
      split_ifs with first
      · exact marks_live (d.live_initialised _)
      · exact handedOver_marks holds
    | false =>
      rw [if_neg Bool.false_ne_true]
      have stored : (next data d (.process currentTime)).commandArea = overwriteAll d.commandArea d.sendingWrites := by
        rw [next_process configured]
        simp only [commandArea, bufferAfter, taken, Bool.false_eq_true, if_false, ByteVec.storage_copyAll]
        exact take_overwriteAll _ _ _
      have backup : (next data d (.process currentTime)).masterToSlaveBufBackup = d.masterToSlaveBufBackup := by
        rw [next_process configured]
      rw [sendingWrites_storesTriple] at stored
      cases places : d.storesTriple with
      | true =>
        rw [places, if_pos rfl] at stored
        refine ⟨?_, by rw [backup]; exact holds.backup⟩
        rw [stored]
        exact marks_triple holds.buffer _ rfl
      | false =>
        rw [places, if_neg Bool.false_ne_true] at stored
        refine ⟨?_, by rw [backup]; exact holds.backup⟩
        rw [stored]
        exact holds.buffer

theorem openedBuffer_area (d : SlaveDevice Tagged) (eepId : UInt32) :
    (d.openedBuffer eepId).storage.take (registeredModule eepId).masterToSlaveBufLen.toNat =
      List.replicate (registeredModule eepId).masterToSlaveBufLen.toNat (Cell.store .allocation 0) := by
  simp only [openedBuffer, ByteVec.storage_clear, ByteVec.storage_resize_clear]
  split_ifs with fits
  · rw [overwrite_front _ _ (by simpa using fits)]
    simp
  · simp

theorem marks_allocated (n : Nat) :
    Marks Tagged.Live (fun _ => true) (List.replicate n (Cell.store (β := Tagged) .allocation 0)) := by
  refine marks_all fun cell member => iff_of_false ?_ Bool.noConfusion
  rw [List.eq_of_mem_replicate member]
  simp [Tagged.Live, Cell.store]

theorem custody_init (data : ConfigurationParser) (holds : c.Holds d) (call : InitCall) :
    (c.next data d (.init call)).Holds (next data d (.init call)) := by
  have backup : (next data d (.init call)).masterToSlaveBufBackup = d.masterToSlaveBufBackup := by
    rw [next, step]
    rcases init_cases data call d with ⟨_, outcome⟩ | ⟨_, _, outcome⟩ | ⟨_, _, _, outcome⟩ <;> rw [outcome]
  have kept : ∀ c' : Custody, c'.backup = c.backup → Marks Tagged.Live c'.buffer (next data d (.init call)).commandArea →
      c'.Holds (next data d (.init call)) := by
    intro c' same area
    refine ⟨area, ?_⟩
    rw [backup, same]
    exact holds.backup
  rw [Custody.next]
  split_ifs with opens
  · refine kept _ rfl ?_
    rw [next, step, commandArea]
    rcases init_cases data call d with ⟨_, outcome⟩ | ⟨_, _, outcome⟩ | ⟨_, _, _, outcome⟩
    · simp [outcome] at opens
    · simp [outcome] at opens
    · simp only [outcome, opens.1, if_true, openedBuffer_area]
      exact marks_allocated _
  · refine kept c rfl ?_
    rcases init_vectors data call d with ⟨buffer, length, _⟩ | ⟨first, accepted, _⟩
    · rw [commandArea, next, step, buffer, length]
      exact holds.buffer
    · exact absurd ⟨first, accepted⟩ opens

theorem custody_next (data : ConfigurationParser) (holds : c.Holds d) (allocated : d.Allocated) (s : Step) :
    (c.next data d s).Holds (next data d s) := by
  cases s with
  | process currentTime => exact custody_process data holds allocated currentTime
  | init call => exact custody_init data holds call
  | onCommand task msg =>
    rw [next_onCommand]
    refine ⟨?_, holds.backup⟩
    simp only [commandArea, ByteVec.storage_copyAll, take_overwriteAll]
    exact holds.buffer.overwriteAll (d.live_messageWrites task msg)
  | exitReset =>
    rw [next_exitReset, Custody.next]
    split_ifs with sent
    · exact ⟨marks_live (d.live_initialised _), holds.backup⟩
    · exact holds
  | connectionLost =>
    obtain ⟨area, size⟩ := backup_connectionLost data allocated
    have lost : (next data d .connectionLost).commandArea = overwriteAll d.commandArea d.lostWrites := by
      rw [next_connectionLost]
      exact take_overwriteAll _ _ _
    have marks := holds.buffer.overwriteAll d.live_lostWrites
    rw [← lost] at marks
    refine ⟨marks, ?_⟩
    rw [size]
    change Marks Tagged.Live _ (next data d .connectionLost).backupArea
    rwa [area]
  | _ => exact ⟨holds.buffer, holds.backup⟩

theorem configured_custody {data : ConfigurationParser} (configured : Configured data d) :
    Custody.Holds ⟨fun _ => true, fun _ => true⟩ d := by
  obtain ⟨call, sn, sdoLen, argBuf, taskList, _, _, rfl⟩ := configured_eq configured
  refine ⟨?_, marks_all nofun⟩
  change Marks Tagged.Live _ (((new : SlaveDevice Tagged).openedBuffer call.eepId).storage.take _)
  rw [openedBuffer_area]
  exact marks_allocated _

end SlaveDevice

/-- The last writer of `MASTER_READY` among the events of a step. -/
def readyWriter (events : List Event) : Option ReadyBy :=
  events.findSome? fun
    | .masterReady writer => some writer
    | _ => none

structure Traced where
  device : SlaveDevice Tagged
  readyBy : Option ReadyBy
  custody : SlaveDevice.Custody

def pwmTagged : SlaveDevice Tagged := SlaveDevice.setUp (pwmData 0x01) boardCall

namespace Traced
open SlaveDevice

def start (d : SlaveDevice Tagged) : Traced := ⟨d, none, ⟨fun _ => true, fun _ => true⟩⟩

def next (data : ConfigurationParser) (t : Traced) (s : Step) : Traced where
  device := SlaveDevice.next data t.device s
  readyBy := (readyWriter (t.device.step data s).2).or t.readyBy
  custody := t.custody.next data t.device s

theorem exec_device (data : ConfigurationParser) (t : Traced) (run : List Step) :
    (exec (next data) t run).device = exec (SlaveDevice.next data) t.device run :=
  exec_project (fun _ _ => rfl) t run

/-- Once the handshake has made the master ready, no byte of the transfer is left. -/
def HoldsLive (t : Traced) : Prop :=
  MASTER_READY ≤ t.device.masterStatus → t.readyBy = some .handshake → Live t.device.commandArea

instance (t : Traced) : Decidable t.HoldsLive := inferInstanceAs (Decidable (_ → _ → _))

/-- A handshake in this step writes the initial values, or takes over no byte that the events have
left open. -/
def TakesCovered (t : Traced) : Step → Prop
  | .process _ => t.device.isConfigured = true → t.device.handshakes = true →
      t.device.writesInitValues ∨
        ∀ i < t.device.masterToSlaveBufLen.toNat, t.custody.takenOver t.device i = false
  | _ => True

instance (t : Traced) : (s : Step) → Decidable (t.TakesCovered s)
  | .process _ => inferInstanceAs (Decidable (_ → _ → _ ∨ ∀ _ < _, _))
  | .receiveFromSlave _ | .exitReset | .transferToSlave | .preRecover | .init _ | .resetState | .connectionLost
  | .recoverState | .onCommand _ _ => .isTrue trivial

/-- The step ends in a state that holds live bytes. -/
def ReachesLive (data : ConfigurationParser) (t : Traced) (s : Step) : Prop := (t.next data s).HoldsLive

instance (data : ConfigurationParser) (t : Traced) (s : Step) : Decidable (t.ReachesLive data s) :=
  inferInstanceAs (Decidable (HoldsLive _))

theorem readyWriter_readEvents (stamp : Int) (tasks : List TaskWrapper) :
    readyWriter (readEvents stamp tasks) = none := by
  unfold readyWriter
  rw [List.findSome?_eq_none_iff]
  intro event member
  obtain ⟨task, rfl⟩ := mem_readEvents member
  rfl

theorem readyWriter_append (first rest : List Event) :
    readyWriter (first ++ rest) = (readyWriter first).or (readyWriter rest) := by
  unfold readyWriter
  rw [List.findSome?_append]

theorem readyWriter_restoreEvents (d : SlaveDevice Tagged) : readyWriter d.restoreEvents = none := by
  unfold restoreEvents
  split_ifs <;> rfl

theorem readyWriter_pdoEvents (d : SlaveDevice Tagged) (currentTime : Int) :
    readyWriter (d.pdoEvents currentTime) =
      if d.counts && d.statusAfter == MASTER_READY then some .counter else none := by
  unfold pdoEvents
  cases d.counts with
  | false => rfl
  | true =>
    by_cases ready : d.statusAfter = MASTER_READY
    · simp only [ready, if_true, readyWriter_append, readyWriter_readEvents]
      rfl
    · simp only [ready, if_true, if_false, readyWriter_append, readyWriter_readEvents]
      simp [readyWriter, ready]

theorem readyWriter_process {d : SlaveDevice Tagged} {currentTime : Int} (configured : d.isConfigured = true) :
    readyWriter (d.process currentTime).2 =
      if d.handshakes then some .handshake
      else if d.counts && d.statusAfter == MASTER_READY then some .counter else none := by
  rw [process_eq _ _ configured, readyWriter_append]
  cases taken : d.handshakes with
  | true =>
    rw [if_pos rfl, if_pos rfl, readyWriter_append, readyWriter_restoreEvents]
    rfl
  | false =>
    rw [if_neg Bool.false_ne_true, if_neg Bool.false_ne_true]
    cases ready : d.readyAfter with
    | true => exact readyWriter_pdoEvents d currentTime
    | false => simp [counts, ready, readyWriter]

theorem holdsLive_quiet {data : ConfigurationParser} {t : Traced} {s : Step}
    (same : (SlaveDevice.next data t.device s).masterStatus = t.device.masterStatus)
    (silent : readyWriter (t.device.step data s).2 = none)
    (stays : Live t.device.commandArea → Live (SlaveDevice.next data t.device s).commandArea)
    (holds : t.HoldsLive) : t.ReachesLive data s := by
  intro ready writer
  simp only [Traced.next, silent, Option.none_or] at writer
  simp only [Traced.next, same] at ready
  exact stays (holds ready writer)

/-- Outside a handshake the byte is ready after a pass only if it was before, unless the
counter has just set it. -/
theorem ready_before {d : SlaveDevice Tagged} (missed : d.handshakes = false) (ready : MASTER_READY ≤ d.statusAfter)
    (uncounted : ¬(d.counts && d.statusAfter == MASTER_READY) = true) : MASTER_READY ≤ d.masterStatus := by
  unfold statusAfter statusBefore at ready uncounted
  simp only [missed, Bool.false_eq_true, if_false] at ready uncounted
  cases counted : d.counts with
  | false => simpa [counted] using ready
  | true =>
    simp only [counted, if_true, Bool.true_and, beq_iff_eq] at ready uncounted
    exact ready_of_next ready uncounted

theorem readyWriter_connectionLost (d : SlaveDevice Tagged) : readyWriter d.connectionLost.2 = none := by
  unfold readyWriter
  rw [List.findSome?_eq_none_iff]
  intro event member
  obtain ⟨⟨task, i⟩, _, published⟩ := List.mem_filterMap.mp member
  dsimp only at published
  split at published <;> cases published
  rfl

theorem reachesLive_init (data : ConfigurationParser) {t : Traced} (call : InitCall) (holds : t.HoldsLive) :
    t.ReachesLive data (.init call) := by
  rcases init_cases data call t.device with ⟨_, outcome⟩ | ⟨_, _, outcome⟩ | ⟨_, sdoLen, _, outcome⟩
  · refine holdsLive_quiet ?_ ?_ ?_ holds <;>
      simp [SlaveDevice.next, step, outcome, commandArea, initEvents, readyWriter]
  · refine holdsLive_quiet ?_ ?_ ?_ holds <;>
      simp [SlaveDevice.next, step, outcome, commandArea, initEvents, readyWriter]
  · intro ready writer
    simp only [Traced.next, SlaveDevice.next, step, outcome, initEvents] at ready writer
    by_cases empty : sdoLen = 0
    · simp [empty, readyWriter] at writer
    · simp only [empty, if_false] at ready
      exact absurd ready (not_ready_of_sending rfl)

/-- Outside a handshake a ready slave gets no argument byte, so its area stays as it is. -/
theorem reachesLive_missed (data : ConfigurationParser) {t : Traced} (currentTime : Int)
    (configured : t.device.isConfigured = true) (missed : t.device.handshakes = false) (holds : t.HoldsLive) :
    t.ReachesLive data (.process currentTime) := by
  have writer : readyWriter (t.device.process currentTime).2 = _ := readyWriter_process configured
  rw [missed, if_neg Bool.false_ne_true] at writer
  intro ready handshake
  simp only [Traced.next, step, writer, next_process configured] at ready handshake ⊢
  have uncounted : ¬(t.device.counts && t.device.statusAfter == MASTER_READY) = true := fun counter => by
    simp [counter] at handshake
  have before := ready_before missed ready uncounted
  rw [if_neg uncounted, Option.none_or] at handshake
  simp only [commandArea, bufferAfter, missed, sendingWrites_ready before]
  exact holds before handshake

theorem takesCovered_handshake (data : ConfigurationParser) {t : Traced} (currentTime : Int)
    (configured : t.device.isConfigured = true) (taken : t.device.handshakes = true)
    (allocated : t.device.Allocated) (custody : t.custody.Holds t.device) :
    t.TakesCovered (.process currentTime) ↔ t.ReachesLive data (.process currentTime) := by
  have writer : readyWriter (t.device.process currentTime).2 = _ := readyWriter_process configured
  unfold TakesCovered ReachesLive HoldsLive
  simp only [configured, taken, forall_true_left, Traced.next, step, writer, next_process configured,
    handshakes_statusAfter taken, if_true]
  rw [← handedOver_live_iff custody allocated, ← live_bufferAfter allocated taken]
  simp [commandArea]

theorem takesCovered_iff (data : ConfigurationParser) {t : Traced} (s : Step) (allocated : t.device.Allocated)
    (custody : t.custody.Holds t.device) (holds : t.HoldsLive) : t.TakesCovered s ↔ t.ReachesLive data s := by
  cases s with
  | onCommand task msg =>
    refine iff_of_true trivial (holdsLive_quiet ?_ rfl ?_ holds)
    · rw [next_onCommand]
    · intro live
      rw [next_onCommand]
      simp only [commandArea, ByteVec.storage_copyAll, take_overwriteAll]
      exact live_overwriteAll live (t.device.live_messageWrites task msg)
  | connectionLost =>
    refine iff_of_true trivial (holdsLive_quiet ?_ ?_ ?_ holds)
    · rw [next_connectionLost]
    · exact readyWriter_connectionLost t.device
    · intro live
      rw [next_connectionLost]
      simp only [commandArea, lostBuffer, ByteVec.storage_copyAll, take_overwriteAll]
      exact live_overwriteAll live t.device.live_lostWrites
  | exitReset =>
    refine iff_of_true trivial (holdsLive_quiet ?_ ?_ ?_ holds)
    · rw [next_exitReset]
    · rw [step, exitReset]
      split <;> rfl
    · intro live
      rw [next_exitReset]
      simp only [commandArea]
      split
      · exact t.device.live_initialised _
      · exact live
  | init call => exact iff_of_true trivial (reachesLive_init data call holds)
  | process currentTime =>
    cases configured : t.device.isConfigured with
    | false =>
      have skipped : SlaveDevice.next data t.device (.process currentTime) = t.device := next_process_skipped configured
      refine iff_of_true (fun entered => absurd entered (by simp [configured])) (holdsLive_quiet ?_ ?_ ?_ holds)
      · rw [skipped]
      · rw [step, process_unconfigured _ _ configured]
        rfl
      · rw [skipped]
        exact id
    | true =>
      cases taken : t.device.handshakes with
      | true => exact takesCovered_handshake data currentTime configured taken allocated custody
      | false =>
        exact iff_of_true (fun _ entered => absurd entered (by simp [taken]))
          (reachesLive_missed data currentTime configured taken holds)
  | _ => exact iff_of_true trivial (holdsLive_quiet rfl rfl id holds)

/-- A run keeps the bytes live exactly if no handshake in it takes over a byte that the events have left open. -/
theorem live_along_iff (data : ConfigurationParser) (d : SlaveDevice Tagged) (configured : Configured data d)
    (run : List Step) :
    Along (Traced.next data) TakesCovered (start d) run ↔
      Along (Traced.next data) (ReachesLive data) (start d) run := by
  apply along_iff_along (I := fun t => t.device.Allocated ∧ t.custody.Holds t.device ∧ t.HoldsLive)
  · exact ⟨configured_allocated configured, configured_custody configured, fun _ writer => absurd writer (by simp [start])⟩
  · rintro t s ⟨allocated, custody, holds⟩ covered
    exact ⟨SlaveDevice.next_allocated data s allocated, custody_next data custody allocated s,
      (takesCovered_iff data s allocated custody holds).mp covered⟩
  · rintro t s ⟨allocated, custody, holds⟩
    exact takesCovered_iff data s allocated custody holds

/-- A slave with a PWM output that keeps its command is lost in work, comes back with the same
serial number and gets its arguments a second time; commands come before, within and after the outage. -/
def lostInWork : List Step :=
  argumentCycles pwmTagged ++ confirmCycle ++
    [.onCommand 0 (.writeOnBoardPWM 1600 1600 1600 1600), .connectionLost,
     .onCommand 0 (.writeOnBoardPWM 1000 1000 1000 1000), .init boardCall, .resetState, .preRecover] ++
    argumentCycles pwmTagged ++ confirmCycle ++ [.onCommand 0 (.writeOnBoardPWM 1200 1200 1200 1200), .transferToSlave]

theorem live_along_iff_lostInWork :
    (exec (Traced.next (pwmData 0x01)) (start pwmTagged) lostInWork).readyBy = some .handshake ∧
    (exec (Traced.next (pwmData 0x01)) (start pwmTagged) lostInWork).device.isArgSent = true ∧
    (exec (Traced.next (pwmData 0x01)) (start pwmTagged) lostInWork).device.reconnectedTimes = 1 ∧
    Along (Traced.next (pwmData 0x01)) (ReachesLive (pwmData 0x01)) (start pwmTagged) lostInWork :=
  ⟨by decide +kernel, by decide +kernel, by decide +kernel,
    (live_along_iff _ _ pwm_keep_configured lostInWork).mp (by decide +kernel)⟩

/-- The slave is lost while the first arguments travel, comes back with the same serial
number and is configured a second time. -/
def lostWhileSending : List Step :=
  [.receiveFromSlave ⟨1, [0, 0, 0]⟩, .process 0, .transferToSlave, .connectionLost,
   .init boardCall, .resetState, .preRecover,
   .receiveFromSlave ⟨1, [0, 0, 0]⟩, .process 1, .transferToSlave,
   .receiveFromSlave ⟨1, [1, 0, 1]⟩, .process 2, .transferToSlave,
   .receiveFromSlave ⟨2, [2, 0, 1]⟩, .process 3, .transferToSlave]

/-- The backup that the second handshake restores was taken of the mailbox. -/
theorem live_along_lostWhileSending :
    ¬∀ (data : ConfigurationParser) (d : SlaveDevice Tagged), Configured data d → ∀ run : List Step,
      Along (Traced.next data) (ReachesLive data) (start d) run := by
  intro always
  exact absurd (always receiverData _ receiver_configured lostWhileSending) (by decide)

end Traced

end EcatMaster.Slave
