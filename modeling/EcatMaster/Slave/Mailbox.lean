import EcatMaster.Slave.ArgTransfer
import EcatMaster.Slave.Provenance

/-! What the slave reads as an argument.

In argument mode the slave stores the third command byte at the index in the
first two. The frames carry a triple of `send_arg` as long as no other store
reaches these bytes between the processing block and the transfer.
-/

set_option autoImplicit false

namespace EcatMaster.Slave
open Library Config Tasks Io

namespace SlaveDevice

def IsTriple (d : SlaveDevice Tagged) (bytes : List UInt8) : Prop :=
  ∃ (k : Nat) (byte : UInt8), 1 ≤ k ∧ k ≤ d.argBufLen.toNat ∧ d.argBuf[k - 1]? = some byte ∧
    bytes = uint16Bytes (UInt16.ofNat k) ++ [byte]

def FromSendArg (cells : List Tagged) : Prop := cells.map Tagged.origin = [.argument, .argument, .argument]

instance (cells : List Tagged) : Decidable (FromSendArg cells) := inferInstanceAs (Decidable (_ = _))

/-- Cells that `send_arg` alone has stored make up a triple. -/
def Carries (d : SlaveDevice Tagged) (cells : List Tagged) : Prop :=
  FromSendArg cells → d.IsTriple (cells.map Tagged.value)

theorem FromSendArg.all {cells : List Tagged} (sent : FromSendArg cells) :
    ∀ cell ∈ cells, cell.origin = .argument := by
  intro cell member
  have origins : cell.origin ∈ cells.map Tagged.origin := List.mem_map_of_mem member
  rw [sent] at origins
  simpa using origins

theorem FromSendArg.length {cells : List Tagged} (sent : FromSendArg cells) : cells.length = 3 := by
  simpa using congrArg List.length sent

/-- Other stores cannot forge a triple. -/
theorem Carries.overwriteAll {d : SlaveDevice Tagged} {cells : List Tagged} {writes : List (Nat × List Tagged)}
    (carries : d.Carries cells) (others : ∀ write ∈ writes, ∀ cell ∈ write.2, cell.origin ≠ .argument) :
    d.Carries (overwriteAll cells writes) := by
  intro sent
  have untouched : Library.overwriteAll cells writes = cells :=
    overwriteAll_untouched (p := fun cell => cell.origin = .argument) others sent.all
  rw [untouched] at sent ⊢
  exact carries sent

theorem live_ne_argument {cells : List Tagged} (live : Live cells) :
    ∀ cell ∈ cells, cell.origin ≠ .argument := by
  intro cell member argument
  rcases live cell member with other | other | other <;> simp [other] at argument

theorem Carries.overwriteLive {d : SlaveDevice Tagged} {cells : List Tagged} {writes : List (Nat × List Tagged)}
    (carries : d.Carries cells) (others : ∀ write ∈ writes, Live write.2) :
    d.Carries (Library.overwriteAll cells writes) :=
  carries.overwriteAll fun write member => live_ne_argument (others write member)

/-- What holds of the mailbox and of its backup while arguments exist. -/
structure MailboxInv (d : SlaveDevice Tagged) : Prop where
  low : 1 ≤ d.sendingArgBufIdx.toNat
  high : d.sendingArgBufIdx.toNat ≤ d.argBufLen.toNat
  args : d.argBuf.length = d.argBufLen.toNat
  covers : d.masterToSlaveBufLen.toNat = 0 ∨ 3 ≤ d.masterToSlaveBufLen.toNat
  allocated : d.Allocated
  live : d.Carries (d.masterToSlaveBuf.storage.take 3)
  kept : d.Carries (d.masterToSlaveBufBackup.storage.take 3)

theorem nextArgIdx_range {d : SlaveDevice Tagged} (inv : d.MailboxInv) :
    1 ≤ d.nextArgIdx.toNat ∧ d.nextArgIdx.toNat ≤ d.argBufLen.toNat := nextArgIdx_within inv.low inv.high

theorem isTriple_argTriple {d : SlaveDevice Tagged} (inv : d.MailboxInv) {idx : UInt16} (low : 1 ≤ idx.toNat)
    (high : idx.toNat ≤ d.argBufLen.toNat) : d.IsTriple (d.argTriple idx) := by
  have inside : idx.toNat - 1 < d.argBuf.length := by
    have args := inv.args
    omega
  refine ⟨idx.toNat, d.argBuf[idx.toNat - 1], low, high, List.getElem?_eq_getElem inside, ?_⟩
  rw [argTriple_eq, UInt16.ofNat_toNat, argByte, List.getElem?_eq_getElem inside, Option.getD_some]

theorem carries_argWrites {d : SlaveDevice Tagged} (inv : d.MailboxInv) :
    d.Carries (overwriteAll (d.masterToSlaveBuf.storage.take 3) d.argWrites) := by
  unfold argWrites
  split
  · exact inv.live
  · -- The three bytes cover the mailbox, so nothing that was there before is left in it.
    intro sent
    have short : (d.masterToSlaveBuf.storage.take 3).length ≤
        ((d.argTriple d.nextArgIdx).map (Cell.store (β := Tagged) .argument)).length := by
      simp [argTriple]
    have whole := sent.length
    rw [overwriteAll_cons, overwriteAll_nil] at sent whole ⊢
    rw [length_overwrite] at whole
    rw [overwrite_all _ _ short, whole] at sent ⊢
    obtain ⟨low, high⟩ := nextArgIdx_range inv
    exact isTriple_argTriple inv low high

theorem carries_backup {d : SlaveDevice Tagged} (inv : d.MailboxInv)
    (same : d.masterToSlaveBufBackup.size = d.masterToSlaveBufLen.toNat) {v : ByteVec Tagged}
    (large : d.masterToSlaveBufLen.toNat ≤ v.storage.length) (carries : d.Carries (v.storage.take 3)) :
    d.Carries ((v.copyIn 0 d.backupArea).storage.take 3) := by
  have bound := d.masterToSlaveBufBackup.size_le
  rw [ByteVec.storage_copyIn, take_overwrite]
  rcases inv.covers with empty | three
  · have nothing : d.backupArea = [] := by simp [backupArea, empty]
    rw [nothing]
    exact carries
  · rw [overwrite_all _ _ (by simp only [backupArea, List.length_take]; omega)]
    have area : d.backupArea.take (v.storage.take 3).length = d.masterToSlaveBufBackup.storage.take 3 := by
      rw [backupArea, List.length_take, List.take_take]
      congr 1
      omega
    rw [area]
    exact inv.kept

theorem live_initWrites (d : SlaveDevice Tagged) :
    ∀ write ∈ (0, d.zeroFill) :: d.subscriberWrites, Live write.2 := by
  intro write member
  rcases List.mem_cons.mp member with rfl | subscriber
  · intro cell held
    rw [List.eq_of_mem_replicate held]
    exact Or.inr (Or.inr rfl)
  · exact d.live_subscriberWrites write subscriber

theorem carries_initialised {d : SlaveDevice Tagged} {v : ByteVec Tagged} (carries : d.Carries (v.storage.take 3)) :
    d.Carries ((d.initialised v).storage.take 3) := by
  rw [initialised, ← ByteVec.copyAll_cons v (0, d.zeroFill), ByteVec.storage_copyAll, take_overwriteAll]
  exact carries.overwriteLive d.live_initWrites

theorem carries_bufferAfter {d : SlaveDevice Tagged} (inv : d.MailboxInv) :
    d.Carries (d.bufferAfter.storage.take 3) := by
  have sent : d.Carries ((d.masterToSlaveBuf.copyAll d.sendingWrites).storage.take 3) := by
    rw [ByteVec.storage_copyAll, take_overwriteAll, sendingWrites]
    split
    · exact carries_argWrites inv
    · exact inv.live
  have large : d.masterToSlaveBufLen.toNat ≤ (d.masterToSlaveBuf.copyAll d.sendingWrites).storage.length := by
    rw [ByteVec.storage_copyAll, length_overwriteAll]
    exact inv.allocated
  unfold bufferAfter restored
  split_ifs with _ _ _ same
  · exact sent
  · exact carries_initialised sent
  · exact carries_backup inv same large sent
  · exact sent
  · exact sent

theorem carries_lostBackup {d : SlaveDevice Tagged} (inv : d.MailboxInv) :
    d.Carries (d.lostBackup.storage.take 3) := by
  have lost : d.Carries (d.lostBuffer.storage.take 3) := by
    rw [lostBuffer, ByteVec.storage_copyAll, take_overwriteAll]
    exact inv.live.overwriteLive d.live_lostWrites
  have large : d.masterToSlaveBufLen.toNat ≤ d.lostBuffer.storage.length := by
    rw [lostBuffer, ByteVec.storage_copyAll, length_overwriteAll]
    exact inv.allocated
  unfold lostBackup
  rw [ByteVec.storage_copyIn, take_overwrite]
  rcases inv.covers with empty | three
  · rw [empty, List.take_zero, overwrite_nil, ByteVec.resize, dif_pos (Nat.zero_le _)]
    exact inv.kept
  · have resized := ByteVec.le_storage_resize d.masterToSlaveBufBackup.clear d.masterToSlaveBufLen.toNat
      (Cell.store (β := Tagged) .allocation 0)
    rw [overwrite_all _ _ (by simp only [List.length_take]; omega)]
    generalize d.masterToSlaveBufBackup.clear.resize _ _ = backup at resized
    have front : (d.lostBuffer.storage.take d.masterToSlaveBufLen.toNat).take (backup.storage.take 3).length =
        d.lostBuffer.storage.take 3 := by
      rw [List.length_take, List.take_take]
      congr 1
      omega
    rw [front]
    exact lost

theorem carries_resized {d : SlaveDevice Tagged} {v : ByteVec Tagged} (carries : d.Carries (v.storage.take 3))
    (n : Nat) : d.Carries ((v.clear.resize n (Cell.store .allocation 0)).clear.storage.take 3) := by
  have fresh : ∀ (n : Nat), ∀ cell ∈ List.replicate n (Cell.store (β := Tagged) .allocation 0),
      cell.origin ≠ .argument := by
    intro n cell member
    rw [List.eq_of_mem_replicate member]
    decide
  rw [ByteVec.storage_clear, ByteVec.storage_resize_clear]
  split
  · rw [take_overwrite]
    have others : ∀ write ∈ [(0, List.replicate n (Cell.store (β := Tagged) .allocation 0))],
        ∀ cell ∈ write.2, cell.origin ≠ .argument := by
      intro write member
      rw [List.mem_singleton.mp member]
      exact fresh n
    exact Carries.overwriteAll carries others
  · intro sent
    have first : 0 < (List.take 3 (List.replicate n (Cell.store (β := Tagged) .allocation 0))).length := by
      rw [sent.length]
      decide
    have member := List.getElem_mem first
    exact absurd (sent.all _ member) (fresh _ _ (List.mem_of_mem_take member))

theorem registered_covers (eepId : UInt32) :
    (registeredModule eepId).masterToSlaveBufLen.toNat = 0 ∨ 3 ≤
    (registeredModule eepId).masterToSlaveBufLen.toNat := by
  unfold registeredModule
  split_ifs <;> decide

theorem next_mailbox (data : ConfigurationParser) {d : SlaveDevice Tagged} (s : Step) (inv : d.MailboxInv) :
    (next data d s).MailboxInv := by
  obtain ⟨low, high, args, covers, allocated, live, kept⟩ := inv
  have next_allocated := next_allocated data s allocated
  cases s with
  | preRecover => exact ⟨Nat.le_refl 1, low.trans high, args, covers, next_allocated, live, kept⟩
  | onCommand task msg =>
    rw [next_onCommand] at next_allocated ⊢
    refine ⟨low, high, args, covers, next_allocated, ?_, kept⟩
    rw [ByteVec.storage_copyAll, take_overwriteAll]
    exact live.overwriteLive (d.live_messageWrites task msg)
  | connectionLost =>
    have lost := carries_lostBackup ⟨low, high, args, covers, allocated, live, kept⟩
    rw [next_connectionLost] at next_allocated ⊢
    refine ⟨low, high, args, covers, next_allocated, ?_, lost⟩
    rw [lostBuffer, ByteVec.storage_copyAll, take_overwriteAll]
    exact live.overwriteLive d.live_lostWrites
  | exitReset =>
    rw [next_exitReset] at next_allocated ⊢
    refine ⟨low, high, args, covers, next_allocated, ?_, kept⟩
    cases d.isArgSent with
    | true => exact carries_initialised live
    | false => exact live
  | init call =>
    have opened := carries_resized live (registeredModule call.eepId).masterToSlaveBufLen.toNat
    rw [next, step] at next_allocated ⊢
    rcases init_cases data call d with ⟨_, outcome⟩ | ⟨_, _, outcome⟩ | ⟨_, sdoLen, _, outcome⟩
    · rw [outcome] at next_allocated ⊢
      exact ⟨low, high, args, covers, next_allocated, live, kept⟩
    · rw [outcome] at next_allocated ⊢
      exact ⟨low, high, args, covers, next_allocated, live, kept⟩
    · rw [outcome] at next_allocated ⊢
      -- Only a first configuration allocates; a later one keeps the buffer and the lengths.
      by_cases first : d.sn = 0
      · simp only [first, if_true] at next_allocated ⊢
        exact ⟨low, high, args, registered_covers call.eepId, next_allocated, opened, kept⟩
      · simp only [first, if_false] at next_allocated ⊢
        exact ⟨low, high, args, covers, next_allocated, live, kept⟩
  | process currentTime =>
    have inv : d.MailboxInv := ⟨low, high, args, covers, allocated, live, kept⟩
    cases configured : d.isConfigured with
    | false => rwa [next_process_skipped configured]
    | true =>
      rw [next_process configured] at next_allocated ⊢
      have range : 1 ≤ d.argIdxAfter.toNat ∧ d.argIdxAfter.toNat ≤ d.argBufLen.toNat := by
        unfold argIdxAfter
        split
        · exact nextArgIdx_range inv
        · exact ⟨low, high⟩
      exact ⟨range.1, range.2, args, covers, next_allocated, carries_bufferAfter inv, kept⟩
  | _ => exact ⟨low, high, args, covers, next_allocated, live, kept⟩

/-- At a transfer in argument mode the mailbox is as `send_arg` has left it, or zero. -/
def MailboxKept (d : SlaveDevice Tagged) : Step → Prop
  | .transferToSlave => d.masterStatus = MASTER_SENDING_ARGUMENTS →
      1 ≤ d.argBufLen.toNat ∧ FromSendArg (d.commandArea.take 3) ∨
        (d.commandArea.take 3).map Tagged.value = [0, 0, 0]
  | _ => True

instance (d : SlaveDevice Tagged) : (s : Step) → Decidable (d.MailboxKept s)
  | .transferToSlave => inferInstanceAs (Decidable (_ → _ ∧ _ ∨ _))
  | .receiveFromSlave _ | .process _ | .exitReset | .preRecover | .init _ | .resetState | .connectionLost
  | .recoverState | .onCommand _ _ => .isTrue trivial

/-- A frame of argument mode carries three zero bytes or a triple. -/
def SendsTriples (data : ConfigurationParser) (d : SlaveDevice Tagged) (s : Step) : Prop :=
  ∀ frame, Event.frame frame ∈ (d.step data s).2 → frame.status = MASTER_SENDING_ARGUMENTS →
    frame.data.take 3 = [0, 0, 0] ∨ d.IsTriple (frame.data.take 3)

theorem configured_mailbox {data : ConfigurationParser} {d : SlaveDevice Tagged} (configured : Configured data d)
    (nonempty : 1 ≤ d.argBufLen.toNat) : d.MailboxInv := by
  have allocated := configured_allocated configured
  obtain ⟨call, sn, sdoLen, argBuf, taskList, _, full, rfl⟩ := configured_eq configured
  refine ⟨Nat.le_refl 1, nonempty, full, registered_covers call.eepId, allocated, ?_, ?_⟩
  · exact carries_resized (fun sent => absurd sent (by simp [FromSendArg, new, ByteVec.empty])) _
  · exact fun sent => absurd sent (by simp [FromSendArg, new, ByteVec.empty])

theorem sendsTriples {data : ConfigurationParser} {d : SlaveDevice Tagged} {s : Step}
    (inv : 1 ≤ d.argBufLen.toNat → d.MailboxInv) (kept : d.MailboxKept s) : d.SendsTriples data s := by
  intro frame emitted status
  obtain ⟨rfl, rfl⟩ := frame_emitted emitted
  have front : d.transferToSlave.data.take 3 = (d.commandArea.take 3).map Tagged.value := by
    rw [transferToSlave, ← List.map_take]
    rfl
  rw [front]
  rcases kept status with ⟨nonempty, sent⟩ | zero
  · refine Or.inr ?_
    have whole := sent.length
    have mailbox : d.commandArea.take 3 = d.masterToSlaveBuf.storage.take 3 := by
      rw [commandArea, List.take_take] at whole ⊢
      rw [List.length_take] at whole
      congr 1
      omega
    rw [mailbox] at sent ⊢
    exact (inv nonempty).live sent
  · exact Or.inl zero

/-- Where the mailbox is kept, only argument triples travel in argument mode. -/
theorem sendsTriples_along (data : ConfigurationParser) (d : SlaveDevice Tagged) (configured : Configured data d)
    (run : List Step) (kept : Along (next data) MailboxKept d run) : Along (next data) (SendsTriples data) d run := by
  refine kept.transfer (I := fun d => 1 ≤ d.argBufLen.toNat → d.MailboxInv) (configured_mailbox configured) ?_ ?_
  · intro d s inv _ nonempty
    rw [(next_setUp data d s).2.1] at nonempty
    exact next_mailbox data s (inv nonempty)
  · intro d s inv kept
    exact sendsTriples inv kept

/-- Commands come before the processing block of both transfers; between them the slave is lost in work. -/
def commandsBeforeProcess : List Step :=
  let commanded : List Step :=
    [.receiveFromSlave ⟨1, [0, 0, 0]⟩, .onCommand 0 (.writeOnBoardPWM 1000 1000 1000 1000), .process 0, .transferToSlave]
  commanded ++ argumentCycles pwmTagged ++ confirmCycle ++
    [.onCommand 0 (.writeOnBoardPWM 1600 1600 1600 1600), .transferToSlave, .connectionLost, .init boardCall, .resetState,
     .preRecover] ++ commanded ++ argumentCycles pwmTagged

theorem sendsTriples_along_commandsBeforeProcess :
    (exec (next (pwmData 0x01)) pwmTagged commandsBeforeProcess).masterStatus = MASTER_READY ∧
    (exec (next (pwmData 0x01)) pwmTagged commandsBeforeProcess).reconnectedTimes = 1 ∧
    Along (next (pwmData 0x01)) (SendsTriples (pwmData 0x01)) pwmTagged commandsBeforeProcess :=
  ⟨by decide +kernel, by decide +kernel,
    sendsTriples_along _ _ pwm_keep_configured commandsBeforeProcess (by decide +kernel)⟩

/-- A command arrives between `send_arg` and the transfer of its triple. -/
def commandWhileSending : List Step :=
  [.receiveFromSlave ⟨1, [0, 0, 0]⟩, .process 0, .onCommand 0 (.writeOnBoardPWM 1000 1000 1000 1000),
   .transferToSlave]

/-- The frame tells the slave to store a command byte at index 1000. -/
theorem sendsTriples_commandWhileSending :
    ¬∀ (data : ConfigurationParser) (d : SlaveDevice Tagged), Configured data d → ∀ run : List Step,
      Along (next data) (SendsTriples data) d run := by
  intro always
  obtain ⟨_, _, _, sends, _⟩ := always _ _ pwm_keep_configured commandWhileSending
  rcases sends _ (List.mem_singleton_self _) rfl with zero | ⟨k, byte, low, high, _, bytes⟩
  · exact absurd zero (by decide)
  · have small : ∀ k ≤ 8, (0xE8 : UInt8) ≠ (UInt16.ofNat k).toUInt8 := by decide
    exact small k high (List.cons.inj bytes).1

end SlaveDevice

end EcatMaster.Slave
