import EcatMaster.Slave.ArgTransfer
import EcatMaster.Slave.StatusByte

/-! Sending the arguments again after a restart.

The link between the master and one slave: the slave keeps what has been delivered
to it since it restarted, and a lost input frame leaves the previous input bytes
in the image. The run remembers what has travelled since the last call of `init`
that returned 1.
-/

set_option autoImplicit false

namespace EcatMaster.Slave
open Library Config Tasks Io

inductive LinkMove where
  | newFrame (inputs : Inputs)
  | repeatedFrame
  | transfer (delivered : Bool)
  | restart
  | process (currentTime : Int)
  | exitReset
  | onCommand (task : Nat) (msg : CommandMessage)
  | preRecover
  | init (call : InitCall)
  | resetState
  | connectionLost
  | recoverState
  deriving DecidableEq

structure Link (β : Type) where
  device : SlaveDevice β
  /-- `ec_slave[index_].inputs`. -/
  inputs : Inputs
  /-- The triples that the slave has got since its restart. -/
  received : List (List UInt8)
  /-- The triples that were transferred since the call of `init`. -/
  transferred : List (List UInt8)
  /-- The triples that new frames have brought back since then. -/
  echoed : List (List UInt8)
  /-- A new frame has arrived since then. -/
  fresh : Bool
  /-- The transfer has started from its first byte since then. -/
  armed : Bool

namespace Link
variable {β : Type}
open SlaveDevice

def unsent (d : SlaveDevice β) : Bool := d.sendingArgBufIdx == 1 && !d.isArgSent

/-- A device that `init` has just accepted, behind a slave that has restarted. -/
def start (d : SlaveDevice β) : Link β := ⟨d, ⟨0, []⟩, [], [], [], false, unsent d⟩

def stepOf (l : Link β) : LinkMove → Option Step
  | .newFrame inputs => some (.receiveFromSlave inputs)
  -- The frame is lost, and the image is read as it was.
  | .repeatedFrame => some (.receiveFromSlave l.inputs)
  | .transfer _ => some .transferToSlave
  | .restart => none
  | .process currentTime => some (.process currentTime)
  | .exitReset => some .exitReset
  | .onCommand task msg => some (.onCommand task msg)
  | .preRecover => some .preRecover
  | .init call => some (.init call)
  | .resetState => some .resetState
  | .connectionLost => some .connectionLost
  | .recoverState => some .recoverState

section Cells
variable [Cell β] (data : ConfigurationParser)

def deviceAfter (l : Link β) (m : LinkMove) : SlaveDevice β := l.device.nextOf data (l.stepOf m)

def events (l : Link β) (m : LinkMove) : List Event := l.device.eventsOf data (l.stepOf m)

/-- The triple that is in the mailbox of an output frame. -/
def mailbox (d : SlaveDevice β) : List UInt8 := d.transferToSlave.data.take 3

def next (l : Link β) (m : LinkMove) : Link β :=
  let device := l.deviceAfter data m
  match m with
  | .newFrame inputs =>
    { l with device, inputs, fresh := true, echoed := device.inputTriple :: l.echoed }
  | .transfer delivered =>
    -- Outside argument mode the same bytes are commands and are not recorded.
    if device.masterStatus = MASTER_SENDING_ARGUMENTS then
      { l with
        device
        transferred := mailbox device :: l.transferred
        received := if delivered then mailbox device :: l.received else l.received }
    else { l with device }
  -- The slave has forgotten its arguments; the image in the master stays.
  | .restart => { l with received := [] }
  | .preRecover => { l with device, armed := true }
  -- Only a call that returns 1 begins another resend.
  | .init call =>
    if (l.device.init data call).1 then
      { l with device, transferred := [], echoed := [], fresh := false, armed := unsent device }
    else { l with device }
  | _ => { l with device }

/-- The slave sends back nothing yet, or a triple that it has got since its restart. -/
def Honest (l : Link β) : LinkMove → Prop
  | .newFrame inputs =>
    let d := l.device.receiveFromSlave inputs
    l.device.masterStatus = MASTER_SENDING_ARGUMENTS →
      word (d.inputByte 0) (d.inputByte 1) = 0 ∨ d.inputTriple ∈ l.received
  | _ => True

instance (l : Link β) : (m : LinkMove) → Decidable (l.Honest m)
  | .newFrame _ => inferInstanceAs (Decidable (_ → _ ∨ _))
  | .repeatedFrame | .transfer _ | .restart | .process _ | .exitReset | .onCommand _ _ | .preRecover | .init _
  | .resetState | .connectionLost | .recoverState => .isTrue trivial

def readsTask (events : List Event) : Bool :=
  events.any fun
    | .read _ _ => true
    | _ => false

/-- The transfer ends in this step: the status byte becomes ready or a task is read. -/
def Leaves (l : Link β) (m : LinkMove) : Prop :=
  l.device.masterStatus = MASTER_SENDING_ARGUMENTS ∧
    (MASTER_READY ≤ (l.next data m).device.masterStatus ∨ readsTask (l.events data m) = true)

instance (l : Link β) (m : LinkMove) : Decidable (l.Leaves data m) := inferInstanceAs (Decidable (_ ∧ _))

omit [Cell β] in
def AllResent (l : Link β) : Prop :=
  ∀ triple ∈ l.device.argTriples, triple ∈ l.transferred ∧ triple ∈ l.echoed

instance (l : Link β) : Decidable l.AllResent := List.decidableBAll _ _

def ResentWhenReady (l : Link β) (m : LinkMove) : Prop := l.Leaves data m → l.AllResent

instance (l : Link β) (m : LinkMove) : Decidable (l.ResentWhenReady data m) := inferInstanceAs (Decidable (_ → _))

/-- The slave has restarted before `init`, no echo is accepted from an image that is older than
it, and the transfer ends only after it began at the first byte and all bytes were confirmed. -/
def Resends (l : Link β) : LinkMove → Prop
  | .init call =>
    l.received = [] ∧
      (l.device.masterStatus = MASTER_SENDING_ARGUMENTS →
        sdoLenOf data (l.device.readSn call) = .ok 0 → l.device.argBufLen = 0)
  | .process _ =>
    l.device.isConfigured = true → l.device.masterStatus = MASTER_SENDING_ARGUMENTS →
      (l.armed = true → l.device.isArgSent = false → l.device.echoed = true → l.fresh = true) ∧
      (l.device.handshakes = true ∨ l.device.counts = true → l.armed = true ∧ l.device.argSentAfter = true)
  | _ => True

instance (l : Link β) : (m : LinkMove) → Decidable (l.Resends data m)
  | .init _ => inferInstanceAs (Decidable (_ ∧ (_ → _ → _)))
  | .process _ => inferInstanceAs (Decidable (_ → _ → (_ → _ → _ → _) ∧ (_ ∨ _ → _ ∧ _)))
  | .newFrame _ | .repeatedFrame | .transfer _ | .restart | .exitReset | .onCommand _ _ | .preRecover
  | .resetState | .connectionLost | .recoverState => .isTrue trivial

def Confirmed (l : Link β) (k : UInt16) : Prop :=
  l.device.argTriple k ∈ l.transferred ∧ l.device.argTriple k ∈ l.echoed

/-- While the arguments are sent: what the slave holds has been transferred, what it sends back
as well, and the index runs behind what is confirmed. -/
structure Sound (l : Link β) : Prop where
  received : ∀ triple ∈ l.received, triple ∈ l.transferred
  image : l.fresh = true → (l.device.receiveFromSlave l.inputs).slaveToMasterBuf = l.device.slaveToMasterBuf
  echo : l.fresh = true → l.device.inputTriple ∈ l.echoed ∧
    (word (l.device.inputByte 0) (l.device.inputByte 1) = 0 ∨ l.device.inputTriple ∈ l.transferred)
  confirmed : l.armed = true → ∀ k : UInt16, 1 ≤ k → k ≤ l.device.argBufLen →
    k < l.device.sendingArgBufIdx ∨ l.device.isArgSent = true → l.Confirmed k

def SoundWhileSending (l : Link β) : Prop := l.device.masterStatus = MASTER_SENDING_ARGUMENTS → l.Sound

omit [Cell β] in
theorem unsent_nothing {d : SlaveDevice β} (none : unsent d = true) {k : UInt16} (low : 1 ≤ k) :
    ¬(k < d.sendingArgBufIdx ∨ d.isArgSent = true) := by
  simp only [unsent, Bool.and_eq_true, beq_iff_eq, Bool.not_eq_true'] at none
  rintro (below | sent)
  · rw [none.1, UInt16.lt_iff_toNat_lt] at below
    rw [UInt16.le_iff_toNat_le] at low
    omega
  · simp [none.2] at sent

omit [Cell β] in
theorem sound_start (d : SlaveDevice β) : (start d).Sound where
  received := fun _ member => absurd member List.not_mem_nil
  image := fun fresh => absurd fresh Bool.false_ne_true
  echo := fun fresh => absurd fresh Bool.false_ne_true
  confirmed := fun armed _ low _ done => absurd done (unsent_nothing armed low)

variable {data}

omit [Cell β] in
theorem Sound.confirmed_pass {l : Link β} (sound : l.Sound) (armed : l.armed = true)
    (sending : l.device.masterStatus = MASTER_SENDING_ARGUMENTS)
    (fresh : l.device.isArgSent = false → l.device.echoed = true → l.fresh = true) {k : UInt16} (low : 1 ≤ k)
    (high : k ≤ l.device.argBufLen) (done : k < l.device.argIdxAfter ∨ l.device.argSentAfter = true) :
    l.Confirmed k := by
  by_cases before : k < l.device.sendingArgBufIdx ∨ l.device.isArgSent = true
  · exact sound.confirmed armed k low high before
  · rw [not_or, Bool.not_eq_true] at before
    have entered : l.device.sending = true := by simp [SlaveDevice.sending, sending, before.2]
    -- The index or the flag has moved past `k` in this pass, so the echo is the one of `k`.
    obtain ⟨echo, current⟩ : l.device.echoed = true ∧ k = l.device.sendingArgBufIdx := by
      simp only [argIdxAfter, argSentAfter, entered, before.2, if_true, nextArgIdx, lastEchoed,
        Bool.false_or, Bool.true_and, Bool.and_eq_true, beq_iff_eq, bne_iff_ne] at done
      simp only [UInt16.lt_iff_toNat_lt, UInt16.le_iff_toNat_le, ← UInt16.toNat_inj] at *
      rcases done with moved | ⟨echo, last⟩
      · split at moved
        case isTrue next =>
          rw [UInt16.toNat_add, UInt16.toNat_one] at moved
          have bound : (l.device.sendingArgBufIdx.toNat + 1) % 2 ^ 16 ≤ l.device.sendingArgBufIdx.toNat + 1 :=
            Nat.mod_le _ _
          exact ⟨next.1, by omega⟩
        case isFalse same => exact absurd moved before.1
      · exact ⟨echo, by omega⟩
    obtain ⟨back, there⟩ := sound.echo (fresh before.2 echo)
    have triple := (echoed_iff l.device).mp echo
    rw [Confirmed, current, ← triple]
    refine ⟨?_, back⟩
    rcases there with none | there
    · -- The index 0 is not the one of an argument.
      rw [SlaveDevice.echoed, Bool.and_eq_true, beq_iff_eq] at echo
      rw [none] at echo
      rw [current, ← echo.1] at low
      exact absurd low (by decide)
    · exact there

omit [Cell β] in
theorem Sound.allResent {l : Link β} (sound : l.Sound) (armed : l.armed = true)
    (sending : l.device.masterStatus = MASTER_SENDING_ARGUMENTS)
    (fresh : l.device.isArgSent = false → l.device.echoed = true → l.fresh = true)
    (sent : l.device.argSentAfter = true) : l.AllResent := by
  intro triple member
  obtain ⟨k, inside, rfl⟩ := List.mem_map.mp member
  have bound := l.device.argBufLen.toNat_lt
  have small : k + 1 < 65536 := by
    have := List.mem_range.mp inside
    omega
  apply sound.confirmed_pass armed sending fresh _ _ (Or.inr sent)
  · rw [UInt16.le_iff_toNat_le, UInt16.toNat_ofNat_of_lt' small, UInt16.toNat_one]
    omega
  · rw [UInt16.le_iff_toNat_le, UInt16.toNat_ofNat_of_lt' small]
    exact List.mem_range.mp inside

theorem readsTask_process {d : SlaveDevice β} {s : Step} (reads : readsTask (d.step data s).2 = true) :
    ∃ currentTime, s = .process currentTime := by
  obtain ⟨event, emitted, read⟩ := List.any_eq_true.mp reads
  rcases emitted_cases emitted with processed | ⟨_, rfl⟩ | rfl | ⟨_, rfl⟩ | rfl | ⟨_, rfl⟩
  · exact processed
  all_goals cases read

theorem leaves_process {l : Link β} {currentTime : Int} (configured : l.device.isConfigured = true)
    (leaves : l.Leaves data (.process currentTime)) : l.device.handshakes = true ∨ l.device.counts = true := by
  obtain ⟨sending, left⟩ := leaves
  by_contra neither
  rw [not_or, Bool.not_eq_true, Bool.not_eq_true] at neither
  rcases left with ready | reads
  · change MASTER_READY ≤ (SlaveDevice.next data l.device (.process currentTime)).masterStatus at ready
    rw [next_process configured] at ready
    simp only [statusAfter, statusBefore, neither, Bool.false_eq_true, if_false] at ready
    exact not_ready_of_sending sending ready
  · change readsTask (l.device.process currentTime).2 = true at reads
    rw [process_eq _ _ configured] at reads
    simp only [neither, Bool.false_eq_true, if_false, List.nil_append, pdoEvents] at reads
    split at reads <;> cases reads

omit [Cell β] in
theorem receiveFromSlave_twice (d : SlaveDevice β) (inputs : Inputs) :
    ((d.receiveFromSlave inputs).receiveFromSlave inputs).slaveToMasterBuf =
      (d.receiveFromSlave inputs).slaveToMasterBuf := by
  simp [receiveFromSlave, ByteVec.copyIn, overwrite_overwrite]

omit [Cell β] in
theorem sending_before {d : SlaveDevice β} (range : d.StatusRange) (configured : d.isConfigured = true)
    (sending : d.statusAfter = MASTER_SENDING_ARGUMENTS) : d.masterStatus = MASTER_SENDING_ARGUMENTS := by
  rcases sending_or_ready range configured with same | ready
  · exact same
  · exact absurd (statusAfter_ready ready) (not_ready_of_sending sending)

theorem Sound.transfer {l : Link β} (sound : l.Sound) (before : l.device.masterStatus = MASTER_SENDING_ARGUMENTS)
    (delivered : Bool) : (l.next data (.transfer delivered)).Sound := by
  have frame : l.next data (.transfer delivered) =
      { l with
        transferred := mailbox l.device :: l.transferred
        received := if delivered then mailbox l.device :: l.received else l.received } := if_pos before
  rw [frame]
  refine ⟨?_, sound.image, fun fresh => ?_, ?_⟩
  · intro triple member
    cases delivered with
    | false => exact List.mem_cons_of_mem _ (sound.received triple member)
    | true =>
      rcases List.mem_cons.mp member with rfl | member
      · exact List.mem_cons_self
      · exact List.mem_cons_of_mem _ (sound.received triple member)
  · obtain ⟨back, there⟩ := sound.echo fresh
    exact ⟨back, there.imp id (List.mem_cons_of_mem _)⟩
  · intro armed k low high done
    obtain ⟨there, back⟩ := sound.confirmed armed k low high done
    exact ⟨List.mem_cons_of_mem _ there, back⟩

theorem sound_next {l : Link β} (m : LinkMove) (range : l.device.StatusRange) (known : l.SoundWhileSending)
    (honest : l.Honest m) (resends : l.Resends data m) : (l.next data m).SoundWhileSending := by
  intro sending
  cases m with
  | newFrame inputs =>
    have sound := known sending
    refine ⟨sound.received, fun _ => receiveFromSlave_twice _ _, fun _ => ⟨List.mem_cons_self, ?_⟩, ?_⟩
    · exact (honest sending).imp id (sound.received _)
    · intro armed k low high done
      obtain ⟨there, back⟩ := sound.confirmed armed k low high done
      exact ⟨there, List.mem_cons_of_mem _ back⟩
  | repeatedFrame =>
    have sound := known sending
    refine ⟨sound.received, fun _ => receiveFromSlave_twice _ _, fun fresh => ?_, sound.confirmed⟩
    have same : (l.next data .repeatedFrame).device.slaveToMasterBuf = l.device.slaveToMasterBuf :=
      sound.image fresh
    simp only [inputTriple, inputByte, same]
    exact sound.echo fresh
  | transfer delivered =>
    have before : l.device.masterStatus = MASTER_SENDING_ARGUMENTS := by
      change (ite _ _ _ : Link β).device.masterStatus = _ at sending
      split at sending <;> exact sending
    exact (known before).transfer before delivered
  | restart =>
    have sound := known sending
    exact ⟨fun _ member => absurd member List.not_mem_nil, sound.image, sound.echo, sound.confirmed⟩
  | preRecover =>
    have sound := known sending
    exact ⟨sound.received, sound.image, sound.echo, fun _ k low _ done =>
      absurd done (unsent_nothing rfl low)⟩
  | resetState =>
    have sound := known sending
    exact ⟨sound.received, sound.image, sound.echo, sound.confirmed⟩
  | recoverState =>
    have sound := known sending
    exact ⟨sound.received, sound.image, sound.echo, sound.confirmed⟩
  | connectionLost =>
    change (SlaveDevice.next data l.device .connectionLost).masterStatus = _ at sending
    change Sound { l with device := SlaveDevice.next data l.device .connectionLost }
    rw [next_connectionLost] at sending ⊢
    have sound := known sending
    exact ⟨sound.received, sound.image, sound.echo, sound.confirmed⟩
  | onCommand task msg =>
    change (SlaveDevice.next data l.device (.onCommand task msg)).masterStatus = _ at sending
    change Sound { l with device := SlaveDevice.next data l.device (.onCommand task msg) }
    rw [next_onCommand] at sending ⊢
    have sound := known sending
    exact ⟨sound.received, sound.image, sound.echo, sound.confirmed⟩
  | exitReset =>
    change (SlaveDevice.next data l.device .exitReset).masterStatus = _ at sending
    change Sound { l with device := SlaveDevice.next data l.device .exitReset }
    rw [next_exitReset] at sending ⊢
    have sound := known sending
    exact ⟨sound.received, sound.image, sound.echo, sound.confirmed⟩
  | process currentTime =>
    change (SlaveDevice.next data l.device (.process currentTime)).masterStatus = _ at sending
    change Sound { l with device := SlaveDevice.next data l.device (.process currentTime) }
    cases configured : l.device.isConfigured with
    | false =>
      rw [next_process_skipped configured] at sending ⊢
      exact known sending
    | true =>
      rw [next_process configured] at sending ⊢
      have before := sending_before range configured sending
      have sound := known before
      exact ⟨sound.received, sound.image, sound.echo, fun armed _ low high done =>
        sound.confirmed_pass armed before ((resends configured before).1 armed) low high done⟩
  | init call =>
    change (ite _ _ _ : Link β).Sound
    change (ite _ _ _ : Link β).device.masterStatus = _ at sending
    rcases init_cases data call l.device with ⟨_, outcome⟩ | ⟨_, passed, outcome⟩ | ⟨_, sdoLen, found, outcome⟩
    · simp only [deviceAfter, stepOf, nextOf, SlaveDevice.next, step, outcome] at sending ⊢
      have sound := known sending
      exact ⟨sound.received, sound.image, sound.echo, sound.confirmed⟩
    · simp only [deviceAfter, stepOf, nextOf, SlaveDevice.next, step, outcome] at sending ⊢
      have sound := known sending
      exact ⟨sound.received, sound.image, sound.echo, sound.confirmed⟩
    · simp only [deviceAfter, stepOf, nextOf, SlaveDevice.next, step, outcome,
        if_true]
      refine ⟨?_, fun fresh => absurd fresh Bool.false_ne_true, fun fresh => absurd fresh Bool.false_ne_true,
        fun armed _ low _ done => absurd done (unsent_nothing armed low)⟩
      intro triple member
      rw [resends.1] at member
      cases member

theorem next_device (l : Link β) (m : LinkMove) : (l.next data m).device = l.deviceAfter data m := by
  cases m with
  | transfer delivered =>
    change (ite _ _ _ : Link β).device = _
    split <;> rfl
  | init call =>
    change (ite _ _ _ : Link β).device = _
    split <;> rfl
  | _ => rfl

theorem exec_device (l : Link β) (run : List LinkMove) :
    (exec (next data) l run).device =
      exec (SlaveDevice.next data) l.device (labels (next data) (fun l m => (l.stepOf m).toList) l run) := by
  apply exec_component
  intro l m
  rw [next_device]
  exact SlaveDevice.nextOf_eq data l.device (l.stepOf m)

theorem leaves_cases {l : Link β} {m : LinkMove} (leaves : l.Leaves data m) :
    (∃ currentTime, m = .process currentTime) ∨ ∃ call, m = .init call := by
  obtain ⟨sending, left⟩ := leaves
  have quiet : ∀ {status : UInt8}, status = l.device.masterStatus → ¬MASTER_READY ≤ status :=
    fun same => not_ready_of_sending (same.trans sending)
  rw [next_device, deviceAfter, events] at left
  cases taken : l.stepOf m with
  | none =>
    rw [taken] at left
    rcases left with ready | reads
    · exact absurd ready (quiet rfl)
    · cases reads
  | some s =>
    rw [taken] at left
    have caller : (∃ currentTime, s = .process currentTime) ∨ ∃ call, s = .init call := by
      rcases left with ready | reads
      · rcases masterStatus_cases data l.device s with ⟨same, _⟩ | ⟨currentTime, called, _⟩ | ⟨call, called, _⟩
        · exact absurd ready (quiet same)
        · exact Or.inl ⟨currentTime, called⟩
        · exact Or.inr ⟨call, called⟩
      · exact Or.inl (readsTask_process reads)
    rcases caller with ⟨currentTime, rfl⟩ | ⟨call, rfl⟩
    · exact Or.inl (by cases m <;> cases taken; exact ⟨_, rfl⟩)
    · exact Or.inr (by cases m <;> cases taken; exact ⟨_, rfl⟩)

theorem resent_of_resends {l : Link β} {m : LinkMove} (known : l.SoundWhileSending)
    (resends : l.Resends data m) : l.ResentWhenReady data m := by
  intro leaves
  have sending := leaves.1
  rcases leaves_cases leaves with ⟨currentTime, rfl⟩ | ⟨call, rfl⟩
  · cases configured : l.device.isConfigured with
    | false =>
      obtain ⟨_, ready | reads⟩ := leaves
      · change MASTER_READY ≤ (SlaveDevice.next data l.device (.process currentTime)).masterStatus at ready
        rw [next_process_skipped configured] at ready
        exact absurd ready (not_ready_of_sending sending)
      · change readsTask (l.device.process currentTime).2 = true at reads
        rw [process_unconfigured _ _ configured] at reads
        cases reads
    | true =>
      obtain ⟨fresh, ends⟩ := resends configured sending
      obtain ⟨armed, sent⟩ := ends (leaves_process configured leaves)
      exact (known sending).allResent armed sending (fresh armed) sent
  · obtain ⟨_, ready | reads⟩ := leaves
    · -- `init` ends a transfer only where there is no argument to send.
      rw [next_device] at ready
      change MASTER_READY ≤ (l.device.init data call).2.masterStatus at ready
      rcases init_cases data call l.device with ⟨_, outcome⟩ | ⟨_, passed, outcome⟩ | ⟨_, sdoLen, found, outcome⟩
      · rw [outcome] at ready
        exact absurd ready (not_ready_of_sending sending)
      · rw [outcome] at ready
        exact absurd ready (not_ready_of_sending sending)
      · rw [outcome] at ready
        by_cases empty : sdoLen = 0
        · have none := resends.2 sending (by rw [found, empty])
          intro triple member
          simp [argTriples, none] at member
        · simp only [empty, if_false] at ready
          exact absurd ready (not_ready_of_sending rfl)
    · obtain ⟨_, called⟩ := readsTask_process reads
      cases called

/-- In a run whose steps all resend, the transfer ends after every triple has been transferred
and has come back since `init`. -/
theorem resent_along (d : SlaveDevice β) (configured : Configured data d) (run : List LinkMove)
    (honest : Along (next data) Honest (start d) run) (resends : Along (next data) (Resends data) (start d) run) :
    Along (next data) (ResentWhenReady data) (start d) run := by
  refine Along.transfer (I := fun l => l.device.StatusRange ∧ l.SoundWhileSending) ?_ ?_ ?_ (honest.and resends)
  · exact ⟨configured_statusRange configured, fun _ => sound_start d⟩
  · rintro l m ⟨range, known⟩ ⟨honest, resends⟩
    refine ⟨?_, sound_next m range known honest resends⟩
    rw [next_device, deviceAfter]
    cases l.stepOf m with
    | none => exact range
    | some s => exact next_statusRange data s range
  · rintro l m ⟨_, known⟩ ⟨_, resends⟩
    exact resent_of_resends known resends

end Cells

/-- The two arguments of the receiver travel; one frame to the slave and one frame from it are lost. -/
def lossyTransfer : List LinkMove :=
  [.newFrame ⟨1, [0, 0, 0]⟩, .process 0, .transfer false, .repeatedFrame, .process 1, .transfer true,
   .newFrame ⟨1, [1, 0, 1]⟩, .process 2, .transfer true, .repeatedFrame, .process 3, .transfer true,
   .newFrame ⟨2, [2, 0, 1]⟩, .process 4, .transfer true]

/-- A slave in work is lost and restarts, and its arguments are sent a second time. -/
def restartedInWork : List LinkMove :=
  lossyTransfer ++ [.newFrame ⟨3, []⟩, .process 5, .transfer true, .connectionLost, .restart, .init boardCall,
    .resetState, .preRecover] ++ lossyTransfer

theorem resent_along_restartedInWork :
    (exec (next receiverData) (start (setUp receiverData boardCall : SlaveDevice UInt8)) restartedInWork).device.masterStatus =
      MASTER_READY ∧
    (exec (next receiverData) (start (setUp receiverData boardCall : SlaveDevice UInt8)) restartedInWork).AllResent ∧
    Along (next receiverData) (ResentWhenReady receiverData) (start (setUp receiverData boardCall : SlaveDevice UInt8))
      restartedInWork :=
  ⟨by decide +kernel, by decide +kernel,
    resent_along _ receiver_bytes_configured restartedInWork (by decide +kernel) (by decide +kernel)⟩

/-- The slave restarts while it sends the first triple back, and the first frame after the
restart is lost. -/
def staleEcho : List LinkMove :=
  [.newFrame ⟨1, [0, 0, 0]⟩, .process 0, .transfer true,
   .newFrame ⟨1, [1, 0, 1]⟩, .connectionLost, .restart,
   .init boardCall, .resetState, .preRecover,
   .repeatedFrame, .process 1, .transfer true,
   .newFrame ⟨2, [2, 0, 1]⟩, .process 2, .transfer true]

/-- The first triple is confirmed by the old image and is never sent again. -/
theorem resent_along_staleEcho :
    ¬∀ (data : ConfigurationParser) (d : SlaveDevice UInt8), Configured data d → ∀ run : List LinkMove,
      Along (next data) Honest (start d) run → Along (next data) (ResentWhenReady data) (start d) run := by
  intro always
  exact absurd (always receiverData _ receiver_bytes_configured staleEcho (by decide)) (by decide)

end Link

end EcatMaster.Slave
