import EcatMaster.Slave.Equations

/-! The transmission that a measurement or a sample refers to.

`process_pdo` stamps with the time of the last acceptance, whatever has set
`master_status_` since. The run remembers what has set the number that is
acknowledged next, and when.
-/

set_option autoImplicit false

namespace EcatMaster.Slave
open Library Config Tasks

namespace SlaveDevice
variable {β : Type} [Cell β] (data : ConfigurationParser)

theorem sendTime_process (d : SlaveDevice β) (currentTime : Int) :
    (next data d (.process currentTime)).lastLatencyCheckPacketSendTime =
      if d.accepts then currentTime else d.lastLatencyCheckPacketSendTime := by
  cases configured : d.isConfigured with
  | false => simp [next_process_skipped configured, accepts, configured]
  | true => simp [next_process configured, accepts, configured]

theorem sendTime_other (d : SlaveDevice β) {s : Step} (noProcess : ∀ currentTime, s ≠ .process currentTime) :
    (next data d s).lastLatencyCheckPacketSendTime = d.lastLatencyCheckPacketSendTime := by
  rcases process_or_init s with ⟨currentTime, rfl⟩ | ⟨call, rfl⟩ | ⟨_, noInit⟩
  · exact absurd rfl (noProcess currentTime)
  · rw [next, step]
    rcases init_cases data call d with ⟨_, outcome⟩ | ⟨_, _, outcome⟩ | ⟨_, _, _, outcome⟩ <;> rw [outcome]
  · exact (next_quiet data d noProcess noInit).2

theorem currentDataStamp_accepts {d : SlaveDevice β} (accepted : d.accepts = true) (currentTime : Int) :
    (next data d (.process currentTime)).currentDataStamp = d.lastLatencyCheckPacketSendTime := by
  obtain ⟨configured, counts⟩ := Bool.and_eq_true_iff.mp accepted
  rw [next_process configured]
  exact if_pos counts

end SlaveDevice

/-- The time of the transmission that an event of `process_pdo` refers to. -/
def Event.refersTo (currentTime : Int) : Event → Option Int
  | .latency nanoseconds => some (currentTime - nanoseconds)
  | .read _ stamp => some stamp
  | _ => none

/-- The places that set a number with a time. `init` is a third one, in no cycle. -/
inductive Setter where
  | handshake
  | acceptance
  deriving DecidableEq, Repr

structure Clocked (β : Type) where
  device : SlaveDevice β
  /-- What has set the current number, and when. -/
  setting : Option (Setter × Int)
  handshakeAt : Option Int

namespace Clocked
variable {β : Type}
open SlaveDevice

def start (d : SlaveDevice β) : Clocked β := ⟨d, none, none⟩

def setAt (c : Clocked β) : Option Int := c.setting.map Prod.snd

/-- The recorded send time is the time of this setting. -/
def Records (d : SlaveDevice β) : Option (Setter × Int) → Prop
  | some (.acceptance, _) => True
  | some (.handshake, time) => d.lastLatencyCheckPacketSendTime = time
  | none => False

instance (d : SlaveDevice β) : (setting : Option (Setter × Int)) → Decidable (Records d setting)
  | some (.acceptance, _) => .isTrue trivial
  | some (.handshake, time) => inferInstanceAs (Decidable (d.lastLatencyCheckPacketSendTime = time))
  | none => .isFalse id

/-- No accepted frame acknowledges the number of a handshake, unless the handshake was taken at
the recorded time. -/
def AcknowledgesRecorded (c : Clocked β) : Step → Prop
  | .process _ => c.device.accepts = true → Records c.device c.setting
  | _ => True

instance (c : Clocked β) : (s : Step) → Decidable (c.AcknowledgesRecorded s)
  | .process _ => inferInstanceAs (Decidable (_ → _))
  | .receiveFromSlave _ | .exitReset | .transferToSlave | .preRecover | .init _ | .resetState | .connectionLost
  | .recoverState | .onCommand _ _ => .isTrue trivial

def ClockForward (c : Clocked β) : Step → Prop
  | .process currentTime => ∀ time ∈ c.setAt, time ≤ currentTime
  | _ => True

instance (c : Clocked β) : (s : Step) → Decidable (c.ClockForward s)
  | .process _ => inferInstanceAs (Decidable (∀ _ ∈ c.setAt, _))
  | .receiveFromSlave _ | .exitReset | .transferToSlave | .preRecover | .init _ | .resetState | .connectionLost
  | .recoverState | .onCommand _ _ => .isTrue trivial

section Cells
variable [Cell β] (data : ConfigurationParser)

def next (c : Clocked β) (s : Step) : Clocked β :=
  let device := SlaveDevice.next data c.device s
  match s with
  | .process currentTime =>
    if c.device.isConfigured && c.device.handshakes then ⟨device, some (.handshake, currentTime), some currentTime⟩
    else if c.device.accepts then { c with device, setting := some (.acceptance, currentTime) }
    else { c with device }
  | .init call => if (c.device.init data call).1 then { c with device, setting := none } else { c with device }
  | _ => { c with device }

/-- What an accepted frame leaves and publishes refers to the time at which its number was set. -/
def StampedRight (c : Clocked β) : Step → Prop
  | .process currentTime =>
    let events := (c.device.step data (.process currentTime)).2
    let stamp := (SlaveDevice.next data c.device (.process currentTime)).currentDataStamp
    (c.device.accepts = true → c.setAt = some stamp ∧ .latency (currentTime - stamp) ∈ events ∧
        ∀ event ∈ readEvents stamp c.device.taskList, event ∈ events) ∧
      ∀ event ∈ events, ∀ time ∈ event.refersTo currentTime, c.setAt = some time
  | s => ∀ event ∈ (c.device.step data s).2, event.refersTo 0 = none

instance (c : Clocked β) : (s : Step) → Decidable (c.StampedRight data s)
  | .process _ => inferInstanceAs (Decidable ((_ → _ ∧ _ ∧ ∀ _ ∈ _, _) ∧ ∀ _ ∈ _, ∀ _ ∈ Event.refersTo _ _, _))
  | .receiveFromSlave _ | .exitReset | .transferToSlave | .preRecover | .init _ | .resetState | .connectionLost
  | .recoverState | .onCommand _ _ => inferInstanceAs (Decidable (∀ _ ∈ _, _))

/-- No sample is stamped before the last handshake. -/
def NotBeforeHandshake (c : Clocked β) (s : Step) : Prop :=
  ∀ task stamp, Event.read task stamp ∈ (c.device.step data s).2 → ∀ time ∈ c.handshakeAt, time ≤ stamp

theorem next_device (c : Clocked β) (s : Step) : (c.next data s).device = SlaveDevice.next data c.device s := by
  cases s with
  | process currentTime =>
    change (ite _ _ (ite _ _ _) : Clocked β).device = _
    split_ifs <;> rfl
  | init call =>
    change (ite _ _ _ : Clocked β).device = _
    split <;> rfl
  | _ => rfl

theorem exec_device (c : Clocked β) (run : List Step) :
    (exec (next data) c run).device = exec (SlaveDevice.next data) c.device run :=
  exec_project (next_device data) c run

omit [Cell β] in
/-- After an acceptance the recorded send time is the time of the setting. -/
def Recorded (c : Clocked β) : Prop :=
  ∀ time, c.setting = some (.acceptance, time) → c.device.lastLatencyCheckPacketSendTime = time

omit [Cell β] in
theorem records_iff {c : Clocked β} (recorded : c.Recorded) :
    Records c.device c.setting ↔ c.setAt = some c.device.lastLatencyCheckPacketSendTime := by
  unfold Recorded setAt at *
  match set : c.setting with
  | none => simp [Records]
  | some (.handshake, time) => simp [Records, eq_comm]
  | some (.acceptance, time) => simp [Records, recorded time set]

omit [Cell β] in
theorem setAt_of_records {c : Clocked β} (records : Records c.device c.setting) : ∃ time, c.setAt = some time := by
  unfold setAt
  match set : c.setting with
  | none => exact (set ▸ records : Records c.device none).elim
  | some (setter, time) => exact ⟨time, rfl⟩

variable {data}

theorem recorded_next {c : Clocked β} (s : Step) (recorded : c.Recorded) : (c.next data s).Recorded := by
  intro time set
  rw [next_device]
  cases s with
  | process currentTime =>
    rw [sendTime_process]
    simp only [next] at set
    split at set
    case isTrue taken => simp at set
    case isFalse =>
      split at set
      case isTrue accepted => simpa [accepted] using set
      case isFalse waiting => simpa [waiting] using recorded time set
  | init call =>
    rw [sendTime_other data c.device (fun _ => Step.noConfusion)]
    simp only [next] at set
    split at set
    · cases set
    · exact recorded time set
  | _ => exact (sendTime_other data c.device (fun _ => Step.noConfusion)).trans (recorded time set)

omit [Cell β] in
theorem published_refersTo {event : Event} {currentTime time : Int} (refers : event.refersTo currentTime = some time) :
    Published event := by
  cases event with
  | latency nanoseconds => exact Or.inl ⟨nanoseconds, rfl⟩
  | read task stamp => exact Or.inr ⟨task, stamp, rfl⟩
  | _ => cases refers

theorem refersTo_other (d : SlaveDevice β) {s : Step} (other : ∀ currentTime, s ≠ .process currentTime) :
    ∀ event ∈ (d.step data s).2, event.refersTo 0 = none := by
  intro event emitted
  by_contra refers
  obtain ⟨time, refers⟩ := Option.ne_none_iff_exists'.mp refers
  obtain ⟨currentTime, same, _⟩ := published_emitted emitted (published_refersTo refers)
  exact other currentTime same

theorem refersTo_process {d : SlaveDevice β} {currentTime time : Int} {event : Event}
    (emitted : event ∈ (d.step data (.process currentTime)).2) (refers : event.refersTo currentTime = some time) :
    d.accepts = true ∧ time = d.lastLatencyCheckPacketSendTime := by
  obtain ⟨_, same, accepted, what⟩ := published_emitted emitted (published_refersTo refers)
  cases same
  refine ⟨accepted, ?_⟩
  rcases what with rfl | ⟨task, rfl⟩
  · simp only [Event.refersTo, Option.some.injEq] at refers
    omega
  · exact (Option.some.inj refers).symm

theorem stampedRight_iff {c : Clocked β} (s : Step) (recorded : c.Recorded) :
    c.AcknowledgesRecorded s ↔ c.StampedRight data s := by
  cases s with
  | process currentTime =>
    change (c.device.accepts = true → Records c.device c.setting) ↔ (_ → _ ∧ _) ∧ _
    rw [records_iff recorded]
    constructor
    · intro acknowledges
      refine ⟨?_, ?_⟩
      · intro accepted
        rw [currentDataStamp_accepts data accepted]
        exact ⟨acknowledges accepted, accepts_emits data accepted currentTime⟩
      · intro event emitted time refers
        obtain ⟨accepted, rfl⟩ := refersTo_process emitted refers
        exact acknowledges accepted
    · intro stamped accepted
      rw [← currentDataStamp_accepts data accepted currentTime]
      exact (stamped.1 accepted).1
  | _ => exact iff_of_true trivial (refersTo_other c.device (fun _ => Step.noConfusion))

omit [Cell β] in
def Ordered (c : Clocked β) : Prop := ∀ setAt ∈ c.setAt, ∀ time ∈ c.handshakeAt, time ≤ setAt

theorem ordered_next {c : Clocked β} {s : Step} (ordered : c.Ordered) (forward : c.ClockForward s)
    (acknowledges : c.AcknowledgesRecorded s) : (c.next data s).Ordered := by
  cases s with
  | process currentTime =>
    unfold Ordered
    simp only [next]
    split
    case isTrue => simp [setAt]
    case isFalse =>
      split
      case isFalse => exact ordered
      case isTrue accepted =>
        intro setAt set time handshake
        cases set
        -- The accepted number was set after the handshake, and is accepted no earlier than that.
        obtain ⟨before, present⟩ := setAt_of_records (acknowledges accepted)
        exact (ordered before present time handshake).trans (forward before present)
  | init call =>
    unfold Ordered
    simp only [next]
    split
    · intro setAt set
      cases set
    · exact ordered
  | _ => exact ordered

theorem notBeforeHandshake {c : Clocked β} {s : Step} (recorded : c.Recorded) (ordered : c.Ordered)
    (acknowledges : c.AcknowledgesRecorded s) : c.NotBeforeHandshake data s := by
  intro task stamp emitted time handshake
  obtain ⟨currentTime, rfl, accepted, _⟩ := published_emitted emitted (Or.inr ⟨task, stamp, rfl⟩)
  have refers : (Event.read task stamp).refersTo currentTime = some stamp := rfl
  obtain ⟨_, rfl⟩ := refersTo_process emitted refers
  exact ordered _ ((records_iff recorded).mp (acknowledges accepted)) time handshake

omit [Cell β] in
def ClockAdvances (c : Clocked β) : Step → Prop
  | .process currentTime => c.device.lastLatencyCheckPacketSendTime < currentTime
  | _ => True

omit [Cell β] in
def Overdue (c : Clocked β) : Prop :=
  ∀ time, c.setting = some (.handshake, time) → c.device.lastLatencyCheckPacketSendTime < time

theorem overdue_next {c : Clocked β} {s : Step} (overdue : c.Overdue) (advances : c.ClockAdvances s) :
    (c.next data s).Overdue := by
  intro time set
  rw [next_device]
  cases s with
  | process currentTime =>
    rw [sendTime_process]
    simp only [next] at set
    split at set
    case isTrue taken =>
      -- The cycle of a handshake accepts nothing.
      have idle := handshakes_waiting (Bool.and_eq_true_iff.mp taken).2
      simp only [Option.some.injEq, Prod.mk.injEq, true_and] at set
      have kept : c.device.accepts = false := by simp [accepts, counts, idle]
      simp only [kept, Bool.false_eq_true, if_false, ← set]
      exact advances
    case isFalse =>
      split at set
      case isTrue => simp at set
      case isFalse waiting => simpa [waiting] using overdue time set
  | init call =>
    rw [sendTime_other data c.device (fun _ => Step.noConfusion)]
    simp only [next] at set
    split at set
    · cases set
    · exact overdue time set
  | _ => exact (sendTime_other data c.device (fun _ => Step.noConfusion)).trans_lt (overdue time set)

variable (data)

/-- While the clock advances, the first frame that is accepted after a handshake is always stamped
with a time before it. -/
theorem stampedEarly_along (d : SlaveDevice β) (run : List Step)
    (advances : Along (next data) ClockAdvances (start d) run) :
    Along (next data)
      (fun c s => ∀ currentTime time, s = .process currentTime → c.device.accepts = true →
        c.setting = some (.handshake, time) → (c.next data s).device.currentDataStamp < time)
      (start d) run := by
  refine advances.transfer (I := Overdue) (fun _ set => nomatch set) (fun _ _ overdue => overdue_next overdue) ?_
  intro c s overdue _ currentTime time same accepted set
  rw [next_device, same, currentDataStamp_accepts data accepted]
  exact overdue time set

/-- The stamps and latencies of a run are right if and only if no accepted frame acknowledges a
number whose time is not recorded; where the clock does not go back, no sample is then stamped
before the handshake. -/
theorem stampedRight_along_iff (d : SlaveDevice β) (run : List Step) :
    (Along (next data) AcknowledgesRecorded (start d) run ↔ Along (next data) (StampedRight data) (start d) run) ∧
      (Along (next data) (fun c s => c.ClockForward s ∧ c.AcknowledgesRecorded s) (start d) run →
        Along (next data) (NotBeforeHandshake data) (start d) run) := by
  have started : (start d).Recorded := fun _ set => nomatch set
  constructor
  · exact along_iff_along started (fun _ s recorded _ => recorded_next s recorded)
      (fun _ s recorded => stampedRight_iff s recorded)
  · intro forward
    refine forward.transfer (I := fun c => c.Recorded ∧ c.Ordered) ⟨started, fun _ set => nomatch set⟩ ?_ ?_
    · intro c s invariant holds
      exact ⟨recorded_next s invariant.1, ordered_next invariant.2 holds.1 holds.2⟩
    · intro c s invariant holds
      exact notBeforeHandshake invariant.1 invariant.2 holds.2

end Cells

/-- The board with one receiver from its first cycle to the second accepted frame; the handshake
is taken at the given time. -/
def acknowledged (handshakeTime : Int) : List Step :=
  [.receiveFromSlave ⟨1, [1, 0, 1]⟩, .process 0, .receiveFromSlave ⟨1, [2, 0, 1]⟩, .process 0,
   .receiveFromSlave ⟨2, [2, 0, 1]⟩, .process handshakeTime, .receiveFromSlave ⟨3, [0, 0, 0]⟩, .process 2000,
   .receiveFromSlave ⟨4, [0, 0, 0]⟩, .process 3000]

/-- A handshake at the time that the constructor has left as the recorded one. -/
theorem stampedRight_along_recorded :
    Along (next receiverData) (StampedRight receiverData) (start (setUp receiverData boardCall : SlaveDevice UInt8))
        (acknowledged 0) ∧
      Along (next receiverData) (NotBeforeHandshake receiverData)
        (start (setUp receiverData boardCall : SlaveDevice UInt8)) (acknowledged 0) :=
  have stamps := stampedRight_along_iff receiverData (setUp receiverData boardCall : SlaveDevice UInt8) (acknowledged 0)
  ⟨stamps.1.mp (by decide +kernel), stamps.2 (by decide +kernel)⟩

/-- The first number is acknowledged with the time of the constructor, not of its handshake. -/
theorem stampedRight_along_firstAcceptance :
    ¬∀ (data : ConfigurationParser) (d : SlaveDevice UInt8), Configured data d → ∀ run : List Step,
      Along (next data) (StampedRight data) (start d) run := by
  intro always
  exact absurd (always receiverData _ receiver_bytes_configured (acknowledged 1000)) (by decide +kernel)

end Clocked

end EcatMaster.Slave
