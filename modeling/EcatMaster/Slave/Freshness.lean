import EcatMaster.Library.TokenEcho
import EcatMaster.Slave.StatusByte
import Mathlib.Data.List.InsertIdx

/-! Published samples are fresh.

The device works in a loop with its slave. After `MASTER_READY` the status byte is
a token: the slave sends back the last one that it has received, and the device
takes the next one when it sees the current one. Output and input frames can be
late or lost, but none overtakes another, and a device that gets no new input frame
reads the old one again. The values of the byte come back after a lap, so the frames
carry numbers here that only the proof looks at.
-/

set_option autoImplicit false

namespace EcatMaster.Slave
open Library Config Tasks SlaveDevice

variable {β : Type} [Cell β]

/-- The value of `master_status_` after `n` accepted frames: 3, 4, …, 250, 5, 6, … -/
def statusValue (n : Nat) : UInt8 := UInt8.ofNat (if n < 248 then 3 + n else 5 + (n - 248) % 246)

theorem toNat_statusValue (n : Nat) :
    (statusValue n).toNat = if n < 248 then 3 + n else 5 + (n - 248) % 246 := by
  rw [statusValue, UInt8.toNat_ofNat']
  apply Nat.mod_eq_of_lt
  split
  · omega
  · have := Nat.mod_lt (n - 248) (show 0 < 246 by decide)
    omega

theorem nextMasterStatus_statusValue (n : Nat) : nextMasterStatus (statusValue n) = statusValue (n + 1) := by
  have next (status : UInt8) :
      (nextMasterStatus status).toNat = if 250 ≤ status.toNat then 5 else (status.toNat + 1) % 256 := by
    unfold nextMasterStatus
    by_cases high : status ≥ 250
    · have bound : 250 ≤ status.toNat := UInt8.le_iff_toNat_le.mp high
      rw [if_pos high, if_pos bound]
      rfl
    · have bound : ¬250 ≤ status.toNat := fun bound => high (UInt8.le_iff_toNat_le.mpr bound)
      rw [if_neg high, if_neg bound, UInt8.toNat_add]
      rfl
  apply UInt8.toNat_inj.mp
  rw [next, toNat_statusValue, toNat_statusValue]
  split_ifs <;> omega

theorem statusValue_ne_succ (n : Nat) : statusValue n ≠ statusValue (n + 1) := by
  intro same
  have values := congrArg UInt8.toNat same
  rw [toNat_statusValue, toNat_statusValue] at values
  split_ifs at values <;> omega

theorem ready_le_statusValue (n : Nat) : MASTER_READY ≤ statusValue n := by
  rw [UInt8.le_iff_toNat_le, toNat_statusValue]
  change 3 ≤ _
  split <;> omega

/-- The frame that the slave has been sent, and the number of the setting of `master_status_`
that it carries; 0 is anything before `MASTER_READY`. -/
structure OutputFrame where
  frame : Frame
  token : Nat

structure InputFrame where
  inputs : Inputs
  echo : Echo

structure Loop (β : Type) where
  device : SlaveDevice β
  outputs : List OutputFrame
  /-- What the slave reports, once it has received `MASTER_READY`. -/
  received : Option UInt8
  receivedToken : Nat
  produced : Nat
  inputs : List InputFrame
  /-- The input bytes of the stack. -/
  image : InputFrame
  /-- What `receive_from_slave` has copied last. -/
  read : InputFrame
  current : Nat
  /-- The accepted frames, each with the value of `master_status_` that it acknowledges. -/
  accepted : List (UInt8 × InputFrame)

namespace Loop

inductive Move where
  /-- A step of the program; what it receives is the image. -/
  | step (s : Step)
  | loseOutput (i : Nat)
  | deliver
  | report (status : UInt8) (data : List UInt8)
  | loseInput (i : Nat)
  | arrive

/-- Before it has received `MASTER_READY` the slave reports any status below `SLAVE_CONFIRM_READY`. -/
def reported (l : Loop β) (status : UInt8) : UInt8 :=
  match l.received with
  | some last => last
  | none => if status < SLAVE_CONFIRM_READY then status else SLAVE_INITIALIZING

def next (data : ConfigurationParser) (l : Loop β) : Move → Loop β
  | .step (.receiveFromSlave _) =>
    { l with device := SlaveDevice.next data l.device (.receiveFromSlave l.image.inputs), read := l.image }
  | .step .transferToSlave => { l with outputs := l.outputs ++ [⟨l.device.transferToSlave, l.current⟩] }
  | .step s =>
    let l' := { l with device := SlaveDevice.next data l.device s }
    match s with
    | .process _ =>
      if l.device.accepts then
        { l' with accepted := l.accepted ++ [(l.device.statusBefore, l.read)], current := l.current + 1 }
      else l'
    | _ => l'
  | .loseOutput i => { l with outputs := l.outputs.eraseIdx i }
  | .deliver =>
    match l.outputs with
    | [] => l
    | output :: rest =>
      let status := output.frame.status
      { l with
        outputs := rest
        received := if l.received.isSome ∨ status = MASTER_READY then some status else none
        receivedToken := output.token }
  | .report status data =>
    { l with
      inputs := l.inputs ++ [⟨⟨l.reported status, data⟩, ⟨l.produced, l.receivedToken⟩⟩]
      produced := l.produced + 1 }
  | .loseInput i => { l with inputs := l.inputs.eraseIdx i }
  | .arrive =>
    match l.inputs with
    | [] => l
    | input :: rest => { l with image := input, inputs := rest }

def exchange (l : Loop β) : Exchange where
  accepted := l.accepted.map fun entry => entry.2.echo
  read := l.read.echo
  image := l.image.echo
  inputs := l.inputs.map InputFrame.echo
  produced := l.produced
  received := l.receivedToken
  outputs := l.outputs.map OutputFrame.token
  current := l.current

/-- The status of a frame with this number, where `before` is what it can be before `MASTER_READY`. -/
def Carries (before : UInt8 → Prop) (token : Nat) (status : UInt8) : Prop :=
  token = 0 ∧ before status ∨ ∃ n, token = n + 1 ∧ status = statusValue n

def CarriesInput (input : InputFrame) : Prop :=
  Carries (fun status => status < SLAVE_CONFIRM_READY) input.echo.token input.inputs.status

def CarriesOutput (output : OutputFrame) : Prop :=
  Carries (fun status => status ≠ MASTER_READY) output.token output.frame.status

structure Consistent (l : Loop β) : Prop where
  ordered : l.exchange.InOrder
  outputs : ∀ output ∈ l.outputs, CarriesOutput output
  received : l.receivedToken = 0 ∧ l.received = none ∨
    ∃ n, l.receivedToken = n + 1 ∧ l.received = some (statusValue n)
  inputs : ∀ input ∈ l.inputs, CarriesInput input
  image : CarriesInput l.image
  read : CarriesInput l.read
  status : l.device.slaveStatus = l.read.inputs.status ∨ l.device.slaveStatus = SLAVE_INITIALIZING
  counter : ∃ n, l.current = n + 1 ∧ l.device.masterStatus = statusValue n
  values : l.accepted.map Prod.fst = (List.range l.accepted.length).map statusValue

/-! ## The exchange of numbers -/

def exchangeMove (l : Loop β) : Move → Option Exchange.Move
  | .step (.receiveFromSlave _) => some .read
  | .step .transferToSlave => some .send
  | .step (.process _) => if l.device.accepts then some .accept else none
  | .step _ => none
  | .loseOutput i => some (.loseOutput i)
  | .deliver => some .deliver
  | .report _ _ => some .report
  | .loseInput i => some (.loseInput i)
  | .arrive => some .arrive

def exchangeNext (s : Exchange) : Option Exchange.Move → Exchange
  | none => s
  | some move => s.next move

theorem exchange_next (data : ConfigurationParser) (l : Loop β) (move : Move) :
    (l.next data move).exchange = exchangeNext l.exchange (l.exchangeMove move) := by
  cases move with
  | step s =>
    cases s with
    | process currentTime =>
      simp only [next, exchangeMove]
      split
      · simp [exchange, exchangeNext, Exchange.next]
      · rfl
    | transferToSlave => simp [next, exchangeMove, exchange, exchangeNext, Exchange.next]
    | _ => rfl
  | loseOutput i => simp [next, exchangeMove, exchange, exchangeNext, Exchange.next, List.eraseIdx_map]
  | loseInput i => simp [next, exchangeMove, exchange, exchangeNext, Exchange.next, List.eraseIdx_map]
  | deliver =>
    cases waiting : l.outputs <;> simp [next, exchangeMove, exchange, exchangeNext, Exchange.next, waiting]
  | report status data => simp [next, exchangeMove, exchange, exchangeNext, Exchange.next]
  | arrive =>
    cases waiting : l.inputs <;> simp [next, exchangeMove, exchange, exchangeNext, Exchange.next, waiting]

/-- The device at the time of `MASTER_READY`: the byte has just been set, and nothing that is on
its way carries it or answers it. -/
structure JustReady (l : Loop β) : Prop where
  ready : l.device.masterStatus = MASTER_READY
  outputs : ∀ output ∈ l.outputs, output.token = 0 ∧ output.frame.status ≠ MASTER_READY
  received : l.receivedToken = 0 ∧ l.received = none
  frames : ∀ input ∈ l.read :: l.image :: l.inputs,
    input.echo.token = 0 ∧ input.inputs.status < SLAVE_CONFIRM_READY ∧ input.echo.number < l.produced
  /-- The frames are numbered as they have been produced. -/
  numbered : (l.read :: l.image :: l.inputs).Pairwise fun first later => first.echo.number ≤ later.echo.number
  status : l.device.slaveStatus = l.read.inputs.status ∨ l.device.slaveStatus = SLAVE_INITIALIZING
  current : l.current = 1
  accepted : l.accepted = []

omit [Cell β] in
theorem JustReady.ordered {l : Loop β} (start : l.JustReady) : l.exchange.InOrder := by
  have echoes : l.exchange.echoes = (l.read :: l.image :: l.inputs).map InputFrame.echo := by
    simp [Exchange.echoes, exchange, start.accepted]
  constructor
  case reports =>
    rw [echoes, List.pairwise_map]
    apply start.numbered.imp_of_mem
    intro first later within within' order
    have tokens : first.echo.token = later.echo.token := (start.frames _ within).1.trans (start.frames _ within').1.symm
    exact ⟨Nat.le_of_eq tokens, order, fun _ => tokens⟩
  case past =>
    rw [echoes, List.forall_mem_map]
    intro input within
    obtain ⟨token, _, number⟩ := start.frames input within
    exact ⟨number, by rw [token]; exact Nat.zero_le _⟩
  case tokens =>
    have sent : ∀ token ∈ l.exchange.outputs, token = 0 := by
      intro token within
      obtain ⟨output, listed, rfl⟩ := List.mem_map.mp within
      exact (start.outputs output listed).1
    have received : l.exchange.received = 0 := start.received.1
    have current : l.exchange.current = 1 := start.current
    rw [List.eq_replicate_of_mem sent, received, current]
    refine List.pairwise_cons.mpr ⟨fun _ _ => Nat.zero_le _, ?_⟩
    refine List.pairwise_append.mpr ⟨?_, List.pairwise_singleton _ _, ?_⟩
    · exact List.pairwise_replicate.mpr (Or.inr (Nat.le_refl 0))
    · intro token within
      rw [List.eq_of_mem_replicate within]
      simp
  case close =>
    change l.current ≤ l.read.echo.token + 1
    rw [start.current]
    omega
  case count =>
    change l.current = (l.accepted.map _).length + 1
    rw [start.current, start.accepted]
    rfl
  case counted =>
    change (l.accepted.map _).map _ = List.range' 1 (l.accepted.map _).length
    rw [start.accepted]
    rfl

omit [Cell β] in
theorem JustReady.consistent {l : Loop β} (start : l.JustReady) : l.Consistent where
  ordered := start.ordered
  outputs := fun output within => Or.inl (start.outputs output within)
  received := Or.inl start.received
  inputs := by
    intro input within
    obtain ⟨token, status, _⟩ := start.frames input (List.mem_cons_of_mem _ (List.mem_cons_of_mem _ within))
    exact Or.inl ⟨token, status⟩
  image := by
    obtain ⟨token, status, _⟩ := start.frames l.image (List.mem_cons_of_mem _ List.mem_cons_self)
    exact Or.inl ⟨token, status⟩
  read := by
    obtain ⟨token, status, _⟩ := start.frames l.read List.mem_cons_self
    exact Or.inl ⟨token, status⟩
  status := start.status
  counter := ⟨0, start.current, start.ready⟩
  values := by
    rw [start.accepted]
    rfl

section Consistent
variable {l : Loop β}

omit [Cell β] in
theorem Consistent.fresh (consistent : l.Consistent) (same : l.device.slaveStatus = l.device.masterStatus) :
    l.read.echo.token = l.current := by
  obtain ⟨n, current, status⟩ := consistent.counter
  rcases consistent.ordered.read_cases with now | earlier
  · exact now
  · exfalso
    change l.read.echo.token + 1 = l.current at earlier
    have answered : l.read.inputs.status = statusValue n := by
      rcases consistent.status with read | lost
      · rw [← read, same, status]
      · -- A status that the checker has written is none of the slave.
        have low := ready_le_statusValue n
        rw [← status, ← same, lost] at low
        exact absurd low (by decide)
    rcases consistent.read with ⟨_, below⟩ | ⟨m, token, value⟩
    · rw [answered] at below
      exact absurd (UInt8.lt_of_lt_of_le below (ready_le_statusValue n)) (UInt8.lt_irrefl _)
    · have number : n = m + 1 := by omega
      rw [value, number] at answered
      exact statusValue_ne_succ m answered

omit [Cell β] in
theorem Consistent.statusBefore (consistent : l.Consistent) : l.device.statusBefore = l.device.masterStatus := by
  unfold SlaveDevice.statusBefore
  split
  case isFalse => rfl
  case isTrue taken =>
    obtain ⟨n, current, status⟩ := consistent.counter
    have ready : l.device.slaveStatus = SLAVE_READY := by
      unfold handshakes at taken
      simp only [Bool.and_eq_true, beq_iff_eq] at taken
      exact taken.2
    rcases consistent.status with read | lost
    · rcases consistent.read with ⟨token, _⟩ | ⟨m, _, value⟩
      · have close := consistent.ordered.close
        change l.current ≤ l.read.echo.token + 1 at close
        have first : n = 0 := by omega
        rw [status, first]
        rfl
      · -- A slave that has received `MASTER_READY` does not report `SLAVE_READY`.
        have low := ready_le_statusValue m
        rw [← value, ← read, ready] at low
        exact absurd low (by decide)
    · rw [ready] at lost
      exact absurd lost (by decide)

omit [Cell β] in
theorem Consistent.accepts (consistent : l.Consistent) (accepts : l.device.accepts = true) :
    l.read.echo.token = l.current := by
  obtain ⟨_, counts⟩ := Bool.and_eq_true_iff.mp accepts
  have same : l.device.slaveStatus = l.device.statusBefore := by simpa using (Bool.and_eq_true_iff.mp counts).2
  exact consistent.fresh (same.trans consistent.statusBefore)

theorem Consistent.ordered_next (consistent : l.Consistent) (data : ConfigurationParser) (move : Move) :
    (l.next data move).exchange.InOrder := by
  rw [exchange_next]
  cases moved : l.exchangeMove move with
  | none => exact consistent.ordered
  | some exchanged =>
    apply consistent.ordered.next
    rintro rfl
    -- Only a cycle of the program accepts.
    unfold exchangeMove at moved
    split at moved <;> try cases moved
    split at moved
    case isTrue accepts => exact consistent.accepts accepts
    case isFalse => cases moved

theorem Consistent.process (consistent : l.Consistent) (data : ConfigurationParser) (currentTime : Int) :
    (SlaveDevice.next data l.device (.process currentTime)).slaveStatus = l.device.slaveStatus ∧
      (SlaveDevice.next data l.device (.process currentTime)).masterStatus =
        if l.device.accepts then nextMasterStatus l.device.masterStatus else l.device.masterStatus := by
  cases configured : l.device.isConfigured with
  | false =>
    rw [next_process_skipped configured, SlaveDevice.accepts, configured]
    exact ⟨rfl, rfl⟩
  | true =>
    rw [next_process configured, SlaveDevice.accepts, configured, Bool.true_and]
    refine ⟨rfl, ?_⟩
    dsimp only
    rw [statusAfter, consistent.statusBefore]

theorem quiet_step (data : ConfigurationParser) (d : SlaveDevice β) {s : Step}
    (noReceive : ∀ inputs, s ≠ .receiveFromSlave inputs) (noProcess : ∀ currentTime, s ≠ .process currentTime)
    (noInit : ∀ call, s ≠ .init call) :
    (SlaveDevice.next data d s).masterStatus = d.masterStatus ∧
      ((SlaveDevice.next data d s).slaveStatus = d.slaveStatus ∨
        (SlaveDevice.next data d s).slaveStatus = SLAVE_INITIALIZING) := by
  refine ⟨(next_quiet data d noProcess noInit).1, ?_⟩
  cases s with
  | receiveFromSlave inputs => exact absurd rfl (noReceive inputs)
  | process currentTime => exact absurd rfl (noProcess currentTime)
  | init call => exact absurd rfl (noInit call)
  | resetState => exact Or.inr rfl
  | connectionLost =>
    rw [next_connectionLost]
    exact Or.inr rfl
  | onCommand task msg =>
    rw [next_onCommand]
    exact Or.inl rfl
  | exitReset =>
    rw [next_exitReset]
    exact Or.inl rfl
  | _ => exact Or.inl rfl

omit [Cell β] in
theorem Consistent.quiet (consistent : l.Consistent) {d : SlaveDevice β}
    (kept : d.masterStatus = l.device.masterStatus ∧
      (d.slaveStatus = l.device.slaveStatus ∨ d.slaveStatus = SLAVE_INITIALIZING)) :
    Consistent { l with device := d } where
  ordered := consistent.ordered
  outputs := consistent.outputs
  received := consistent.received
  inputs := consistent.inputs
  image := consistent.image
  read := consistent.read
  status := by
    rcases kept.2 with same | lost
    · rw [same]
      exact consistent.status
    · exact Or.inr lost
  counter := by
    rw [kept.1]
    exact consistent.counter
  values := consistent.values

theorem Consistent.accept (consistent : l.Consistent) (data : ConfigurationParser) (currentTime : Int) :
    (l.next data (.step (.process currentTime))).Consistent := by
  have ordered := consistent.ordered_next data (.step (.process currentTime))
  obtain ⟨slaveStatus, masterStatus⟩ := consistent.process data currentTime
  cases accepts : l.device.accepts with
  | false =>
    have rests : l.next data (.step (.process currentTime)) =
        { l with device := SlaveDevice.next data l.device (.process currentTime) } := by simp [next, accepts]
    rw [accepts] at masterStatus
    rw [rests]
    exact consistent.quiet ⟨masterStatus, Or.inl slaveStatus⟩
  | true =>
    have moved : l.next data (.step (.process currentTime)) =
        { l with
          device := SlaveDevice.next data l.device (.process currentTime)
          accepted := l.accepted ++ [(l.device.statusBefore, l.read)]
          current := l.current + 1 } := by simp [next, accepts]
    rw [moved] at ordered ⊢
    obtain ⟨n, current, status⟩ := consistent.counter
    constructor
    case ordered => exact ordered
    case outputs => exact consistent.outputs
    case received => exact consistent.received
    case inputs => exact consistent.inputs
    case image => exact consistent.image
    case read => exact consistent.read
    case status =>
      rw [slaveStatus]
      exact consistent.status
    case counter =>
      refine ⟨n + 1, congrArg (· + 1) current, ?_⟩
      rw [masterStatus, accepts, if_pos rfl, status, nextMasterStatus_statusValue]
    case values =>
      have count : l.current = (l.accepted.map _).length + 1 := consistent.ordered.count
      have length : n = l.accepted.length := by
        rw [List.length_map] at count
        omega
      rw [List.map_append, consistent.values, List.length_append, List.length_singleton, List.range_succ,
        List.map_append, consistent.statusBefore, status, length]
      rfl

theorem Consistent.deliver (consistent : l.Consistent) (data : ConfigurationParser) :
    (l.next data .deliver).Consistent := by
  have ordered := consistent.ordered_next data .deliver
  cases waiting : l.outputs with
  | nil => simpa only [next, waiting] using consistent
  | cons output rest =>
    have moved : l.next data .deliver = { l with
        outputs := rest
        received := if l.received.isSome ∨ output.frame.status = MASTER_READY then some output.frame.status else none
        receivedToken := output.token } := by simp only [next, waiting]
    rw [moved] at ordered ⊢
    have sent : output ∈ l.outputs := by simp [waiting]
    constructor
    case ordered => exact ordered
    case outputs =>
      intro other within
      exact consistent.outputs other (by rw [waiting]; exact List.mem_cons_of_mem _ within)
    case received =>
      dsimp only
      have listed : output.token ∈ l.exchange.outputs := List.mem_map_of_mem sent
      have later : l.receivedToken ≤ output.token :=
        List.rel_of_pairwise_cons consistent.ordered.tokens (List.mem_append_left _ listed)
      rcases consistent.outputs output sent with ⟨before, other⟩ | ⟨m, token, value⟩
      · rcases consistent.received with ⟨_, nothing⟩ | ⟨n, number, _⟩
        · exact Or.inl ⟨before, by simp [nothing, other]⟩
        · omega
      · refine Or.inr ⟨m, token, ?_⟩
        rcases consistent.received with ⟨number, nothing⟩ | ⟨n, _, something⟩
        · have close : l.current ≤ l.read.echo.token + 1 := consistent.ordered.close
          have read : l.read.echo.token ≤ l.receivedToken := consistent.ordered.read_le
          have bound : output.token ≤ l.current := consistent.ordered.output_le listed
          have first : m = 0 := by omega
          subst first
          rw [value]
          exact if_pos (Or.inr rfl)
        · rw [something, value]
          exact if_pos (Or.inl rfl)
    case inputs => exact consistent.inputs
    case image => exact consistent.image
    case read => exact consistent.read
    case status => exact consistent.status
    case counter => exact consistent.counter
    case values => exact consistent.values

theorem Consistent.report (consistent : l.Consistent) (data : ConfigurationParser) (status : UInt8)
    (bytes : List UInt8) : (l.next data (.report status bytes)).Consistent where
  ordered := consistent.ordered_next data _
  outputs := consistent.outputs
  received := consistent.received
  inputs := by
    intro input within
    rcases List.mem_append.mp within with old | new
    · exact consistent.inputs input old
    · rw [List.mem_singleton.mp new]
      change Carries _ l.receivedToken (l.reported status)
      unfold reported
      rcases consistent.received with ⟨number, nothing⟩ | ⟨n, number, something⟩
      · rw [nothing]
        refine Or.inl ⟨number, ?_⟩
        dsimp only
        split
        case isTrue below => exact below
        case isFalse => decide
      · rw [something]
        exact Or.inr ⟨n, number, rfl⟩
  image := consistent.image
  read := consistent.read
  status := consistent.status
  counter := consistent.counter
  values := consistent.values

theorem Consistent.receive (consistent : l.Consistent) (data : ConfigurationParser) (inputs : Inputs) :
    (l.next data (.step (.receiveFromSlave inputs))).Consistent where
  ordered := consistent.ordered_next data _
  outputs := consistent.outputs
  received := consistent.received
  inputs := consistent.inputs
  image := consistent.image
  read := consistent.image
  status := Or.inl rfl
  counter := consistent.counter
  values := consistent.values

theorem Consistent.send (consistent : l.Consistent) (data : ConfigurationParser) :
    (l.next data (.step .transferToSlave)).Consistent where
  ordered := consistent.ordered_next data _
  outputs := by
    intro output within
    rcases List.mem_append.mp within with old | new
    · exact consistent.outputs output old
    · rw [List.mem_singleton.mp new]
      obtain ⟨n, current, status⟩ := consistent.counter
      exact Or.inr ⟨n, current, status⟩
  received := consistent.received
  inputs := consistent.inputs
  image := consistent.image
  read := consistent.read
  status := consistent.status
  counter := consistent.counter
  values := consistent.values

theorem Consistent.arrive (consistent : l.Consistent) (data : ConfigurationParser) :
    (l.next data .arrive).Consistent := by
  have ordered := consistent.ordered_next data .arrive
  cases waiting : l.inputs with
  | nil => simpa only [next, waiting] using consistent
  | cons input rest =>
    have moved : l.next data .arrive = { l with image := input, inputs := rest } := by simp only [next, waiting]
    rw [moved] at ordered ⊢
    obtain ⟨here, others⟩ := List.forall_mem_cons.mp (waiting ▸ consistent.inputs)
    exact { consistent with ordered, inputs := others, image := here }

theorem Consistent.next (consistent : l.Consistent) (data : ConfigurationParser) (move : Move)
    (noInit : ∀ call, move ≠ .step (.init call)) : (l.next data move).Consistent := by
  cases move with
  | loseOutput i =>
    exact { consistent with
      ordered := consistent.ordered_next data _
      outputs := fun output within => consistent.outputs output (List.mem_of_mem_eraseIdx within) }
  | loseInput i =>
    exact { consistent with
      ordered := consistent.ordered_next data _
      inputs := fun input within => consistent.inputs input (List.mem_of_mem_eraseIdx within) }
  | deliver => exact consistent.deliver data
  | report status bytes => exact consistent.report data status bytes
  | arrive => exact consistent.arrive data
  | step s =>
    cases s with
    | receiveFromSlave inputs => exact consistent.receive data inputs
    | transferToSlave => exact consistent.send data
    | process currentTime => exact consistent.accept data currentTime
    | init call => exact absurd rfl (noInit call)
    | _ => exact consistent.quiet (quiet_step data _ nofun nofun nofun)

end Consistent

/-- What holds whenever a frame is accepted: the slave had received the current setting of the
byte when it produced the frame, and the frame has not been accepted before. -/
def Fresh (l : Loop β) (move : Move) : Prop :=
  ∀ currentTime, move = .step (.process currentTime) → l.device.accepts = true →
    l.read.echo.token = l.current ∧ l.read.echo.number ∉ l.accepted.map fun entry => entry.2.echo.number

omit [Cell β] in
theorem Consistent.not_accepted {l : Loop β} (consistent : l.Consistent) (accepts : l.device.accepts = true) :
    l.read.echo.number ∉ l.accepted.map fun entry => entry.2.echo.number := by
  have distinct := (consistent.ordered.accept (consistent.accepts accepts)).accepted_distinct
  simp only [Exchange.next, exchange, List.map_append, List.map_map, List.map_cons, List.map_nil] at distinct
  obtain ⟨_, _, apart⟩ := List.nodup_append'.mp distinct
  intro within
  exact apart within (List.mem_singleton.mpr rfl)

/-- Between one `MASTER_READY` and the next `init` every accepted frame is fresh, none is accepted
twice, and the acknowledged values follow each other without a gap. -/
theorem accepted_frames_fresh (data : ConfigurationParser) (l : Loop β) (start : l.JustReady) (run : List Move)
    (noInit : ∀ call, Move.step (.init call) ∉ run) :
    Along (next data) Fresh l run ∧
    ((exec (next data) l run).accepted.map fun entry => entry.2.echo.number).Nodup ∧
    (exec (next data) l run).accepted.map Prod.fst =
      (List.range (exec (next data) l run).accepted.length).map statusValue := by
  have moves : Along (next data) (fun _ move => ∀ call, move ≠ .step (.init call)) l run := by
    apply along_of_forall
    rintro move within call rfl
    exact noInit call within
  have done : (exec (next data) l run).Consistent :=
    moves.exec_invariant start.consistent fun l move consistent allowed => consistent.next data move allowed
  refine ⟨?_, ?_, done.values⟩
  · apply moves.transfer start.consistent (fun l move consistent allowed => consistent.next data move allowed)
    rintro l move consistent _ currentTime rfl accepts
    exact ⟨consistent.accepts accepts, consistent.not_accepted accepts⟩
  · have distinct := done.ordered.accepted_distinct
    rwa [exchange, List.map_map] at distinct

def receiverLoop : Loop UInt8 where
  device := { (setUp receiverData boardCall : SlaveDevice UInt8) with
    masterStatus := MASTER_READY, isArgSent := true, slaveStatus := SLAVE_READY }
  outputs := []
  received := none
  receivedToken := 0
  produced := 1
  inputs := []
  image := ⟨⟨SLAVE_READY, []⟩, ⟨0, 0⟩⟩
  read := ⟨⟨SLAVE_READY, []⟩, ⟨0, 0⟩⟩
  current := 1
  accepted := []

/-- Two cycles: the first output frame is lost, so the old input is read again, and of the two
answers to the second one the first is lost. -/
def lateAnswer : List Move :=
  [.step .transferToSlave, .loseOutput 0, .step (.receiveFromSlave ⟨0, []⟩), .step (.process 4),
   .step .transferToSlave, .deliver, .report 0 [], .report 0 [], .loseInput 0, .arrive,
   .step (.receiveFromSlave ⟨0, []⟩), .step (.process 5)]

def promptAnswer : List Move :=
  [.step .transferToSlave, .deliver, .report 0 [], .arrive, .step (.receiveFromSlave ⟨0, []⟩), .step (.process 6)]

/-- Late answers before and after a whole round of the counter. -/
def wholeRound : List Move :=
  lateAnswer ++ lateAnswer ++ (List.replicate 250 promptAnswer).flatten ++ lateAnswer

theorem accepted_frames_fresh_wholeRound :
    (exec (next receiverData) receiverLoop wholeRound).accepted.length = 253 ∧
    Along (next receiverData) Fresh receiverLoop wholeRound ∧
    ((exec (next receiverData) receiverLoop wholeRound).accepted.map fun entry => entry.2.echo.number).Nodup ∧
    (exec (next receiverData) receiverLoop wholeRound).accepted.map Prod.fst =
      (List.range (exec (next receiverData) receiverLoop wholeRound).accepted.length).map statusValue := by
  refine ⟨by decide +kernel, accepted_frames_fresh receiverData receiverLoop ?_ wholeRound ?_⟩
  · constructor
    case ready => rfl
    case outputs => exact nofun
    case received => exact ⟨rfl, rfl⟩
    case frames =>
      intro input within
      obtain rfl : input = ⟨⟨SLAVE_READY, []⟩, ⟨0, 0⟩⟩ := by simpa [receiverLoop] using within
      exact ⟨rfl, by decide, by decide⟩
    case numbered => simp [receiverLoop]
    case status => exact Or.inl rfl
    case current => rfl
    case accepted => rfl
  · intro call
    have late : Move.step (.init call) ∉ lateAnswer := by simp [lateAnswer]
    have prompt : Move.step (.init call) ∉ (List.replicate 250 promptAnswer).flatten := by
      rw [List.mem_flatten]
      rintro ⟨cycle, among, within⟩
      rw [List.eq_of_mem_replicate among] at within
      simp [promptAnswer] at within
    simp only [wholeRound, List.mem_append, late, prompt, or_self, not_false_iff]

-- A lost frame accepts nothing, and after 250 the byte goes on with 5.
example : (exec (next receiverData) receiverLoop (lateAnswer ++ lateAnswer)).accepted.map Prod.fst = [3, 4] := by
  decide +kernel

end Loop

end EcatMaster.Slave
