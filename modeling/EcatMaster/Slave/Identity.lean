import EcatMaster.Slave.Devices

/-! The identity checks of `SlaveDevice::init`.

The serial number pins a device to its board. The verdict on a board should rest
on what this board has answered, but the results of the reads are ignored and the
revision text is shared: what a board does not answer is taken from the recorded
serial number and from the board that was asked before it.
-/

set_option autoImplicit false

namespace EcatMaster.Slave
open Library Config Tasks

abbrev IsDigit (c : UInt8) : Prop := 48 ≤ c ∧ c ≤ 57

/-- A byte that is no digit follows the digits. -/
def digitsEnd : List UInt8 → Bool
  | [] => false
  | c :: text => if IsDigit c then digitsEnd text else true

abbrev IsSpace (c : UInt8) : Prop := c = 32 ∨ 9 ≤ c ∧ c ≤ 13

/-- The text from a byte on that is no space, without a sign. -/
def unsigned (c : UInt8) (text : List UInt8) : List UInt8 := if c = 45 ∨ c = 43 then text else c :: text

def sign (c : UInt8) : Int := if c = 45 then -1 else 1

/-- The number ends within the text, whatever follows it. -/
def numberEnds : List UInt8 → Bool
  | [] => false
  | c :: text => if IsSpace c then numberEnds text else digitsEnd (unsigned c text)

theorem unsigned_append (c : UInt8) (text rest : List UInt8) : unsigned c (text ++ rest) = unsigned c text ++ rest := by
  unfold unsigned
  split
  · rfl
  · rfl

theorem atoi_space {c : UInt8} (space : IsSpace c) (text : List UInt8) : atoi (c :: text) = atoi text := by
  rw [atoi, if_pos space]

theorem atoi_number {c : UInt8} (other : ¬IsSpace c) (text : List UInt8) :
    atoi (c :: text) = sign c * digits (unsigned c text) 0 := by
  rw [atoi, if_neg other, sign, unsigned]
  by_cases minus : c = 45
  · rw [if_pos minus, if_pos minus, if_pos (Or.inl minus), neg_one_mul]
  · rw [if_neg minus, if_neg minus, one_mul]
    by_cases plus : c = 43
    · rw [if_pos plus, if_pos (Or.inr plus)]
    · rw [if_neg plus, if_neg (not_or.mpr ⟨minus, plus⟩)]

theorem digits_append_of_end {text : List UInt8} (ends : digitsEnd text = true) (rest : List UInt8) (value : Int) :
    digits (text ++ rest) value = digits text value := by
  induction text generalizing value with
  | nil => cases ends
  | cons c text ih =>
    rw [List.cons_append, digits, digits]
    split
    case isTrue digit =>
      rw [digitsEnd, if_pos digit] at ends
      exact ih ends _
    case isFalse => rfl

theorem atoi_append_of_end {text : List UInt8} (ends : numberEnds text = true) (rest : List UInt8) :
    atoi (text ++ rest) = atoi text := by
  induction text with
  | nil => cases ends
  | cons c text ih =>
    rw [List.cons_append]
    by_cases space : IsSpace c
    · rw [numberEnds, if_pos space] at ends
      rw [atoi_space space, atoi_space space, ih ends]
    · rw [numberEnds, if_neg space] at ends
      rw [atoi_number space, atoi_number space, unsigned_append, digits_append_of_end ends]

theorem digits_terminated (text rest : List UInt8) (value : Int) :
    digits (text ++ 0 :: rest) value = digits text value := by
  induction text generalizing value with
  | nil => rfl
  | cons c text ih =>
    rw [List.cons_append, digits, digits, ih]

theorem atoi_terminated (text rest : List UInt8) : atoi (text ++ 0 :: rest) = atoi text := by
  induction text with
  | nil => rfl
  | cons c text ih =>
    rw [List.cons_append]
    by_cases space : IsSpace c
    · rw [atoi_space space, atoi_space space, ih]
    · rw [atoi_number space, atoi_number space, unsigned_append, digits_terminated]

theorem digits_append_digit {text : List UInt8} (continued : digitsEnd text = false) {digit : UInt8}
    (isDigit : IsDigit digit) (rest : List UInt8) (value : Int) :
    digits (text ++ digit :: 0 :: rest) value = 10 * digits text value + (digit.toNat - 48) := by
  induction text generalizing value with
  | nil =>
    change digits (digit :: 0 :: rest) value = 10 * value + _
    rw [digits, if_pos isDigit]
    rfl
  | cons c text ih =>
    rw [digitsEnd] at continued
    split at continued
    case isTrue here =>
      rw [List.cons_append, digits, digits, if_pos here, if_pos here]
      exact ih continued _
    case isFalse => cases continued

theorem digits_append_digit_inj {text : List UInt8} (continued : digitsEnd text = false) {digit digit' : UInt8}
    (isDigit : IsDigit digit) (isDigit' : IsDigit digit') {rest : List UInt8}
    (same : digits (text ++ digit :: 0 :: rest) 0 = digits (text ++ digit' :: 0 :: rest) 0) : digit = digit' := by
  rw [digits_append_digit continued isDigit, digits_append_digit continued isDigit'] at same
  apply UInt8.toNat_inj.mp
  omega

theorem atoi_digit {digit : UInt8} (isDigit : IsDigit digit) (rest : List UInt8) :
    atoi (digit :: rest) = digits (digit :: rest) 0 := by
  obtain ⟨low, high⟩ := isDigit
  rw [UInt8.le_iff_toNat_le] at low high
  change 48 ≤ digit.toNat at low
  have noSpace : ¬IsSpace digit := by
    rintro (rfl | ⟨_, control⟩)
    · exact absurd low (by decide)
    · rw [UInt8.le_iff_toNat_le] at control
      change digit.toNat ≤ 13 at control
      omega
  have noSign : digit ≠ 45 ∧ digit ≠ 43 := by
    constructor
    · rintro rfl
      exact absurd low (by decide)
    · rintro rfl
      exact absurd low (by decide)
  rw [atoi_number noSpace, sign, unsigned, if_neg noSign.1, if_neg (not_or.mpr noSign), one_mul]

theorem atoi_append_digit {text : List UInt8} (continued : numberEnds text = false) {digit digit' : UInt8}
    (isDigit : IsDigit digit) (isDigit' : IsDigit digit') (rest : List UInt8)
    (same : atoi (text ++ digit :: 0 :: rest) = atoi (text ++ digit' :: 0 :: rest)) : digit = digit' := by
  induction text with
  | nil =>
    rw [List.nil_append, List.nil_append, atoi_digit isDigit, atoi_digit isDigit'] at same
    exact digits_append_digit_inj rfl isDigit isDigit' (show digits ([] ++ digit :: 0 :: rest) 0 = _ from same)
  | cons c text ih =>
    rw [List.cons_append, List.cons_append] at same
    by_cases space : IsSpace c
    · rw [numberEnds, if_pos space] at continued
      rw [atoi_space space, atoi_space space] at same
      exact ih continued same
    · rw [numberEnds, if_neg space] at continued
      rw [atoi_number space, atoi_number space, unsigned_append, unsigned_append] at same
      have nonzero : sign c ≠ 0 := by
        unfold sign
        split <;> decide
      exact digits_append_digit_inj continued isDigit isDigit' (mul_left_cancel₀ nonzero same)

theorem uint32OfBytes_bytes (value : UInt32) : uint32OfBytes (Io.uint32Bytes value) = value := by
  have twice : ∀ byte : UInt32, byte <<< 8 <<< 8 = byte <<< 16 := fun byte =>
    (UInt32.shiftLeft_add (by decide) (by decide) (by decide)).symm
  have thrice : ∀ byte : UInt32, byte <<< 16 <<< 8 = byte <<< 24 := fun byte =>
    (UInt32.shiftLeft_add (by decide) (by decide) (by decide)).symm
  have bytes := Io.word32_bytes value
  simp only [uint32OfBytes, Io.uint32Bytes, List.foldr_cons, List.foldr_nil, UInt32.shiftLeft_or, twice, thrice,
    UInt32.zero_shiftLeft, UInt32.or_zero, ← UInt32.or_assoc]
  exact bytes

namespace SlaveDevice
variable {β : Type} [Cell β]

theorem init_swRev (data : ConfigurationParser) (call : InitCall) (d : SlaveDevice β) :
    (d.init data call).2.swRev = readSwRev call := by
  rcases init_cases data call d with ⟨_, outcome⟩ | ⟨_, _, outcome⟩ | ⟨_, _, _, outcome⟩ <;> rw [outcome]

omit [Cell β] in
/-- The result of the read is ignored: a board that does not report a number has the recorded one. -/
theorem readSn_unread {call : InitCall} (unread : call.snReply = none) (d : SlaveDevice β) : d.readSn call = d.sn := by
  unfold readSn
  rw [unread]
  exact uint32OfBytes_bytes d.sn

theorem init_sn {d : SlaveDevice β} (known : d.sn ≠ 0) (data : ConfigurationParser) (call : InitCall) :
    (d.init data call).2.sn = d.sn := by
  rcases init_cases data call d with ⟨_, outcome⟩ | ⟨same, _, outcome⟩ | ⟨same, _, _, outcome⟩ <;> rw [outcome]
  -- In the two other cases the board has reported the recorded number.
  · exact same.resolve_left known
  · exact same.resolve_left known

theorem next_sn {d : SlaveDevice β} (known : d.sn ≠ 0) (data : ConfigurationParser) (s : Step) :
    (next data d s).sn = d.sn := by
  by_cases called : ∃ call, s = .init call
  · obtain ⟨call, rfl⟩ := called
    exact init_sn known data call
  · exact (next_kept data d (not_exists.mp called)).sn

/-- Another board is refused, and nothing but its revision and the refusal is noted. -/
theorem init_otherBoard {d : SlaveDevice β} {call : InitCall} (known : d.sn ≠ 0) (other : d.readSn call ≠ d.sn)
    (data : ConfigurationParser) :
    d.init data call = (false, { d with swRev := readSwRev call, isRecoverRejected := true }) := by
  have stranger : ¬d.SameBoard call := not_or.mpr ⟨known, other⟩
  rcases init_cases data call d with ⟨_, outcome⟩ | ⟨same, _⟩ | ⟨same, _⟩
  · exact outcome
  · exact absurd same stranger
  · exact absurd same stranger

/-- Over all runs, of calls of `init` alone or among any other steps. -/
theorem identity_pinned (data : ConfigurationParser) (d : SlaveDevice β) (run : List Step) :
    (d.sn ≠ 0 → (exec (next data) d run).sn = d.sn) ∧
    Along (next data)
      (fun d s => ∀ call, s = .init call → d.sn ≠ 0 → d.readSn call ≠ d.sn →
        d.init data call = (false, { d with swRev := readSwRev call, isRecoverRejected := true })) d run := by
  constructor
  · intro known
    refine exec_invariant (I := fun e : SlaveDevice β => e.sn = d.sn) rfl ?_
    intro e s same
    rw [next_sn (same ▸ known) data s, same]
  · refine along_of_invariant (I := fun _ => True) trivial (fun _ _ _ => trivial) ?_
    intro e s _ call _ known other
    exact init_otherBoard known other data

/-- A configured device after another board has come to its position and gone again. -/
theorem replaced_board_pinned :
    let d : SlaveDevice UInt8 := setUp receiverData boardCall
    let other : InitCall := { boardCall with snReply := some [8, 0, 0, 0] }
    (exec (next receiverData) d [.init other, .resetState, .init boardCall]).sn = 7 ∧
      d.init receiverData other = (false, { d with swRev := 8, isRecoverRejected := true }) := by
  intro d other
  have pinned := identity_pinned receiverData d [.init other, .resetState, .init boardCall]
  have known : d.sn ≠ 0 := by decide
  exact ⟨pinned.1 known, pinned.2.1 other rfl known (by decide)⟩

end SlaveDevice

/-! ## The verdict on a board -/

namespace Slaves
variable {β : Type}

def revision (reply : SdoReply 3) : Int := atoi reply.received

/-- The reply fills the buffer, or the number ends before the bytes of earlier replies begin. -/
def Spelled (reply : SdoReply 3) : Prop := reply.received.length = 3 ∨ numberEnds reply.received = true

instance (reply : SdoReply 3) : Decidable (Spelled reply) := inferInstanceAs (Decidable (_ ∨ _))

/-- The text that a call reads: its reply, what earlier replies have left, the terminating byte. -/
theorem readSwRev_eq (c : BoardCall) (s : Slaves β) :
    SlaveDevice.readSwRev (c.onText s.swRevStr) =
      atoi (c.revReply.received ++ s.swRevStr.drop c.revReply.received.length) :=
  congrArg atoi (ecSDOread_eq s.swRevStr c.revReply (by rw [s.length_swRevStr]; decide))

theorem readSwRev_spelled {c : BoardCall} (spelled : Spelled c.revReply) (s : Slaves β) :
    SlaveDevice.readSwRev (c.onText s.swRevStr) = revision c.revReply := by
  rw [readSwRev_eq]
  rcases spelled with full | ends
  · rw [full, s.terminated]
    exact atoi_terminated _ _
  · exact atoi_append_of_end ends _

section Cells
variable [Cell β]

/-- What the callback returns and the `sw_rev_` that it leaves in the device. -/
def judgement (data : ConfigurationParser) (c : BoardCall) (s : Slaves β) : Option (Bool × Int) := do
  let (accepted, s') ← configEcSlave data c s
  let d ← s'.getSlaveDevice c.slave
  return (accepted, d.swRev)

theorem judgement_eq (data : ConfigurationParser) (c : BoardCall) (s : Slaves β) :
    judgement data c s = (s.getSlaveDevice c.slave).map fun d =>
      ((d.init data (c.onText s.swRevStr)).1, SlaveDevice.readSwRev (c.onText s.swRevStr)) := by
  unfold judgement configEcSlave getSlaveDevice
  cases found : s.slaveDevices[c.slave - 1]? with
  | none => rfl
  | some d =>
    obtain ⟨inRange, _⟩ := List.getElem?_eq_some_iff.mp found
    simp [List.getElem?_set_self inRange, SlaveDevice.init_swRev]

/-- A board is judged only on what it answered: after any two histories that have recorded the
same serial number the verdict and the revision are the same, and there is no verdict but
refusal where one of the reads has failed. -/
def JudgedOnAnswers (β : Type) [Cell β] (c : BoardCall) : Prop :=
  ∀ (data : ConfigurationParser) (count count' : Nat) (history history' : List BoardCall),
    let s : Slaves β := exec (next data) (initSlaveDevicesVector count) history
    let s' : Slaves β := exec (next data) (initSlaveDevicesVector count') history'
    ((s.getSlaveDevice c.slave).map SlaveDevice.sn = (s'.getSlaveDevice c.slave).map SlaveDevice.sn →
      judgement data c s = judgement data c s') ∧
    (c.snReply = none ∨ c.revReply = none → (judgement data c s).map Prod.fst ≠ some true)

theorem verdict_congr {data : ConfigurationParser} {d d' : SlaveDevice β} {call call' : InitCall}
    (serial : d.sn = d'.sn) (board : call.eepId = call'.eepId) (snReply : call.snReply = call'.snReply)
    (swRev : SlaveDevice.readSwRev call = SlaveDevice.readSwRev call') :
    (d.init data call).1 = (d'.init data call').1 := by
  rw [Bool.eq_iff_iff, SlaveDevice.init_accepts_iff, SlaveDevice.init_accepts_iff]
  unfold SlaveDevice.AcceptsBoard SlaveDevice.SameBoard SlaveDevice.readSn
  rw [serial, board, snReply, swRev]

theorem judgement_congr {c : BoardCall} (spelled : Spelled c.revReply) (data : ConfigurationParser)
    {s s' : Slaves β}
    (recorded : (s.getSlaveDevice c.slave).map SlaveDevice.sn = (s'.getSlaveDevice c.slave).map SlaveDevice.sn) :
    judgement data c s = judgement data c s' := by
  have swRev := (readSwRev_spelled spelled s).trans (readSwRev_spelled spelled s').symm
  rw [judgement_eq, judgement_eq]
  cases found : s.getSlaveDevice c.slave with
  | none =>
    rw [found] at recorded
    rw [Option.map_eq_none_iff.mp recorded.symm]
    rfl
  | some d =>
    rw [found] at recorded
    obtain ⟨d', found', serial⟩ := Option.map_eq_some_iff.mp recorded.symm
    have verdict : (d.init data (c.onText s.swRevStr)).1 = (d'.init data (c.onText s'.swRevStr)).1 :=
      verdict_congr serial.symm rfl rfl swRev
    rw [found', Option.map_some, Option.map_some, swRev, verdict]

theorem refused_unread {c : BoardCall} (spelled : Spelled c.revReply)
    (checked : c.snReply ≠ none ∨ revision c.revReply < (registeredModule c.eepId).minSwRev)
    (data : ConfigurationParser) (s : Slaves β) (failed : c.snReply = none ∨ c.revReply = none) :
    (judgement data c s).map Prod.fst ≠ some true := by
  intro accepted
  rw [judgement_eq, Option.map_map] at accepted
  obtain ⟨d, _, verdict⟩ := Option.map_eq_some_iff.mp accepted
  have recent := ((SlaveDevice.init_accepts_iff data d _).mp verdict).2.1
  rw [readSwRev_spelled spelled] at recent
  rcases failed with noSerial | noRevision
  · exact absurd recent (Int.not_le.mpr (checked.resolve_left (not_not.mpr noSerial)))
  · rw [noRevision] at spelled
    exact absurd spelled (by decide)

/-- A board whose serial number cannot be read and whose revision has one digit. -/
def leaving (c : BoardCall) (digit : UInt8) : BoardCall where
  slave := c.slave
  slave_pos := c.slave_pos
  eepId := 0
  snReply := none
  revReply := some ⟨(List.replicate 3 0).set c.revReply.received.length digit, by simp⟩

def left (β : Type) [Cell β] (c : BoardCall) (digit : UInt8) : Slaves β :=
  next ⟨[]⟩ (initSlaveDevicesVector c.slave) (leaving c digit)

theorem left_eq (c : BoardCall) (digit : UInt8) :
    (left β c digit).swRevStr = (List.replicate 3 0).set c.revReply.received.length digit ++ [0] ∧
    ∃ d, (left β c digit).getSlaveDevice c.slave = some d ∧ d.sn = 0 := by
  have opened : (initSlaveDevicesVector c.slave : Slaves β).slaveDevices[c.slave - 1]? = some SlaveDevice.new :=
    opened_getSlaveDevice c.slave_pos (Nat.le_refl _)
  obtain ⟨inRange, _⟩ := List.getElem?_eq_some_iff.mp opened
  have stored := ecSDOread_eq [0, 0, 0, 0] (leaving c digit).revReply (by decide)
  simp only [left, next, configEcSlave, getSlaveDevice, leaving, opened, Option.map_some] at stored ⊢
  refine ⟨?_, _, List.getElem?_set_self inRange, ?_⟩
  · have full : ((List.replicate 3 (0 : UInt8)).set c.revReply.received.length digit).length = 3 := by simp
    refine stored.trans ?_
    change _ ++ List.drop ((List.replicate 3 (0 : UInt8)).set c.revReply.received.length digit).length [0, 0, 0, 0] = _
    rw [full]
    rfl
  · -- The serial number of the new device is 0, and the failed read leaves it.
    have fresh : (SlaveDevice.new : SlaveDevice β).sn = 0 := rfl
    exact (SlaveDevice.init_sn_fresh fresh ⟨[]⟩ _).trans (SlaveDevice.readSn_unread rfl _)

theorem drop_left {k : Nat} (short : k < 3) (digit : UInt8) :
    ((List.replicate 3 0).set k digit ++ [0]).drop k = digit :: 0 :: List.replicate (2 - k) 0 :=
  match k, short with
  | 0, _ => rfl
  | 1, _ => rfl
  | 2, _ => rfl

theorem spelled_of_judged {c : BoardCall} (judged : JudgedOnAnswers β c) : Spelled c.revReply := by
  by_contra unspelled
  obtain ⟨notFull, notEnded⟩ := not_or.mp unspelled
  have short : c.revReply.received.length < 3 := by
    have bound := c.revReply.length_received
    omega
  obtain ⟨text, d, found, serial⟩ := left_eq (β := β) c 49
  obtain ⟨text', d', found', serial'⟩ := left_eq (β := β) c 50
  have same := (judged ⟨[]⟩ c.slave c.slave [leaving c 49] [leaving c 50]).1
  change (Option.map _ ((left β c 49).getSlaveDevice _) = Option.map _ ((left β c 50).getSlaveDevice _)) →
    judgement _ c (left β c 49) = judgement _ c (left β c 50) at same
  rw [judgement_eq, judgement_eq, found, found', Option.map_some, Option.map_some, serial, serial'] at same
  have swRev := congrArg Prod.snd (Option.some.inj (same rfl))
  change SlaveDevice.readSwRev _ = SlaveDevice.readSwRev _ at swRev
  rw [readSwRev_eq, readSwRev_eq, text, text', drop_left short, drop_left short] at swRev
  have digits := atoi_append_digit (Bool.not_eq_true _ ▸ notEnded) (by decide) (by decide) _ swRev
  exact absurd digits (by decide)

theorem checked_of_judged {c : BoardCall} (judged : JudgedOnAnswers β c) (spelled : Spelled c.revReply) :
    c.snReply ≠ none ∨ revision c.revReply < (registeredModule c.eepId).minSwRev := by
  by_contra unchecked
  obtain ⟨noSerial, old⟩ := not_or.mp unchecked
  have unread : c.snReply = none := not_not.mp noSerial
  -- An entry for the serial number 0, which a new device has.
  have refused := (judged ⟨[("sn0_sdo_len", .uint16 0)]⟩ c.slave c.slave [] []).2 (Or.inl unread)
  apply refused
  change (judgement _ c (initSlaveDevicesVector c.slave : Slaves β)).map Prod.fst = some true
  rw [judgement_eq, opened_getSlaveDevice c.slave_pos (Nat.le_refl _), Option.map_some, Option.map_some, Option.some.injEq]
  refine (SlaveDevice.init_accepts_iff _ _ _).mpr ⟨Or.inl rfl, ?_, 0, ?_⟩
  · rw [readSwRev_spelled spelled]
    exact Int.not_lt.mp old
  · rw [SlaveDevice.readSn_unread (congrArg (Option.map Subtype.val) unread)]
    have entry : SlaveDevice.sdoLenOf ⟨[("sn0_sdo_len", .uint16 0)]⟩ 0 = .ok 0 := rfl
    exact entry

theorem judged_on_answers_iff (c : BoardCall) :
    JudgedOnAnswers β c ↔
      Spelled c.revReply ∧ (c.snReply ≠ none ∨ revision c.revReply < (registeredModule c.eepId).minSwRev) := by
  constructor
  · intro judged
    have spelled := spelled_of_judged judged
    exact ⟨spelled, checked_of_judged judged spelled⟩
  · intro ⟨spelled, checked⟩ data count count' history history'
    exact ⟨judgement_congr spelled data, refused_unread spelled checked data _⟩

end Cells

def twoBoardData : ConfigurationParser where
  fields := [("sn5_sdo_len", .uint16 2), ("sn6_sdo_len", .uint16 2)]

/-- The first board answers with its serial number 5 and revision 009. -/
def answeringBoard : BoardCall :=
  ⟨1, by decide, 3, some ⟨[5, 0, 0, 0], by decide⟩, some ⟨[48, 48, 57], by decide⟩⟩

/-- The second board answers with its serial number only. -/
def silentBoard : BoardCall := ⟨2, by decide, 3, some ⟨[6, 0, 0, 0], by decide⟩, none⟩

/-- The second board is accepted with the revision of the first one. -/
theorem silent_board_accepted :
    judgement twoBoardData silentBoard
      (exec (next twoBoardData) (initSlaveDevicesVector 2 : Slaves UInt8) [answeringBoard]) = some (true, 9) ∧
    judgement twoBoardData silentBoard (initSlaveDevicesVector 2 : Slaves UInt8) = some (false, 0) ∧
    ¬JudgedOnAnswers UInt8 silentBoard := by
  have after : judgement twoBoardData silentBoard
      (exec (next twoBoardData) (initSlaveDevicesVector 2 : Slaves UInt8) [answeringBoard]) = some (true, 9) := by
    decide +kernel
  refine ⟨after, by decide +kernel, fun judged => ?_⟩
  have refused := (judged twoBoardData 2 2 [answeringBoard] []).2 (Or.inr rfl)
  exact refused (congrArg (Option.map Prod.fst) after)

end Slaves

end EcatMaster.Slave
