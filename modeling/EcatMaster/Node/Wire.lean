import EcatMaster.Node.Threads
import EcatMaster.Slave.StatusByte

/-! What a running node puts on the wire, under every order of the threads.

A slave within the threads runs as a station does alone, so the frames are those of
configured devices; the order of transfers and sends is the work of the data thread.
-/

set_option autoImplicit false

namespace EcatMaster.Node
open Library Config Slave SlaveDevice Tasks

namespace Wire
variable {β : Type}

/-- What a device of a running node keeps: it is configured for the bus, its buffer covers a
frame, and the frame has the length that is registered for a module. -/
structure Sound (d : SlaveDevice β) : Prop where
  status : d.StatusRange
  configured : d.isEcatConfDone = true
  allocated : d.Allocated
  registered : ∃ eepId, d.masterToSlaveBufLen = (registeredModule eepId).masterToSlaveBufLen

section Cells
variable [Cell β] {data : ConfigurationParser}

theorem configured_sound {d : SlaveDevice β} (configured : Configured data d) : Sound d where
  status := configured_statusRange configured
  configured := by
    obtain ⟨call, sn, sdoLen, argBuf, taskList, _, _, rfl⟩ := configured_eq configured
    rfl
  allocated := configured_allocated configured
  registered := by
    obtain ⟨call, sn, sdoLen, argBuf, taskList, _, _, rfl⟩ := configured_eq configured
    exact ⟨call.eepId, rfl⟩

theorem next_sound {d : SlaveDevice β} (s : Step) (sound : Sound d) : Sound (SlaveDevice.next data d s) where
  status := next_statusRange data s sound.status
  configured := by
    by_cases calls : ∃ call, s = .init call
    · obtain ⟨call, rfl⟩ := calls
      rw [SlaveDevice.next, step, init_isEcatConfDone, sound.configured]
      rfl
    · rw [(next_kept data d (not_exists.mp calls)).isEcatConfDone, sound.configured]
  allocated := next_allocated data s sound.allocated
  registered := by
    by_cases calls : ∃ call, s = .init call
    · obtain ⟨call, rfl⟩ := calls
      rcases init_vectors data call d with ⟨_, same, _⟩ | ⟨_, _, _, opened, _⟩
      · rw [SlaveDevice.next, step, same]
        exact sound.registered
      · exact ⟨call.eepId, opened⟩
    · rw [(next_kept data d (not_exists.mp calls)).outputLen]
      exact sound.registered

theorem station_sound (s : Station β) (m : Slave.Move) (sound : Sound s.device) :
    Sound (s.next data m).device := by
  rw [Station.next_steps]
  exact exec_invariant sound fun _ step => next_sound step

structure FrameSound (f : Frame) : Prop where
  noReboot : f.status ≠ MASTER_REQUEST_REBOOT
  counted : 2 ≤ f.status ∧ f.status ≤ 250
  length : ∃ eepId, f.data.length = (registeredModule eepId).masterToSlaveBufLen.toNat

theorem transferred_sound {d : SlaveDevice β} (sound : Sound d) : FrameSound d.transferToSlave := by
  have range : 2 ≤ d.masterStatus ∧ d.masterStatus ≤ 250 := by
    rcases sound.status with ⟨_, unconfigured⟩ | range
    · rw [sound.configured] at unconfigured
      cases unconfigured
    · exact range
  refine ⟨?_, range, ?_⟩
  · intro reboot
    rw [show d.masterStatus = _ from reboot] at range
    exact absurd range.1 (by decide)
  · obtain ⟨eepId, length⟩ := sound.registered
    refine ⟨eepId, ?_⟩
    rw [← length, transferToSlave, List.length_map, commandArea, List.length_take]
    exact Nat.min_eq_left sound.allocated

end Cells

end Wire

namespace Threads
variable {β : Type} [Cell β] {data : ConfigurationParser} {bus : Bus}

open Wire

theorem stations_sound {node : EthercatNode β} (returned : setupEcat data bus = .ok (true, node)) (expectedWkc : Int)
    (run : List Action) : ∀ s ∈ (exec (next data) (start node expectedWkc) run).stations, Sound s.device := by
  apply family_invariant next_stations (I := fun s : Station β => Sound s.device) station_sound
  intro s member
  obtain ⟨d, within, rfl⟩ := List.mem_map.mp member
  exact configured_sound (setup_configured returned d within)

theorem frame_marked {t : Threads β} {a : Action} {i : Nat} {f : Frame} (marked : .frame i f ∈ t.marks a) :
    ∃ s, t.stations[i]? = some s ∧ f = s.device.transferToSlave := by
  cases a with
  | data io =>
    simp only [marks, dataMarks] at marked
    split at marked
    · split at marked <;> simp at marked
    · obtain ⟨s, found, same⟩ := Option.map_eq_some_iff.mp (Option.mem_toList.mp marked)
      cases same
    · obtain ⟨s, found, same⟩ := Option.map_eq_some_iff.mp (Option.mem_toList.mp marked)
      cases same
      exact ⟨s, found, rfl⟩
    · simp at marked
    · cases marked
  | shutdown =>
    simp only [marks] at marked
    split at marked <;> simp at marked
  | check ok answer => cases marked
  | command slave task msg => cases marked

/-- Whatever the order of the threads, each frame asks for no reboot, carries a status byte of the
counter or of the argument mode, and has the length of a registered module. -/
theorem frames_sound {node : EthercatNode β} (returned : setupEcat data bus = .ok (true, node)) (expectedWkc : Int)
    (run : List Action) (i : Nat) (f : Frame) (sent : .frame i f ∈ log data (start node expectedWkc) run) :
    i < node.slaves.slaveDevices.length ∧ FrameSound f := by
  obtain ⟨first, a, rest, rfl, marked⟩ := mem_labels sent
  obtain ⟨s, found, rfl⟩ := frame_marked marked
  have sound := stations_sound returned expectedWkc first s (List.mem_of_getElem? found)
  refine ⟨?_, transferred_sound sound⟩
  have inside : i < (exec (next data) (start node expectedWkc) first).stations.length :=
    (List.getElem?_eq_some_iff.mp found).1
  rwa [family_length next_stations, start, List.length_map] at inside

theorem frames_sound_receiver :
    .frame 0 ⟨MASTER_SENDING_ARGUMENTS, 1 :: 0 :: 1 :: List.replicate 77 0⟩ ∈
        log receiverData (start receiverNode 1) (List.replicate 10 silent) ∧
      FrameSound ⟨MASTER_SENDING_ARGUMENTS, 1 :: 0 :: 1 :: List.replicate 77 0⟩ :=
  have sent : .frame 0 ⟨MASTER_SENDING_ARGUMENTS, 1 :: 0 :: 1 :: List.replicate 77 0⟩ ∈
      log receiverData (start receiverNode 1) (List.replicate 10 silent) := by decide +kernel
  ⟨sent, (frames_sound receiver_setup 1 (List.replicate 10 silent) 0 _ sent).2⟩

/-- A transfer to the SOEM stack, or the frame that carries all of them. -/
def wire : Mark → Option (Option Nat)
  | .frame i _ => some (some i)
  | .send => some none
  | _ => none

/-- Each slave is transferred once, in order, and then the frame is sent. -/
def rounds (slaves : Nat) : Nat → List (Option Nat)
  | 0 => []
  | n + 1 => rounds slaves n ++ ((List.range slaves).map some ++ [none])

def pending (slaves : Nat) : DataPhase → Nat
  | .transfer i => i
  | .send => slaves
  | _ => 0

/-- How far the data thread has come on the wire. -/
def OnWire (t : Threads β) (log : List Mark) : Prop :=
  pending t.stations.length t.data ≤ t.stations.length ∧
  ∃ n, log.filterMap wire =
    rounds t.stations.length n ++ (List.range (pending t.stations.length t.data)).map some

theorem quiet_wire (t : Threads β) {a : Action} (other : a.isData = false) : (t.marks a).filterMap wire = [] := by
  cases a with
  | data io => cases other
  | check ok answer => rfl
  | shutdown =>
    rw [marks]
    split <;> rfl
  | command i task msg => rfl

theorem quiet_turn {t : Threads β} (slaves : Nat) (noTransfer : ∀ i, t.data ≠ .transfer i) (noSend : t.data ≠ .send) :
    pending slaves t.data = 0 ∧ t.dataMarks.filterMap wire = [] ∧ pending slaves t.dataNext = 0 := by
  unfold dataMarks dataNext nextSlave
  cases phase : t.data with
  | transfer i => exact absurd phase (noTransfer i)
  | send => exact absurd phase noSend
  | exitReset i =>
    refine ⟨rfl, ?_, ?_⟩
    · dsimp only
      cases t.stations[i]? <;> rfl
    · dsimp only
      split_ifs <;> rfl
  | _ =>
    refine ⟨rfl, ?_, ?_⟩
    all_goals
      dsimp only
      first | rfl | (split_ifs <;> rfl)

theorem onWire_data {t : Threads β} {log : List Mark} (io : Exchange) (on : OnWire t log) :
    OnWire (t.next data (.data io)) (log ++ t.dataMarks) := by
  obtain ⟨inside, n, order⟩ := on
  have slaves := length_next data t (.data io)
  cases phase : t.data with
  | transfer i =>
    rw [phase] at inside order
    change i ≤ t.stations.length at inside
    by_cases more : i < t.stations.length
    case pos =>
      have moved : (t.next data (.data io)).data = .transfer (i + 1) := dataNext_transfer phase more
      have marked : t.dataMarks.filterMap wire = [some i] := by
        rw [dataMarks_transfer phase more]
        rfl
      rw [OnWire, slaves, moved]
      refine ⟨more, n, ?_⟩
      rw [List.filterMap_append, marked, order, pending, pending, List.range_succ, List.map_append,
        List.append_assoc]
      rfl
    case neg =>
      have last : i = t.stations.length := by omega
      have moved : (t.next data (.data io)).data = .send := dataNext_transferred phase (Nat.not_lt.mp more)
      have marked : t.dataMarks.filterMap wire = [] := by
        simp only [dataMarks, phase, List.getElem?_eq_none (Nat.not_lt.mp more)]
        rfl
      rw [OnWire, slaves, moved]
      refine ⟨Nat.le_refl _, n, ?_⟩
      rw [List.filterMap_append, marked, order, last, List.append_nil]
      rfl
  | send =>
    rw [phase] at order
    have moved : (t.next data (.data io)).data = .loop := dataNext_send phase
    have marked : t.dataMarks.filterMap wire = [none] := by
      rw [dataMarks_send phase]
      rfl
    rw [OnWire, slaves, moved]
    refine ⟨Nat.zero_le _, n + 1, ?_⟩
    rw [List.filterMap_append, marked, order, List.append_assoc]
    exact (List.append_nil _).symm
  | _ =>
    obtain ⟨before, marked, after⟩ := quiet_turn t.stations.length (fun _ => by simp [phase])
      (show t.data ≠ .send by simp [phase])
    have still : pending t.stations.length (t.next data (.data io)).data = 0 := after
    rw [OnWire, slaves, still]
    refine ⟨Nat.zero_le _, n, ?_⟩
    rw [List.filterMap_append, marked, order, before, List.append_nil]

theorem onWire_next (data : ConfigurationParser) {t : Threads β} {log : List Mark} (a : Action) (on : OnWire t log) :
    OnWire (t.next data a) (log ++ t.marks a) := by
  by_cases turn : a.isData = true
  · cases a with
    | data io => exact onWire_data io on
    | _ => cases turn
  · have other := Bool.eq_false_iff.mpr turn
    have same : (t.next data a).data = t.data := (next_other data t other).1
    rw [OnWire, length_next, same, List.filterMap_append, quiet_wire t other, List.append_nil]
    exact on

/-- Between two sends each slave is transferred exactly once, in the order of the bus; at the end of
the run some of the transfers of the next send may have been made. -/
theorem transfers_complete (node : EthercatNode β) (expectedWkc : Int) (run : List Action) :
    ∃ n pending, pending ≤ node.slaves.slaveDevices.length ∧
      (log data (start node expectedWkc) run).filterMap wire =
        rounds node.slaves.slaveDevices.length n ++ (List.range pending).map some := by
  have before : OnWire (start node expectedWkc) [] := by
    have quiet : pending (start node expectedWkc).stations.length (start node expectedWkc).data = 0 := by
      simp only [start]
      split <;> rfl
    refine ⟨quiet ▸ Nat.zero_le _, 0, ?_⟩
    rw [quiet]
    rfl
  obtain ⟨inside, n, order⟩ := labels_invariant before (fun _ a _ => onWire_next data a) run
  have slaves : (exec (next data) (start node expectedWkc) run).stations.length =
      node.slaves.slaveDevices.length := by
    rw [family_length next_stations, start, List.length_map]
  rw [slaves] at inside order
  exact ⟨n, _, inside, order⟩

end Threads

end EcatMaster.Node
