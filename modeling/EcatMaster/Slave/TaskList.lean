import EcatMaster.Slave.Init
import EcatMaster.Tasks.Commands
import EcatMaster.Tasks.Decoding
import EcatMaster.Tasks.Isolation

/-! The argument stream of a whole task list.

A configuration is read as the list of its tasks, each with its type and the
fields of its block, and `init_task_list` is shown to serialise exactly this
list. It compares none of the lengths that the configuration declares.
-/

set_option autoImplicit false

namespace EcatMaster.Slave
open Library Config Tasks

/-- The type of a task and the fields that are sent for it, in order. -/
abbrev TaskRecord := UInt8 × List (String × Variant)

/-- What the configuration holds under `sn<N>_app_<i>_sdowrite_`. -/
def appSource (data : ConfigurationParser) (sn : UInt32) (appIdx : Nat) : String → Option Variant :=
  source data (appKey sn appIdx "" ++ "sdowrite_")

def taskTypeOf (data : ConfigurationParser) (sn : UInt32) (appIdx : Nat) : Except Exception UInt8 :=
  getFieldAs Variant.getUint8 data (appKey sn appIdx "sdowrite_task_type")

def taskCountOf (data : ConfigurationParser) (sn : UInt32) : Except Exception UInt8 :=
  getFieldAs Variant.getUint8 data (snKey sn "task_count")

def taskRecord (data : ConfigurationParser) (sn : UInt32) (appIdx : Nat) : Option TaskRecord := do
  let taskType ← (taskTypeOf data sn appIdx).toOption
  let entries ← (blockLayout taskType).collect (appSource data sn appIdx)
  return (taskType, entries)

def apps (taskCount : UInt8) : List Nat := List.range' 1 taskCount.toNat

def configuredTasks (data : ConfigurationParser) (sn : UInt32) : Option (UInt8 × List TaskRecord) := do
  let taskCount ← (taskCountOf data sn).toOption
  let records ← (apps taskCount).mapM (taskRecord data sn)
  return (taskCount, records)

def typeByte (taskType : UInt8) : List UInt8 := [taskType]

def argBytes (tasks : UInt8 × List TaskRecord) : List UInt8 :=
  tasks.1 :: Layout.records typeByte variantBytes tasks.2

theorem appKey_append (sn : UInt32) (appIdx : Nat) (first rest : String) :
    appKey sn appIdx first ++ rest = appKey sn appIdx (first ++ rest) := by
  simp only [appKey, String.append_assoc]

theorem toOption_ok {E A : Type} {call : Except E A} {a : A} : call.toOption = some a ↔ call = .ok a := by
  cases call with
  | error e => exact ⟨nofun, nofun⟩
  | ok other => simp [Except.toOption]

theorem taskRecord_iff {data : ConfigurationParser} {sn : UInt32} {appIdx : Nat} {record : TaskRecord} :
    taskRecord data sn appIdx = some record ↔ taskTypeOf data sn appIdx = .ok record.1 ∧
      (blockLayout record.1).collect (appSource data sn appIdx) = some record.2 := by
  obtain ⟨taskType, entries⟩ := record
  simp only [taskRecord, Option.bind_eq_bind, Option.bind_eq_some_iff, Option.pure_def, Option.some.injEq,
    Prod.mk.injEq, toOption_ok]
  constructor
  · rintro ⟨taskType, found, entries, collected, rfl, rfl⟩
    exact ⟨found, collected⟩
  · rintro ⟨found, collected⟩
    exact ⟨taskType, found, entries, collected, rfl, rfl⟩

theorem configuredTasks_iff {data : ConfigurationParser} {sn : UInt32} {tasks : UInt8 × List TaskRecord} :
    configuredTasks data sn = some tasks ↔
      taskCountOf data sn = .ok tasks.1 ∧ (apps tasks.1).mapM (taskRecord data sn) = some tasks.2 := by
  obtain ⟨taskCount, records⟩ := tasks
  simp only [configuredTasks, Option.bind_eq_bind, Option.bind_eq_some_iff, Option.pure_def, Option.some.injEq,
    Prod.mk.injEq, toOption_ok]
  constructor
  · rintro ⟨taskCount, found, records, collected, rfl, rfl⟩
    exact ⟨found, collected⟩
  · rintro ⟨found, collected⟩
    exact ⟨taskCount, found, records, collected, rfl, rfl⟩

theorem typeByte_stored {data : ConfigurationParser} {sn : UInt32} {appIdx : Nat} {taskType : UInt8}
    {sdo : BuildBufResult} (found : taskTypeOf data sn appIdx = .ok taskType)
    (built : data.buildBuf (appKey sn appIdx "sdowrite_") ["task_type"] = .ok sdo) (s : ArgStream) :
    { buf := overwrite s.buf s.offset (sdo.buf.take sdo.len), offset := s.offset + 1 } =
      s.write (typeByte taskType) := by
  have looked : getFieldAs Variant.getUint8 data (appKey sn appIdx "sdowrite_" ++ "task_type") = .ok taskType := by
    rw [appKey_append]
    exact found
  obtain ⟨variant, here, read⟩ := source_of_getFieldAs looked
  have appended : appendFields data (appKey sn appIdx "sdowrite_") ["task_type"] s = .ok (s.append sdo) := by
    rw [appendFields, built]
    rfl
  obtain ⟨values, stored, written⟩ := appendFields_eq (by decide) appended
  rw [List.map_cons, here, getUint8_ok read] at stored
  obtain ⟨value, rest, rfl, first, others⟩ := List.map_eq_cons_iff.mp stored.symm
  cases first
  cases List.map_eq_nil_iff.mp others
  exact congrArg (fun stream => { stream with offset := s.offset + 1 }) written

theorem length_mapM {A B : Type} {f : A → Option B} {xs : List A} {ys : List B} (mapped : xs.mapM f = some ys) :
    ys.length = xs.length := by
  induction xs generalizing ys with
  | nil =>
    cases mapped
    rfl
  | cons x xs ih =>
    simp only [List.mapM_cons, Option.bind_eq_bind, Option.bind_eq_some_iff, Option.pure_def, Option.some.injEq]
      at mapped
    obtain ⟨y, _, ys, others, rfl⟩ := mapped
    exact congrArg (· + 1) (ih others)

namespace SlaveDevice

section Loop
variable {data : ConfigurationParser} {sn : UInt32} {before after : List TaskWrapper × ArgStream}

theorem initTask_record {appIdx : Nat} (returned : initTask data sn before appIdx = .ok after) :
    ∃ record task, taskRecord data sn appIdx = some record ∧ (makeTask record.1).isSome ∧
      task.body.typeId = record.1 ∧
      after = (before.1 ++ [task], before.2.write (Layout.records typeByte variantBytes [record])) := by
  obtain ⟨taskType, found, returned⟩ := bind_ok returned
  obtain ⟨sdo, built, returned⟩ := bind_ok returned
  have found' : taskTypeOf data sn appIdx = .ok taskType := orThrow_ok found
  simp only [typeByte_stored found' (orThrow_ok built)] at returned
  split at returned
  · cases returned
  · rename_i initSdo made
    obtain ⟨⟨task, s⟩, filled, returned⟩ := bind_ok returned
    obtain ⟨typeId, entries, collected, written⟩ := makeTask_made made data _ _ _ (orThrow_ok filled)
    cases returned
    refine ⟨(taskType, entries), task, taskRecord_iff.mpr ⟨found', collected⟩, by rw [made]; rfl, typeId, ?_⟩
    dsimp only at written
    rw [written, ArgStream.write_append]
    simp only [Layout.records, List.flatMap_cons, List.flatMap_nil, List.append_nil]

theorem initTasks_records {indices : List Nat} (returned : indices.foldlM (initTask data sn) before = .ok after) :
    ∃ records tasks, indices.mapM (taskRecord data sn) = some records ∧
      (∀ record ∈ records, (makeTask record.1).isSome) ∧
      tasks.map (fun task => task.body.typeId) = records.map Prod.fst ∧
      after = (before.1 ++ tasks, before.2.write (Layout.records typeByte variantBytes records)) := by
  induction indices generalizing before with
  | nil =>
    cases returned
    refine ⟨[], [], rfl, by simp, rfl, ?_⟩
    rw [List.append_nil]
    rfl
  | cons appIdx indices ih =>
    rw [List.foldlM_cons] at returned
    obtain ⟨next, first, returned⟩ := bind_ok returned
    obtain ⟨record, task, found, handled, typeId, rfl⟩ := initTask_record first
    obtain ⟨records, tasks, others, handled', typeIds, rfl⟩ := ih returned
    refine ⟨record :: records, task :: tasks, ?_, ?_, ?_, ?_⟩
    · simp only [List.mapM_cons, found, others, Option.bind_eq_bind, Option.bind_some, Option.pure_def]
    · exact List.forall_mem_cons.mpr ⟨handled, handled'⟩
    · rw [List.map_cons, List.map_cons, typeId, typeIds]
    · rw [ArgStream.write_append, List.append_assoc]
      simp only [Layout.records, List.flatMap_cons, List.flatMap_nil, List.append_nil, List.cons_append,
        List.nil_append]

end Loop

variable {β : Type} {data : ConfigurationParser} {d e : SlaveDevice β}

theorem initTaskList_accepted (returned : initTaskList data d = .ok (true, e)) :
    ∃ tasks, configuredTasks data d.sn = some tasks ∧ tasks.2.length = tasks.1.toNat ∧
      (∀ record ∈ tasks.2, (makeTask record.1).isSome) ∧
      e.taskList.map (fun task => task.body.typeId) = tasks.2.map Prod.fst ∧
      sdoLenOf data d.sn = .ok e.argBufLen ∧
      e.argBuf = overwrite (List.replicate e.argBufLen.toNat 0) 0 (argBytes tasks) := by
  rcases initTaskList_cases returned with ⟨refused, _⟩ | ⟨_, argBufLen, taskCount, taskList, s, declared, counted,
    made, rfl⟩
  · cases refused
  obtain ⟨records, tasks, found, handled, typeIds, same⟩ := initTasks_records made
  obtain ⟨rfl, rfl⟩ := Prod.mk.inj same
  refine ⟨(taskCount, records), configuredTasks_iff.mpr ⟨counted, found⟩, ?_, handled, typeIds, declared, ?_⟩
  · exact (length_mapM found).trans List.length_range'
  · exact (overwrite_append _ [taskCount] _ 0).symm

/-- Whenever `init_task_list` returns, it has refused or it has made the configured tasks and
serialised their records, into a buffer of the declared length. -/
theorem initTaskList_returned {done : Bool} (returned : initTaskList data d = .ok (done, e)) :
    done = false ∨ ∃ tasks, configuredTasks data d.sn = some tasks ∧ e.taskList.length = tasks.1.toNat ∧
      e.taskList.map (fun task => task.body.typeId) = tasks.2.map Prod.fst ∧
      (∀ record ∈ tasks.2, (makeTask record.1).isSome) ∧
      sdoLenOf data d.sn = .ok e.argBufLen ∧ e.argBuf.length = e.argBufLen.toNat ∧
      ((argBytes tasks).length ≤ e.argBufLen.toNat →
        e.argBuf = argBytes tasks ++ List.replicate (e.argBufLen.toNat - (argBytes tasks).length) 0) := by
  cases done with
  | false => exact Or.inl rfl
  | true =>
    obtain ⟨tasks, found, count, handled, typeIds, declared, stored⟩ := initTaskList_accepted returned
    refine Or.inr ⟨tasks, found, ?_, typeIds, handled, declared, ?_, ?_⟩
    · rw [← count, ← List.length_map (fun task : TaskWrapper => task.body.typeId), typeIds, List.length_map]
    · rw [stored, length_overwrite, List.length_replicate]
    · intro fits
      rw [stored, overwrite_front _ _ (by rwa [List.length_replicate]), List.drop_replicate]

end SlaveDevice

def openedBoard (data : ConfigurationParser) : SlaveDevice UInt8 :=
  (SlaveDevice.init data boardCall SlaveDevice.new).2

/-- DJI motors with two of the four enabled, the second one with a speed loop, and an output whose
commands begin at this offset. -/
def djiPwmData (pwmOffset : UInt16) : ConfigurationParser where
  fields :=
    [("sn7_sdo_len", .uint16 54), ("sn7_latency_pub_topic", .string "/ecat/latency"), ("sn7_task_count", .uint8 2),
     ("sn7_app_1_sdowrite_task_type", .uint8 DJICAN_APP_ID),
     ("sn7_app_1_sdowrite_connection_lost_write_action", .uint8 0x02),
     ("sn7_app_1_sdowrite_control_period", .uint8 2), ("sn7_app_1_sdowrite_can_packet_id", .uint32 0x200),
     ("sn7_app_1_sdowrite_motor1_can_id", .uint32 0x201), ("sn7_app_1_sdowrite_motor2_can_id", .uint32 0x202),
     ("sn7_app_1_sdowrite_motor3_can_id", .uint32 0), ("sn7_app_1_sdowrite_motor4_can_id", .uint32 0),
     ("sn7_app_1_sdowrite_can_inst", .uint8 1), ("sn7_app_1_sdowrite_motor1_control_type", .uint8 0x01),
     ("sn7_app_1_sdowrite_motor2_control_type", .uint8 0x02),
     ("sn7_app_1_sdowrite_motor2_speed_pid_kp", .float 0x3F800000),
     ("sn7_app_1_sdowrite_motor2_speed_pid_ki", .float 0), ("sn7_app_1_sdowrite_motor2_speed_pid_kd", .float 0),
     ("sn7_app_1_sdowrite_motor2_speed_pid_max_out", .float 0x467A0000),
     ("sn7_app_1_sdowrite_motor2_speed_pid_max_iout", .float 0x45FA0000), ("sn7_app_1_pdowrite_offset", .uint16 0),
     ("sn7_app_1_pub_topic", .string "/ecat/dji/read"), ("sn7_app_1_sub_topic", .string "/ecat/dji/write"),
     ("sn7_app_2_sdowrite_task_type", .uint8 ONBOARD_PWM_APP_ID),
     ("sn7_app_2_sdowrite_connection_lost_write_action", .uint8 0x01), ("sn7_app_2_sdowrite_port_id", .uint8 1),
     ("sn7_app_2_sdowrite_pwm_period", .uint16 20000), ("sn7_app_2_sdowrite_init_value", .uint16 1500),
     ("sn7_app_2_pdowrite_offset", .uint16 pwmOffset), ("sn7_app_2_sub_topic", .string "/ecat/pwm")]

theorem djiPwm_made : SlaveDevice.initTaskList (djiPwmData 12) (openedBoard (djiPwmData 12)) =
    .ok (true, SlaveDevice.setUp (djiPwmData 12) boardCall) := by
  rfl

theorem length_djiPwm (pwmOffset : UInt16) :
    (configuredTasks (djiPwmData pwmOffset) 7).map (fun tasks => (argBytes tasks).length) = some 54 := by
  rfl

theorem initTaskList_returned_djiPwm :
    ∃ tasks, configuredTasks (djiPwmData 12) 7 = some tasks ∧
      tasks.2.map Prod.fst = [DJICAN_APP_ID, ONBOARD_PWM_APP_ID] ∧ (argBytes tasks).length = 54 ∧
      (SlaveDevice.setUp (djiPwmData 12) boardCall : SlaveDevice UInt8).argBuf = argBytes tasks := by
  have serial : (openedBoard (djiPwmData 12)).sn = 7 := rfl
  have argBufLen : (SlaveDevice.setUp (djiPwmData 12) boardCall : SlaveDevice UInt8).argBufLen.toNat = 54 := rfl
  rcases SlaveDevice.initTaskList_returned djiPwm_made with
    refused | ⟨tasks, found, _, typeIds, _, _, _, stored⟩
  · cases refused
  rw [serial] at found
  have length := length_djiPwm 12
  rw [found] at length
  have length : (argBytes tasks).length = 54 := Option.some.inj length
  refine ⟨tasks, found, typeIds.symm.trans rfl, length, ?_⟩
  rw [argBufLen, length] at stored
  rw [stored (Nat.le_refl 54), Nat.sub_self, List.replicate_zero, List.append_nil]

/-- The declared length is the serialised one, and every task stays in the two buffers. -/
structure SlaveDevice.Fits {β : Type} (data : ConfigurationParser) (d : SlaveDevice β) : Prop where
  filled : ∃ tasks, configuredTasks data d.sn = some tasks ∧ (argBytes tasks).length = d.argBufLen.toNat
  commands : ∀ task ∈ d.taskList,
    Inside task.pdowriteOffset.toNat task.body.commandLength d.masterToSlaveBufLen.toNat
  reads : ∀ task ∈ d.taskList, Inside task.pdoreadOffset.toNat task.body.readLength d.slaveToMasterBufLen.toNat

/-- A receiver needs two argument bytes; here one is declared. -/
def shortReceiverData : ConfigurationParser where
  fields := ("sn7_sdo_len", .uint16 1) :: receiverData.fields

/-- The output commands of the board end at byte 80. -/
def farPwmData : ConfigurationParser where
  fields := ("sn7_app_1_pdowrite_offset", .uint16 200) :: (pwmData 0x01).fields

/-- Both are accepted. -/
theorem unfit_configurations_accepted :
    (SlaveDevice.Configured shortReceiverData (SlaveDevice.setUp shortReceiverData boardCall : SlaveDevice UInt8) ∧
      ¬(SlaveDevice.setUp shortReceiverData boardCall : SlaveDevice UInt8).Fits shortReceiverData) ∧
    (SlaveDevice.Configured farPwmData (SlaveDevice.setUp farPwmData boardCall : SlaveDevice UInt8) ∧
      ¬(SlaveDevice.setUp farPwmData boardCall : SlaveDevice UInt8).Fits farPwmData) := by
  refine ⟨⟨SlaveDevice.configured_setUp rfl rfl, ?_⟩, SlaveDevice.configured_setUp rfl rfl, ?_⟩
  · intro fits
    obtain ⟨tasks, found, length⟩ := fits.filled
    have serialised : configuredTasks shortReceiverData 7 = some (1, [(DJIRC_APP_ID, [])]) := rfl
    cases serialised.symm.trans found
    exact absurd length (by decide)
  · intro fits
    have inside := fits.commands ⟨200, 0, 0, 1, .onboardPwm 1500⟩ (List.mem_singleton.mpr rfl)
    exact absurd inside (by decide)

/-- A configuration whose stream a receiver with this table of tags can decode. -/
structure Decodable (tag : UInt8 → String → NumericTag) (data : ConfigurationParser) (sn : UInt32) : Prop where
  /-- Each field under `sdowrite_` has the tag of its task type and name. -/
  follows : ∀ taskCount, taskCountOf data sn = .ok taskCount → ∀ appIdx ∈ apps taskCount, ∀ taskType,
    taskTypeOf data sn appIdx = .ok taskType → ∀ name value, appSource data sn appIdx name = some value →
      Follows (tag taskType) name value
  controls : ∀ taskCount, taskCountOf data sn = .ok taskCount → ∀ appIdx ∈ apps taskCount,
    taskTypeOf data sn appIdx = .ok DJICAN_APP_ID → KnownControls (appSource data sn appIdx)
  declared : ∀ tasks, configuredTasks data sn = some tasks → ∀ sdoLen, SlaveDevice.sdoLenOf data sn = .ok sdoLen →
    (argBytes tasks).length = sdoLen.toNat

section Reading
variable {tag : UInt8 → String → NumericTag} {data : ConfigurationParser} {sn : UInt32}

theorem mem_of_mapM {A B : Type} {f : A → Option B} {xs : List A} {ys : List B} (mapped : xs.mapM f = some ys) {y : B}
    (within : y ∈ ys) : ∃ x ∈ xs, f x = some y := by
  induction xs generalizing ys with
  | nil =>
    cases mapped
    cases within
  | cons x xs ih =>
    simp only [List.mapM_cons, Option.bind_eq_bind, Option.bind_eq_some_iff, Option.pure_def, Option.some.injEq]
      at mapped
    obtain ⟨first, here, rest, others, rfl⟩ := mapped
    rcases List.mem_cons.mp within with rfl | later
    · exact ⟨x, List.mem_cons_self, here⟩
    · obtain ⟨x, listed, found⟩ := ih others later
      exact ⟨x, List.mem_cons_of_mem _ listed, found⟩

theorem Decodable.recorded (decodable : Decodable tag data sn) {tasks : UInt8 × List TaskRecord}
    (found : configuredTasks data sn = some tasks) :
    ∀ record ∈ tasks.2, Layout.Recorded blockLayout (fun taskType => Follows (tag taskType)) Usable record := by
  intro record within
  obtain ⟨counted, mapped⟩ := configuredTasks_iff.mp found
  obtain ⟨appIdx, listed, here⟩ := mem_of_mapM mapped within
  obtain ⟨typed, collected⟩ := taskRecord_iff.mp here
  refine ⟨appSource data sn appIdx, ?_, collected⟩
  apply blockLayout_meets (decodable.follows _ counted appIdx listed _ typed)
  intro dji
  rw [dji] at typed
  exact decodable.controls _ counted appIdx listed typed

theorem typeByte_separates (taskType taskType' : UInt8) (rest rest' : List UInt8)
    (same : typeByte taskType ++ rest = typeByte taskType' ++ rest') : taskType = taskType' ∧ rest = rest' :=
  List.cons.inj same

/-- Two configurations that a receiver with the same table can decode, and that are sent with
the same bytes, have the same tasks with the same values. -/
theorem SlaveDevice.argBuf_determines_tasks {β : Type} {data data' : ConfigurationParser} {d d' e e' : SlaveDevice β}
    (decodable : Decodable tag data d.sn) (decodable' : Decodable tag data' d'.sn)
    (returned : initTaskList data d = .ok (true, e)) (returned' : initTaskList data' d' = .ok (true, e'))
    (same : e.argBuf = e'.argBuf) :
    ∃ tasks, configuredTasks data d.sn = some tasks ∧ configuredTasks data' d'.sn = some tasks := by
  obtain ⟨⟨taskCount, records⟩, found, count, _, _, length, stored⟩ := initTaskList_accepted returned
  obtain ⟨⟨taskCount', records'⟩, found', count', _, _, length', stored'⟩ := initTaskList_accepted returned'
  have fits := decodable.declared _ found _ length
  have fits' := decodable'.declared _ found' _ length'
  rw [overwrite_all _ _ (by rw [List.length_replicate, fits]), List.length_replicate, ← fits, List.take_length] at stored
  rw [overwrite_all _ _ (by rw [List.length_replicate, fits']), List.length_replicate, ← fits', List.take_length]
    at stored'
  rw [stored, stored'] at same
  obtain ⟨rfl, stream⟩ := List.cons.inj same
  have records_same : records = records' :=
    Layout.records_unique typeByte_separates (fun taskType => follows_separates _)
      (fun taskType => blockLayout_delimited taskType) (count.trans count'.symm) (decodable.recorded found)
      (decodable'.recorded found') stream
  rw [← records_same] at found'
  exact ⟨_, found, found'⟩

end Reading

theorem appSource_listed {data : ConfigurationParser} {sn : UInt32} {appIdx : Nat} {P : String → Variant → Prop}
    (listed : ∀ field ∈ data.fields, (appKey sn appIdx "" ++ "sdowrite_").toList <+: field.1.toList →
      P (String.ofList (field.1.toList.drop (appKey sn appIdx "" ++ "sdowrite_").toList.length)) field.2)
    (name : String) (value : Variant) (found : appSource data sn appIdx name = some value) : P name value := by
  obtain ⟨before, after, fields, _⟩ := List.lookup_eq_some_iff.mp found
  have here := listed (appKey sn appIdx "" ++ "sdowrite_" ++ name, value) (by rw [fields]; simp)
  simpa using here

def djiPwmTag (taskType : UInt8) (name : String) : NumericTag :=
  if taskType = ONBOARD_PWM_APP_ID then if name ∈ ["pwm_period", "init_value"] then .uint16 else .uint8
  else if name ∈ "can_packet_id" :: [1, 2, 3, 4].map fun i => motorName i "can_id" then .uint32
  else if name ∈ ["task_type", "connection_lost_write_action", "control_period", "can_inst"] ++
    [1, 2, 3, 4].map fun i => motorName i "control_type" then .uint8
  else .float

theorem djiPwm_decodable {pwmOffset : UInt16}
    (tagged : ∀ app ∈ [(1, DJICAN_APP_ID), (2, ONBOARD_PWM_APP_ID)], ∀ field ∈ (djiPwmData pwmOffset).fields,
      (appKey 7 app.1 "" ++ "sdowrite_").toList <+: field.1.toList →
        HasTag (djiPwmTag app.2
          (String.ofList (field.1.toList.drop (appKey 7 app.1 "" ++ "sdowrite_").toList.length))) field.2) :
    Decodable djiPwmTag (djiPwmData pwmOffset) (openedBoard (djiPwmData pwmOffset)).sn := by
  have serial : (openedBoard (djiPwmData pwmOffset)).sn = 7 := rfl
  have counted : taskCountOf (djiPwmData pwmOffset) 7 = .ok 2 := rfl
  have apps (appIdx : Nat) (within : appIdx ∈ apps 2) : appIdx = 1 ∨ appIdx = 2 := by
    simpa [apps, List.range'] using within
  rw [serial]
  constructor
  case follows =>
    intro taskCount counted' appIdx within taskType typed
    cases counted.symm.trans counted'
    rcases apps appIdx within with rfl | rfl
    · cases typed
      exact appSource_listed (tagged (1, DJICAN_APP_ID) (by decide))
    · cases typed
      exact appSource_listed (tagged (2, ONBOARD_PWM_APP_ID) (by decide))
  case controls =>
    intro taskCount counted' appIdx within typed
    cases counted.symm.trans counted'
    rcases apps appIdx within with rfl | rfl
    · intro i motor canId controlType id enabled control
      rcases (by simpa using motor : i = 1 ∨ i = 2 ∨ i = 3 ∨ i = 4) with rfl | rfl | rfl | rfl
      · cases control
        rfl
      · cases control
        rfl
      · cases control
      · cases control
    · cases typed
  case declared =>
    intro tasks found sdoLen declares
    cases declares
    have length := length_djiPwm pwmOffset
    rw [found] at length
    exact Option.some.inj length

/-- The offset of an output is not sent: two configurations that differ there have one stream. -/
theorem argBuf_determines_tasks_djiPwm :
    ∃ tasks, configuredTasks (djiPwmData 12) 7 = some tasks ∧ configuredTasks (djiPwmData 20) 7 = some tasks := by
  have made : SlaveDevice.initTaskList (djiPwmData 20) (openedBoard (djiPwmData 20)) =
      .ok (true, SlaveDevice.setUp (djiPwmData 20) boardCall) := rfl
  have serial : (openedBoard (djiPwmData 12)).sn = 7 := rfl
  have serial' : (openedBoard (djiPwmData 20)).sn = 7 := rfl
  have determined := SlaveDevice.argBuf_determines_tasks (djiPwm_decodable (by decide +kernel))
    (djiPwm_decodable (by decide +kernel)) djiPwm_made made (by decide +kernel)
  rwa [serial, serial'] at determined

end EcatMaster.Slave
