import EcatMaster.Config.Yaml
import Mathlib.Data.List.Nodup

/-! What is found after loading.

The tree of slaves, tasks and fields is flattened to keys that are joined by
underscores, while the names contain underscores and digits themselves. A key
still tells its serial number, its task number and its name, because the numbers
are written without underscores.
-/

set_option autoImplicit false

namespace EcatMaster.Config

/-- Where a value belongs: a field of a slave, or a field of one of its tasks. -/
inductive Address where
  | slave (sn : UInt32) (name : String)
  | task (sn : UInt32) (appIdx : UInt16) (name : String)

namespace Address

def key : Address → String
  | .slave sn name => snKey sn name
  | .task sn appIdx name => appKey sn appIdx.toNat name

/-- The names that would be taken for a task are not used for a slave. -/
def Proper : Address → Prop
  | .slave _ name => ¬"app_".toList <+: name.toList
  | .task _ _ _ => True

/-- What follows the serial number in the key. -/
def suffix : Address → List Char
  | .slave _ name => name.toList
  | .task _ appIdx name => "app_".toList ++ (Nat.toDigits 10 appIdx.toNat ++ '_' :: name.toList)

def sn : Address → UInt32
  | .slave sn _ => sn
  | .task sn _ _ => sn

theorem toList_key (address : Address) :
    address.key.toList = 's' :: 'n' :: (Nat.toDigits 10 address.sn.toNat ++ '_' :: address.suffix) := by
  cases address <;> simp [key, snKey, appKey, suffix, sn]

theorem separator_unique {A : Type} {separator : A} {first first' rest rest' : List A} (clear : separator ∉ first)
    (clear' : separator ∉ first') (same : first ++ separator :: rest = first' ++ separator :: rest') :
    first = first' ∧ rest = rest' := by
  rcases List.append_eq_append_iff.mp same with ⟨gap, rfl, later⟩ | ⟨gap, rfl, later⟩
  all_goals
    cases gap with
    | nil => simpa [eq_comm] using later
    | cons c gap =>
      obtain ⟨rfl, _⟩ := List.cons.inj later
      simp at clear clear'

/-- A decimal number ends where the first underscore is. -/
theorem digits_separate {n n' : Nat} {rest rest' : List Char}
    (same : Nat.toDigits 10 n ++ '_' :: rest = Nat.toDigits 10 n' ++ '_' :: rest') : n = n' ∧ rest = rest' := by
  have none : ∀ m : Nat, '_' ∉ Nat.toDigits 10 m := fun _ => Nat.underscore_not_in_toDigits
  obtain ⟨digits, others⟩ := separator_unique (none n) (none n') same
  refine ⟨?_, others⟩
  rw [← Nat.ofDigitChars_ten_toDigits (n := n), digits, Nat.ofDigitChars_ten_toDigits]

theorem key_injective {address address' : Address} (proper : address.Proper) (proper' : address'.Proper)
    (same : address.key = address'.key) : address = address' := by
  have characters := congrArg String.toList same
  rw [toList_key, toList_key] at characters
  obtain ⟨serial, suffixes⟩ := digits_separate (List.cons.inj (List.cons.inj characters).2).2
  have sns : address.sn = address'.sn := UInt32.toNat_inj.mp serial
  cases address with
  | slave sn name =>
    cases address' with
    | slave sn' name' =>
      cases sns
      rw [String.toList_inj.mp suffixes]
    | task sn' appIdx' name' =>
      -- The name of the slave field would begin like a task.
      have begins : "app_".toList <+: name.toList := ⟨_, suffixes.symm⟩
      exact absurd begins proper
  | task sn appIdx name =>
    cases address' with
    | slave sn' name' =>
      have begins : "app_".toList <+: name'.toList := ⟨_, suffixes⟩
      exact absurd begins proper'
    | task sn' appIdx' name' =>
      cases sns
      obtain ⟨number, names⟩ := digits_separate (List.append_cancel_left suffixes)
      rw [UInt16.toNat_inj.mp number, String.toList_inj.mp names]

end Address

namespace ConfigurationParser

def setAll (data : ConfigurationParser) (writes : List (String × Variant)) : ConfigurationParser :=
  writes.foldl (fun data write => data.set write.1 write.2) data

theorem setAll_append (data : ConfigurationParser) (first later : List (String × Variant)) :
    data.setAll (first ++ later) = (data.setAll first).setAll later := List.foldl_append

theorem lookup_set_same (data : ConfigurationParser) (key : String) (value : Variant) :
    (data.set key value).fields.lookup key = some value := by
  simp [set]

theorem lookup_set_other (data : ConfigurationParser) {key other : String} (value : Variant) (different : other ≠ key) :
    (data.set key value).fields.lookup other = data.fields.lookup other := by
  have unlike : (other == key) = false := by simpa using different
  rw [set, List.lookup_cons, unlike]
  change (data.fields.filter fun field => field.1 ≠ key).lookup other = data.fields.lookup other
  induction data.fields with
  | nil => rfl
  | cons field fields ih =>
    by_cases kept : field.1 = key
    · have skipped : (other == field.1) = false := by rwa [kept]
      rw [List.filter_cons_of_neg (by simpa using kept), List.lookup_cons, skipped]
      exact ih
    · rw [List.filter_cons_of_pos (by simpa using kept), List.lookup_cons, List.lookup_cons, ih]

theorem lookup_setAll_other (data : ConfigurationParser) {writes : List (String × Variant)} {key : String}
    (missing : key ∉ writes.map Prod.fst) : (data.setAll writes).fields.lookup key = data.fields.lookup key := by
  induction writes generalizing data with
  | nil => rfl
  | cons write writes ih =>
    rw [List.map_cons, List.mem_cons, not_or] at missing
    exact (ih _ missing.2).trans (lookup_set_other data write.2 missing.1)

theorem lookup_setAll (data : ConfigurationParser) {writes : List (String × Variant)}
    (distinct : (writes.map Prod.fst).Nodup) {key : String} {value : Variant} (within : (key, value) ∈ writes) :
    (data.setAll writes).fields.lookup key = some value := by
  induction writes generalizing data with
  | nil => cases within
  | cons write writes ih =>
    obtain ⟨first, others⟩ := List.nodup_cons.mp distinct
    rcases List.mem_cons.mp within with rfl | later
    · exact (lookup_setAll_other _ first).trans (lookup_set_same data key value)
    · exact ih _ others later

end ConfigurationParser

inductive ScalarType where
  | uint8
  | int8
  | uint16
  | int16
  | uint32
  | int32
  | float
  | string
  deriving DecidableEq

namespace ScalarType

def tag : ScalarType → String
  | .uint8 => "!uint8_t"
  | .int8 => "!int8_t"
  | .uint16 => "!uint16_t"
  | .int16 => "!int16_t"
  | .uint32 => "!uint32_t"
  | .int32 => "!int32_t"
  | .float => "!float"
  | .string => "!std::string"

/-- A float is its pattern. -/
def Value : ScalarType → Type
  | .uint8 => UInt8
  | .int8 => Int8
  | .uint16 => UInt16
  | .int16 => Int16
  | .uint32 => UInt32
  | .int32 => Int32
  | .float => UInt32
  | .string => String

def toVariant : (type : ScalarType) → type.Value → Variant
  | .uint8 => .uint8
  | .int8 => .int8
  | .uint16 => .uint16
  | .int16 => .int16
  | .uint32 => .uint32
  | .int32 => .int32
  | .float => .float
  | .string => .string

/-- `std::get<T>`. -/
def get : (type : ScalarType) → Variant → Except Exception type.Value
  | .uint8 => Variant.getUint8
  | .int8 => Variant.getInt8
  | .uint16 => Variant.getUint16
  | .int16 => Variant.getInt16
  | .uint32 => Variant.getUint32
  | .int32 => Variant.getInt32
  | .float => Variant.getFloat
  | .string => Variant.getString

theorem get_toVariant (type : ScalarType) (value : type.Value) : type.get (type.toVariant value) = .ok value := by
  cases type <;> rfl

end ScalarType

/-- `as<T>`. -/
def YamlCpp.as (yaml : YamlCpp) : (type : ScalarType) → String → Except Exception type.Value
  | .uint8 => yaml.asUint8
  | .int8 => yaml.asInt8
  | .uint16 => yaml.asUint16
  | .int16 => yaml.asInt16
  | .uint32 => yaml.asUint32
  | .int32 => yaml.asInt32
  | .float => yaml.asFloat
  | .string => yaml.asString

theorem YamlCpp.value_tag (yaml : YamlCpp) {type : ScalarType} {text : String} {value : type.Value}
    (reads : yaml.as type text = .ok value) : yaml.value type.tag text = .ok (type.toVariant value) := by
  cases type
  all_goals
    dsimp only [as] at reads
    simp only [YamlCpp.value, ScalarType.tag, reads, String.reduceEq, if_true, if_false]
    rfl

structure Scalar (yaml : YamlCpp) where
  type : ScalarType
  text : String
  value : type.Value
  reads : yaml.as type text = .ok value

/-- The map under `app_<i>`. -/
structure TaskEntry (yaml : YamlCpp) where
  appIdx : UInt16
  fields : List (String × Scalar yaml)
  distinct : (fields.map Prod.fst).Nodup

/-- The map under `sn<N>`; the list of tasks stands somewhere among the fields. -/
structure SlaveEntry (yaml : YamlCpp) where
  sn : UInt32
  fields : List (String × Scalar yaml)
  distinct : (fields.map Prod.fst).Nodup
  proper : ∀ field ∈ fields, ¬"app_".toList <+: field.1.toList
  tasks : List (TaskEntry yaml)
  tasksDistinct : (tasks.map TaskEntry.appIdx).Nodup
  tasksAt : Nat

structure Document (yaml : YamlCpp) where
  slaves : List (SlaveEntry yaml)
  distinct : (slaves.map SlaveEntry.sn).Nodup

section Nodes
variable {yaml : YamlCpp}

def Scalar.variant (scalar : Scalar yaml) : Variant := scalar.type.toVariant scalar.value

def fieldNode (field : String × Scalar yaml) : Key × Node :=
  (.scalar field.1, .scalar field.2.type.tag field.2.text)

def TaskEntry.node (task : TaskEntry yaml) : Node :=
  .map [(.scalar ("app_" ++ toString task.appIdx.toNat), .map (task.fields.map fieldNode))]

def SlaveEntry.node (slave : SlaveEntry yaml) : Node :=
  .map [(.scalar ("sn" ++ toString slave.sn.toNat), .map ((slave.fields.take slave.tasksAt).map fieldNode ++
    (.scalar "tasks", .sequence (slave.tasks.map TaskEntry.node)) :: (slave.fields.drop slave.tasksAt).map fieldNode))]

def Document.node (document : Document yaml) : Node :=
  .map [(.scalar "slaves", .sequence (document.slaves.map SlaveEntry.node))]

abbrev Entry := Address × Variant

def TaskEntry.entries (sn : UInt32) (task : TaskEntry yaml) : List Entry :=
  task.fields.map fun field => (.task sn task.appIdx field.1, field.2.variant)

def SlaveEntry.fieldEntries (sn : UInt32) (fields : List (String × Scalar yaml)) : List Entry :=
  fields.map fun field => (.slave sn field.1, field.2.variant)

def SlaveEntry.entries (slave : SlaveEntry yaml) : List Entry :=
  fieldEntries slave.sn (slave.fields.take slave.tasksAt) ++
    (slave.tasks.flatMap (TaskEntry.entries slave.sn) ++ fieldEntries slave.sn (slave.fields.drop slave.tasksAt))

def Document.entries (document : Document yaml) : List Entry := document.slaves.flatMap SlaveEntry.entries

def writes (entries : List Entry) : List (String × Variant) := entries.map fun entry => (entry.1.key, entry.2)

theorem writes_append (first later : List Entry) : writes (first ++ later) = writes first ++ writes later :=
  List.map_append

theorem parseEntries_append (path : String) (first later : List (Key × Node)) (data : ConfigurationParser) :
    parseEntries yaml path (first ++ later) data =
      parseEntries yaml path first data >>= parseEntries yaml path later := by
  induction first generalizing data with
  | nil => rfl
  | cons entry first ih =>
    simp only [List.cons_append, parseEntries, ih, bind_assoc]

theorem parseEntries_fields (path : String) (fields : List (String × Scalar yaml)) (data : ConfigurationParser) :
    parseEntries yaml path (fields.map fieldNode) data =
      .ok (data.setAll (fields.map fun field => (joined path field.1, field.2.variant))) := by
  induction fields generalizing data with
  | nil => rfl
  | cons field fields ih =>
    have stored : parseEntry yaml path field.1 (.scalar field.2.type.tag field.2.text) data =
        .ok (data.set (joined path field.1) field.2.variant) := by
      rw [parseEntry, YamlCpp.value_tag yaml field.2.reads]
      rfl
    rw [List.map_cons, fieldNode, parseEntries, YamlCpp.key_scalar, stored]
    exact ih _

theorem joined_task (sn : UInt32) (appIdx : UInt16) (name : String) :
    joined (joined ("sn" ++ toString sn.toNat) ("app_" ++ toString appIdx.toNat)) name =
      (Address.task sn appIdx name).key := by
  simp only [joined, Address.key, appKey, String.append_assoc]
  rw [show ("_app_" : String) = "_" ++ "app_" from rfl, String.append_assoc]

theorem parseItem_task (sn : UInt32) (task : TaskEntry yaml) (data : ConfigurationParser) :
    parseItem yaml ("sn" ++ toString sn.toNat) task.node data = .ok (data.setAll (writes (task.entries sn))) := by
  rw [TaskEntry.node, parseItem, parseSlaves, YamlCpp.key_scalar, parseMap, parseEntries_fields]
  simp only [parseSlaves, writes, TaskEntry.entries, List.map_map, joined_task]
  rfl

theorem parseItems_tasks (sn : UInt32) (tasks : List (TaskEntry yaml)) (data : ConfigurationParser) :
    parseItems yaml ("sn" ++ toString sn.toNat) (tasks.map TaskEntry.node) data =
      .ok (data.setAll (writes (tasks.flatMap (TaskEntry.entries sn)))) := by
  induction tasks generalizing data with
  | nil => rfl
  | cons task tasks ih =>
    rw [List.map_cons, parseItems, parseItem_task, List.flatMap_cons, writes_append,
      ConfigurationParser.setAll_append]
    exact ih _

theorem parseEntries_slave (sn : UInt32) (fields : List (String × Scalar yaml)) (data : ConfigurationParser) :
    parseEntries yaml ("sn" ++ toString sn.toNat) (fields.map fieldNode) data =
      .ok (data.setAll (writes (SlaveEntry.fieldEntries sn fields))) := by
  rw [parseEntries_fields, writes, SlaveEntry.fieldEntries, List.map_map]
  rfl

theorem loadSlave_entry (slave : SlaveEntry yaml) (data : ConfigurationParser) :
    loadSlave yaml data slave.node = .ok (data.setAll (writes slave.entries)) := by
  have tasks (data : ConfigurationParser) : parseEntry yaml ("sn" ++ toString slave.sn.toNat) "tasks"
      (.sequence (slave.tasks.map TaskEntry.node)) data = _ := parseItems_tasks slave.sn slave.tasks data
  have one (key : String) (node : Node) (data : ConfigurationParser) :
      loadSlave yaml data (.map [(.scalar key, node)]) = parseMap yaml key node data := by
    simp [loadSlave, YamlCpp.key_scalar]
  rw [SlaveEntry.node, one, parseMap, parseEntries_append, parseEntries_slave, SlaveEntry.entries, writes_append,
    writes_append, ConfigurationParser.setAll_append, ConfigurationParser.setAll_append]
  dsimp only [bind, Except.bind]
  rw [parseEntries, YamlCpp.key_scalar, tasks]
  exact parseEntries_slave _ _ _

theorem load_document (document : Document yaml) (data : ConfigurationParser) :
    data.loadInitialValueFromConfig yaml document.node = .ok (data.setAll (writes document.entries)) := by
  change (document.slaves.map SlaveEntry.node).foldlM (loadSlave yaml) data = _
  rw [Document.entries]
  induction document.slaves generalizing data with
  | nil => rfl
  | cons slave slaves ih =>
    rw [List.map_cons, List.foldlM_cons, loadSlave_entry, List.flatMap_cons, writes_append,
      ConfigurationParser.setAll_append]
    exact ih _

theorem slave_entries_perm (slave : SlaveEntry yaml) : slave.entries.Perm
    (SlaveEntry.fieldEntries slave.sn slave.fields ++ slave.tasks.flatMap (TaskEntry.entries slave.sn)) := by
  have fields := congrArg (SlaveEntry.fieldEntries slave.sn) (List.take_append_drop slave.tasksAt slave.fields)
  rw [← fields, SlaveEntry.fieldEntries, List.map_append, List.append_assoc]
  exact List.Perm.append_left _ List.perm_append_comm

theorem mem_slave_entries (slave : SlaveEntry yaml) (entry : Entry) : entry ∈ slave.entries ↔
    (∃ field ∈ slave.fields, (.slave slave.sn field.1, field.2.variant) = entry) ∨
      ∃ task ∈ slave.tasks, ∃ field ∈ task.fields, (.task slave.sn task.appIdx field.1, field.2.variant) = entry := by
  simp only [(slave_entries_perm slave).mem_iff, List.mem_append, SlaveEntry.fieldEntries, List.mem_map,
    List.mem_flatMap, TaskEntry.entries]

theorem task_entries_distinct (sn : UInt32) (task : TaskEntry yaml) : ((task.entries sn).map Prod.fst).Nodup := by
  have names : ((task.fields.map Prod.fst).map (Address.task sn task.appIdx)).Nodup :=
    task.distinct.map fun _ _ same => (Address.task.inj same).2.2
  rw [List.map_map] at names
  rwa [TaskEntry.entries, List.map_map]

theorem task_of_entry {sn : UInt32} {task : TaskEntry yaml} {address : Address}
    (within : address ∈ (task.entries sn).map Prod.fst) : ∃ name, address = .task sn task.appIdx name := by
  rw [TaskEntry.entries, List.map_map] at within
  obtain ⟨field, _, rfl⟩ := List.mem_map.mp within
  exact ⟨field.1, rfl⟩

theorem tasks_distinct (slave : SlaveEntry yaml) :
    ((slave.tasks.flatMap (TaskEntry.entries slave.sn)).map Prod.fst).Nodup := by
  rw [List.map_flatMap, List.nodup_flatMap]
  refine ⟨fun task _ => task_entries_distinct slave.sn task, ?_⟩
  apply (List.pairwise_map.mp slave.tasksDistinct).imp
  intro task task' different address within within'
  obtain ⟨name, rfl⟩ := task_of_entry within
  obtain ⟨name', same⟩ := task_of_entry within'
  exact different (Address.task.inj same).2.1

theorem fields_distinct (slave : SlaveEntry yaml) :
    ((SlaveEntry.fieldEntries slave.sn slave.fields).map Prod.fst).Nodup := by
  have names : ((slave.fields.map Prod.fst).map (Address.slave slave.sn)).Nodup :=
    slave.distinct.map fun _ _ same => (Address.slave.inj same).2
  rw [List.map_map] at names
  rwa [SlaveEntry.fieldEntries, List.map_map]

theorem slave_entries_distinct (slave : SlaveEntry yaml) : (slave.entries.map Prod.fst).Nodup := by
  rw [((slave_entries_perm slave).map Prod.fst).nodup_iff, List.map_append, List.nodup_append']
  refine ⟨fields_distinct slave, tasks_distinct slave, ?_⟩
  intro address within within'
  rw [SlaveEntry.fieldEntries, List.map_map] at within
  obtain ⟨field, _, rfl⟩ := List.mem_map.mp within
  rw [List.map_flatMap] at within'
  obtain ⟨task, _, inside⟩ := List.mem_flatMap.mp within'
  obtain ⟨name, same⟩ := task_of_entry inside
  cases same

theorem sn_of_entry {slave : SlaveEntry yaml} {address : Address} (within : address ∈ slave.entries.map Prod.fst) :
    address.sn = slave.sn := by
  obtain ⟨entry, inside, rfl⟩ := List.mem_map.mp within
  rcases (mem_slave_entries slave entry).mp inside with ⟨field, _, rfl⟩ | ⟨task, _, field, _, rfl⟩ <;> rfl

theorem proper_of_entry {slave : SlaveEntry yaml} {entry : Entry}
    (within : entry ∈ slave.entries) : entry.1.Proper := by
  rcases (mem_slave_entries slave entry).mp within with ⟨field, listed, rfl⟩ | ⟨task, _, field, _, rfl⟩
  · exact slave.proper field listed
  · trivial

theorem entries_distinct (document : Document yaml) : (document.entries.map Prod.fst).Nodup := by
  rw [Document.entries, List.map_flatMap, List.nodup_flatMap]
  refine ⟨fun slave _ => slave_entries_distinct slave, ?_⟩
  apply (List.pairwise_map.mp document.distinct).imp
  intro slave slave' different address within within'
  exact different ((sn_of_entry within).symm.trans (sn_of_entry within'))

theorem writes_distinct (document : Document yaml) : ((writes document.entries).map Prod.fst).Nodup := by
  have keys : ((document.entries.map Prod.fst).map Address.key).Nodup := by
    apply (entries_distinct document).map_on
    have proper : ∀ address ∈ document.entries.map Prod.fst, address.Proper := by
      intro address within
      obtain ⟨entry, inside, rfl⟩ := List.mem_map.mp within
      obtain ⟨slave, _, listed⟩ := List.mem_flatMap.mp inside
      exact proper_of_entry listed
    intro address within address' within'
    exact Address.key_injective (proper _ within) (proper _ within')
  rw [List.map_map] at keys
  rwa [writes, List.map_map]

def Document.loaded (document : Document yaml) : ConfigurationParser :=
  ConfigurationParser.setAll { fields := [] } (writes document.entries)

theorem loaded_get (document : Document yaml) {address : Address} {scalar : Scalar yaml}
    (within : (address, scalar.variant) ∈ document.entries) :
    getFieldAs scalar.type.get document.loaded address.key = .ok scalar.value := by
  have stored := ConfigurationParser.lookup_setAll { fields := [] } (writes_distinct document)
    (List.mem_map_of_mem within)
  rw [getFieldAs, ConfigurationParser.get, Document.loaded, stored]
  exact scalar.type.get_toVariant scalar.value

theorem loaded_has (document : Document yaml) {key : String} (found : document.loaded.has key = true) :
    ∃ entry ∈ document.entries, entry.1.key = key := by
  by_cases within : key ∈ (writes document.entries).map Prod.fst
  · rw [writes, List.map_map] at within
    exact List.mem_map.mp within
  · rw [ConfigurationParser.has, Document.loaded, ConfigurationParser.lookup_setAll_other _ within] at found
    cases found

/-- Every scalar of a document is found under its numbers and its name, with the type of its
tag, and there is no other key. -/
theorem load_finds_document (document : Document yaml) : ∃ data,
    ConfigurationParser.loadInitialValueFromConfig yaml { fields := [] } document.node = .ok data ∧
    (∀ slave ∈ document.slaves,
      (∀ field ∈ slave.fields, getFieldAs field.2.type.get data (snKey slave.sn field.1) = .ok field.2.value) ∧
      ∀ task ∈ slave.tasks, ∀ field ∈ task.fields,
        getFieldAs field.2.type.get data (appKey slave.sn task.appIdx.toNat field.1) = .ok field.2.value) ∧
    ∀ key, data.has key = true → ∃ slave ∈ document.slaves,
      (∃ field ∈ slave.fields, key = snKey slave.sn field.1) ∨
      ∃ task ∈ slave.tasks, ∃ field ∈ task.fields, key = appKey slave.sn task.appIdx.toNat field.1 := by
  refine ⟨document.loaded, load_document document _, ?_, ?_⟩
  · intro slave listed
    have within : ∀ entry ∈ slave.entries, entry ∈ document.entries :=
      fun entry inside => List.mem_flatMap.mpr ⟨slave, listed, inside⟩
    constructor
    · intro field belongs
      exact loaded_get document (within _ ((mem_slave_entries slave _).mpr (Or.inl ⟨field, belongs, rfl⟩)))
    · intro task runs field belongs
      exact loaded_get document
        (within _ ((mem_slave_entries slave _).mpr (Or.inr ⟨task, runs, field, belongs, rfl⟩)))
  · intro key found
    obtain ⟨entry, within, rfl⟩ := loaded_has document found
    obtain ⟨slave, listed, inside⟩ := List.mem_flatMap.mp within
    refine ⟨slave, listed, ?_⟩
    rcases (mem_slave_entries slave entry).mp inside with ⟨field, belongs, rfl⟩ | ⟨task, runs, field, belongs, rfl⟩
    · exact Or.inl ⟨field, belongs, rfl⟩
    · exact Or.inr ⟨task, runs, field, belongs, rfl⟩

end Nodes

/-- The numbers of the example configuration are decimal. -/
def decimal (text : String) : Nat := text.toList.foldl (fun n c => 10 * n + (c.toNat - 48)) 0

def decimals : YamlCpp where
  asUint8 text := .ok (UInt8.ofNat (decimal text))
  asInt8 text := .ok (Int8.ofNat (decimal text))
  asUint16 text := .ok (UInt16.ofNat (decimal text))
  asInt16 text := .ok (Int16.ofNat (decimal text))
  asUint32 text := .ok (UInt32.ofNat (decimal text))
  asInt32 text := .ok (Int32.ofNat (decimal text))
  asFloat _ := .error (.runtimeError "bad conversion")
  asString text := .ok text
  nullText := .ok "null"
  badConversion := .runtimeError "bad conversion"
  invalidNode := .runtimeError "invalid node"
  badSubscript := .runtimeError "operator[] call on a scalar"

def exampleDocument : Document decimals where
  slaves :=
    [{ sn := 4587574
       fields :=
        [("sdo_len", ⟨.uint16, "6", _, rfl⟩), ("task_count", ⟨.uint8, "1", _, rfl⟩),
         ("latency_pub_topic", ⟨.string, "/ecat/sn4587574/latency", _, rfl⟩)]
       distinct := by decide
       proper := by decide
       tasks :=
        [{ appIdx := 1
           fields :=
            [("sdowrite_task_type", ⟨.uint8, "4", _, rfl⟩), ("sdowrite_dshot_id", ⟨.uint16, "2", _, rfl⟩),
             ("sdowrite_init_value", ⟨.uint16, "1000", _, rfl⟩), ("sub_topic", ⟨.string, "/sub", _, rfl⟩),
             ("pdowrite_offset", ⟨.uint16, "0", _, rfl⟩)]
           distinct := by decide }]
       tasksDistinct := by decide
       tasksAt := 3 }]
  distinct := by decide

example : exampleDocument.loaded.get "sn4587574_app_1_sdowrite_init_value" = .ok (.uint16 1000) := rfl

end EcatMaster.Config
