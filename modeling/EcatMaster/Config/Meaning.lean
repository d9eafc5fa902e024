import EcatMaster.Config.Loading

/-! What a configuration file means, whatever tree it is.

The loops of the loader come to the scalars of a file one after the other. The file means
the list of what they come to: the scalars with their keys, and what the library throws
at other nodes and keys. The list does not depend on the store.
-/

set_option autoImplicit false

namespace EcatMaster.Config

/-- What the loader comes to. -/
inductive Item where
  | scalar (key tag text : String)
  /-- A key that is no text, a sequence where a map is iterated, or a scalar that is asked for `slaves`. -/
  | failure (e : Exception)
  deriving DecidableEq

section Parsing
variable (yaml : YamlCpp)

def keyItems (key : Key) (items : String → List Item) : List Item :=
  match yaml.key key with
  | .ok text => items text
  | .error e => [.failure e]

mutual

/-- The items under a node that `parse_map` is called for, in document order. -/
def mapItems (path : String) : Node → List Item
  | .map entries => entriesItems path entries
  | .sequence (_ :: _) => [.failure yaml.invalidNode]
  | .sequence [] | .null | .scalar _ _ => []

def entriesItems (path : String) : List (Key × Node) → List Item
  | [] => []
  | (key, val) :: rest => keyItems yaml key (fun key => entryItems path key val) ++ entriesItems path rest

def entryItems (path key : String) : Node → List Item
  | .scalar tag text => [.scalar (joined path key) tag text]
  | .sequence items => sequenceItems path items
  | .null | .map _ => []

def sequenceItems (path : String) : List Node → List Item
  | [] => []
  | item :: rest => itemItems path item ++ sequenceItems path rest

def itemItems (path : String) : Node → List Item
  | .map entries => slavesItems path entries
  | .null | .scalar _ _ | .sequence _ => []

def slavesItems (path : String) : List (Key × Node) → List Item
  | [] => []
  | (key, node) :: rest => keyItems yaml key (fun key => mapItems (joined path key) node) ++ slavesItems path rest

end

def slaveItems : Node → List Item
  | .map entries => entries.flatMap fun entry => keyItems yaml entry.1 (mapItems yaml · entry.2)
  | .null | .scalar _ _ | .sequence _ => []

def fileItems : Node → List Item
  | .map entries =>
    match entries.lookup (.scalar "slaves") with
    | some (.sequence slaves) => slaves.flatMap (slaveItems yaml)
    | _ => []
  | .scalar _ _ => [.failure yaml.badSubscript]
  | .null | .sequence _ => []

def Item.result : Item → Except Exception (String × Variant)
  | .scalar key tag text => return (key, ← yaml.value tag text)
  | .failure e => throw e

def storeItem (data : ConfigurationParser) (item : Item) : Except Exception ConfigurationParser := do
  let write ← item.result yaml
  return data.set write.1 write.2

def storeItems (data : ConfigurationParser) (items : List Item) : Except Exception ConfigurationParser :=
  items.foldlM (storeItem yaml) data

theorem storeItems_append (data : ConfigurationParser) (first later : List Item) :
    storeItems yaml data (first ++ later) = storeItems yaml data first >>= (storeItems yaml · later) :=
  List.foldlM_append

theorem storeItems_key (data : ConfigurationParser) (key : Key) (items : String → List Item) :
    storeItems yaml data (keyItems yaml key items) =
      yaml.key key >>= fun text => storeItems yaml data (items text) := by
  unfold keyItems
  cases yaml.key key <;> rfl

mutual

theorem parseMap_items (path : String) : ∀ node data,
    parseMap yaml path node data = storeItems yaml data (mapItems yaml path node)
  | .null, _ | .scalar _ _, _ | .sequence [], _ | .sequence (_ :: _), _ => rfl
  | .map entries, data => parseEntries_items path entries data

theorem parseEntries_items (path : String) : ∀ entries data,
    parseEntries yaml path entries data = storeItems yaml data (entriesItems yaml path entries)
  | [], _ => rfl
  | (key, val) :: rest, data => by
    simp only [parseEntries, entriesItems, storeItems_append, storeItems_key, bind_assoc,
      fun key => parseEntry_items path key val data, parseEntries_items path rest]

theorem parseEntry_items (path key : String) : ∀ val data,
    parseEntry yaml path key val data = storeItems yaml data (entryItems yaml path key val)
  | .scalar tag text, data => by
    rw [parseEntry, entryItems, storeItems, List.foldlM_cons, storeItem, Item.result]
    cases yaml.value tag text <;> rfl
  | .sequence items, data => parseItems_items path items data
  | .null, _ | .map _, _ => rfl

theorem parseItems_items (path : String) : ∀ items data,
    parseItems yaml path items data = storeItems yaml data (sequenceItems yaml path items)
  | [], _ => rfl
  | item :: rest, data => by
    simp only [parseItems, sequenceItems, storeItems_append, parseItem_items path item data,
      parseItems_items path rest]

theorem parseItem_items (path : String) : ∀ item data,
    parseItem yaml path item data = storeItems yaml data (itemItems yaml path item)
  | .map entries, data => parseSlaves_items path entries data
  | .null, _ | .scalar _ _, _ | .sequence _, _ => rfl

theorem parseSlaves_items (path : String) : ∀ entries data,
    parseSlaves yaml path entries data = storeItems yaml data (slavesItems yaml path entries)
  | [], _ => rfl
  | (key, node) :: rest, data => by
    simp only [parseSlaves, slavesItems, storeItems_append, storeItems_key, bind_assoc,
      fun key => parseMap_items (joined path key) node data, parseSlaves_items path rest]

end

theorem loadSlave_items (data : ConfigurationParser) (slave : Node) :
    loadSlave yaml data slave = storeItems yaml data (slaveItems yaml slave) := by
  cases slave with
  | map entries =>
    simp only [loadSlave, slaveItems, parseMap_items]
    induction entries generalizing data with
    | nil => rfl
    | cons entry entries ih =>
      simp only [List.foldlM_cons, List.flatMap_cons, storeItems_append, storeItems_key, ih]
  | _ => rfl

theorem loadSlaves_items (data : ConfigurationParser) (slaves : List Node) :
    slaves.foldlM (loadSlave yaml) data = storeItems yaml data (slaves.flatMap (slaveItems yaml)) := by
  induction slaves generalizing data with
  | nil => rfl
  | cons slave slaves ih =>
    simp only [List.foldlM_cons, List.flatMap_cons, storeItems_append, loadSlave_items, ih]

theorem load_items (data : ConfigurationParser) (root : Node) :
    data.loadInitialValueFromConfig yaml root = storeItems yaml data (fileItems yaml root) := by
  cases root with
  | map entries =>
    simp only [ConfigurationParser.loadInitialValueFromConfig, fileItems]
    cases entries.lookup (.scalar "slaves") with
    | none => rfl
    | some node =>
      cases node with
      | sequence slaves => exact loadSlaves_items yaml data slaves
      | _ => rfl
  | _ => rfl

def Item.fault (item : Item) : Option Exception :=
  match item.result yaml with
  | .ok _ => none
  | .error e => some e

def Item.stored (key : String) (item : Item) : Option Variant :=
  match item.result yaml with
  | .ok (other, value) => if key = other then some value else none
  | .error _ => none

theorem lookup_set (data : ConfigurationParser) (key other : String) (value : Variant) :
    (data.set other value).fields.lookup key = if key = other then some value else data.fields.lookup key := by
  split_ifs with same
  · rw [same, ConfigurationParser.lookup_set_same]
  · exact data.lookup_set_other value same

theorem storeItems_meaning (data : ConfigurationParser) (items : List Item) :
    match items.findSome? (Item.fault yaml) with
    | some e => storeItems yaml data items = .error e
    | none => ∃ loaded, storeItems yaml data items = .ok loaded ∧
        ∀ key, loaded.fields.lookup key = (items.reverse.findSome? (Item.stored yaml key)).or (data.fields.lookup key) := by
  induction items generalizing data with
  | nil => exact ⟨data, rfl, fun _ => rfl⟩
  | cons item items ih =>
    rw [storeItems, List.foldlM_cons, storeItem, List.findSome?_cons, Item.fault]
    cases result : item.result yaml with
    | error e => rfl
    | ok write =>
      have later := ih (data.set write.1 write.2)
      dsimp only
      cases faulty : items.findSome? (Item.fault yaml) with
      | some e =>
        rw [faulty] at later
        exact later
      | none =>
        rw [faulty] at later
        obtain ⟨loaded, stored, found⟩ := later
        refine ⟨loaded, stored, fun key => ?_⟩
        rw [found key, lookup_set, List.reverse_cons, List.findSome?_append, Option.or_assoc]
        congr 1
        rw [List.findSome?_singleton, Item.stored, result]
        dsimp only
        split_ifs <;> rfl

/-- Whatever tree a file is, loading throws what the library throws first in document order. Where it throws
nothing, a key has the last value that the file gives it, or the one that it had before. -/
theorem load_meaning (data : ConfigurationParser) (root : Node) :
    match (fileItems yaml root).findSome? (Item.fault yaml) with
    | some e => data.loadInitialValueFromConfig yaml root = .error e
    | none => ∃ loaded, data.loadInitialValueFromConfig yaml root = .ok loaded ∧
        ∀ key, loaded.get key =
          match (fileItems yaml root).reverse.findSome? (Item.stored yaml key) with
          | some value => .ok value
          | none => data.get key := by
  have meaning := storeItems_meaning yaml data (fileItems yaml root)
  rw [load_items]
  cases faulty : (fileItems yaml root).findSome? (Item.fault yaml) with
  | some e =>
    rw [faulty] at meaning
    exact meaning
  | none =>
    rw [faulty] at meaning
    obtain ⟨loaded, stored, found⟩ := meaning
    refine ⟨loaded, stored, fun key => ?_⟩
    rw [ConfigurationParser.get, found key]
    cases (fileItems yaml root).reverse.findSome? (Item.stored yaml key) with
    | some value => rfl
    | none => rfl

end Parsing

end EcatMaster.Config
