import EcatMaster.Config.Parser

/-! Loading the configuration: `parse_map` and `load_initial_value_from_config`.

A YAML document is a tree as the library hands it out. How the library reads the
text of a scalar as a number, and what it throws at a node or a key of the wrong
kind, is a parameter.
-/

set_option autoImplicit false

namespace EcatMaster.Config

/-- The key of a map entry is a node too; the loader only asks it for its text. -/
inductive Key where
  | scalar (text : String)
  | null
  /-- A sequence or a map. -/
  | collection
  deriving DecidableEq

/-- `YAML::Node`. -/
inductive Node where
  | null
  | scalar (tag text : String)
  | sequence (items : List Node)
  | map (entries : List (Key × Node))

/-- What the program uses of yaml-cpp: `as<T>` of a scalar for the types of the tags,
`as<std::string>` of a null node, which some versions read as a text, and what is thrown where a
collection is read as a text, a sequence is iterated as a map or a scalar is asked for a key. -/
structure YamlCpp where
  asUint8 : String → Except Exception UInt8
  asInt8 : String → Except Exception Int8
  asUint16 : String → Except Exception UInt16
  asInt16 : String → Except Exception Int16
  asUint32 : String → Except Exception UInt32
  asInt32 : String → Except Exception Int32
  asFloat : String → Except Exception UInt32
  asString : String → Except Exception String
  nullText : Except Exception String
  badConversion : Exception
  invalidNode : Exception
  badSubscript : Exception

/-- `fields_[key] = value`: an old value of the key is replaced. -/
def ConfigurationParser.set (data : ConfigurationParser) (key : String) (value : Variant) : ConfigurationParser :=
  { fields := (key, value) :: data.fields.filter fun field => field.1 ≠ key }

def ConfigurationParser.has (data : ConfigurationParser) (key : String) : Bool := (data.fields.lookup key).isSome

section Parsing
variable (yaml : YamlCpp)

def YamlCpp.value (tag text : String) : Except Exception Variant := do
  if tag = "!uint8_t" then return .uint8 (← yaml.asUint8 text)
  else if tag = "!int8_t" then return .int8 (← yaml.asInt8 text)
  else if tag = "!uint16_t" then return .uint16 (← yaml.asUint16 text)
  else if tag = "!int16_t" then return .int16 (← yaml.asInt16 text)
  else if tag = "!uint32_t" then return .uint32 (← yaml.asUint32 text)
  else if tag = "!int32_t" then return .int32 (← yaml.asInt32 text)
  else if tag = "!float" then return .float (← yaml.asFloat text)
  else if tag = "!std::string" then return .string (← yaml.asString text)
  else throw (.runtimeError ("Unsupported tag: " ++ tag))

/-- `as<std::string>` of a key. -/
def YamlCpp.key : Key → Except Exception String
  | .scalar text => return text
  | .null => yaml.nullText
  | .collection => throw yaml.badConversion

theorem YamlCpp.key_scalar {A : Type} (text : String) (f : String → Except Exception A) :
    yaml.key (.scalar text) >>= f = f text := rfl

/-- `fmt::format("{}_{}", path, key)`. -/
def joined (path key : String) : String := path ++ "_" ++ key

mutual

/-- `parse_map`: the iteration over a node that is no map. -/
def parseMap (path : String) : Node → ConfigurationParser → Except Exception ConfigurationParser
  | .null, data => return data
  | .scalar _ _, data => return data
  | .sequence [], data => return data
  -- The entries of a sequence have no key.
  | .sequence (_ :: _), _ => throw yaml.invalidNode
  | .map entries, data => parseEntries path entries data

def parseEntries (path : String) : List (Key × Node) → ConfigurationParser → Except Exception ConfigurationParser
  | [], data => return data
  | (key, val) :: rest, data => do
    let key ← yaml.key key
    parseEntries path rest (← parseEntry path key val data)

-- A map inside a map is skipped; of a sequence only the items count, its own key is dropped.
def parseEntry (path key : String) : Node → ConfigurationParser → Except Exception ConfigurationParser
  | .scalar tag text, data => return data.set (joined path key) (← yaml.value tag text)
  | .sequence items, data => parseItems path items data
  | .null, data => return data
  | .map _, data => return data

def parseItems (path : String) : List Node → ConfigurationParser → Except Exception ConfigurationParser
  | [], data => return data
  | item :: rest, data => do parseItems path rest (← parseItem path item data)

def parseItem (path : String) : Node → ConfigurationParser → Except Exception ConfigurationParser
  | .map entries, data => parseSlaves path entries data
  | .null, data => return data
  | .scalar _ _, data => return data
  | .sequence _, data => return data

def parseSlaves (path : String) : List (Key × Node) → ConfigurationParser → Except Exception ConfigurationParser
  | [], data => return data
  | (key, node) :: rest, data => do
    let key ← yaml.key key
    parseSlaves path rest (← parseMap (joined path key) node data)

end

/-- The loops of `load_initial_value_from_config` over `root["slaves"]`. -/
def loadSlave (data : ConfigurationParser) : Node → Except Exception ConfigurationParser
  | .map entries => entries.foldlM (fun data entry => do parseMap yaml (← yaml.key entry.1) entry.2 data) data
  | .null => return data
  | .scalar _ _ => return data
  | .sequence _ => return data

/-- `load_initial_value_from_config` on the root of the file; `root["slaves"]` is the first entry
whose key is a scalar with this text. -/
def ConfigurationParser.loadInitialValueFromConfig (data : ConfigurationParser) :
    Node → Except Exception ConfigurationParser
  | .map entries =>
    match entries.lookup (.scalar "slaves") with
    | some (.sequence slaves) => slaves.foldlM (loadSlave yaml) data
    | _ => return data
  | .scalar _ _ => throw yaml.badSubscript
  | .null => return data
  | .sequence _ => return data

end Parsing

end EcatMaster.Config
