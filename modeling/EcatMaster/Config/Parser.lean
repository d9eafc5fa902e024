import EcatMaster.Io.LittleEndian

/-! The configuration store of `utils/config_utils.cpp`: typed fields under flat
string keys, and the serialisation of a list of them. -/

set_option autoImplicit false

namespace EcatMaster.Config
open Io

inductive Variant where
  | uint8 (value : UInt8)
  | uint16 (value : UInt16)
  | int8 (value : Int8)
  | int16 (value : Int16)
  | uint32 (value : UInt32)
  | int32 (value : Int32)
  | float (pattern : UInt32)
  | string (value : String)
  | bool (value : Bool)
  deriving DecidableEq, Repr

/-- What a lookup throws: `std::runtime_error` with its text, or `std::bad_variant_access`. -/
inductive Exception where
  | runtimeError (what : String)
  | badVariantAccess
  deriving DecidableEq, Repr

theorem bind_ok {E A B : Type} {x : Except E A} {f : A → Except E B} {b : B} (returned : x >>= f = .ok b) :
    ∃ a, x = .ok a ∧ f a = .ok b := by
  cases x with
  | error e => cases returned
  | ok a => exact ⟨a, rfl, returned⟩

def Ensures {E A : Type} (post : A → Prop) (call : Except E A) : Prop :=
  ∀ a, call = .ok a → post a

theorem Ensures.pure {E A : Type} {post : A → Prop} {a : A} (satisfied : post a) :
    Ensures post (Pure.pure a : Except E A) := by
  intro result returned
  cases returned
  exact satisfied

theorem Ensures.bind {E A B : Type} {post : B → Prop} {first : Except E A} {rest : A → Except E B}
    (each : ∀ a, first = .ok a → Ensures post (rest a)) : Ensures post (first >>= rest) := by
  intro result returned
  obtain ⟨a, here, finished⟩ := bind_ok returned
  exact each a here result finished

structure ConfigurationParser where
  fields : List (String × Variant)

def ConfigurationParser.get (data : ConfigurationParser) (key : String) : Except Exception Variant :=
  match data.fields.lookup key with
  | some value => .ok value
  | none => .error (.runtimeError ("get Key not found: " ++ key))

def Variant.getUint8 : Variant → Except Exception UInt8
  | .uint8 value => .ok value
  | _ => .error .badVariantAccess

def Variant.getUint16 : Variant → Except Exception UInt16
  | .uint16 value => .ok value
  | _ => .error .badVariantAccess

def Variant.getUint32 : Variant → Except Exception UInt32
  | .uint32 value => .ok value
  | _ => .error .badVariantAccess

def Variant.getInt8 : Variant → Except Exception Int8
  | .int8 value => .ok value
  | _ => .error .badVariantAccess

def Variant.getInt16 : Variant → Except Exception Int16
  | .int16 value => .ok value
  | _ => .error .badVariantAccess

def Variant.getInt32 : Variant → Except Exception Int32
  | .int32 value => .ok value
  | _ => .error .badVariantAccess

def Variant.getFloat : Variant → Except Exception UInt32
  | .float pattern => .ok pattern
  | _ => .error .badVariantAccess

def Variant.getString : Variant → Except Exception String
  | .string value => .ok value
  | _ => .error .badVariantAccess

variable {T : Type}

def getFieldAs (as : Variant → Except Exception T) (data : ConfigurationParser) (wholeKey : String) :
    Except Exception T := do
  as (← data.get wholeKey)

/-- The overload with a default: it catches `std::runtime_error`, so a missing key gives
the default while a value of another type still throws. -/
def getFieldAsOr (as : Variant → Except Exception T) (data : ConfigurationParser) (wholeKey : String)
    (defaultValue : T) : Except Exception T :=
  match getFieldAs as data wholeKey with
  | .error (.runtimeError _) => .ok defaultValue
  | result => result

/-- `fmt::format("sn{}_{}", sn, suffix)`. -/
def snKey (sn : UInt32) (suffix : String) : String :=
  "sn" ++ toString sn.toNat ++ "_" ++ suffix

/-- `fmt::format("sn{}_app_{}_{}", sn, app_idx, suffix)`. -/
def appKey (sn : UInt32) (appIdx : Nat) (suffix : String) : String :=
  "sn" ++ toString sn.toNat ++ "_app_" ++ toString appIdx ++ "_" ++ suffix

-- The visitor has no branch for strings and booleans, which stores nothing.
def writeVariant : Variant → Cursor UInt8 → Cursor UInt8
  | .uint8 value => writeUint8 value
  | .int8 value => writeInt8 value
  | .uint16 value => writeUint16 value
  | .int16 value => writeInt16 value
  | .uint32 value => writeUint32 value
  | .int32 value => writeInt32 value
  | .float pattern => writeFloat pattern
  | .string _ => id
  | .bool _ => id

structure BuildBufResult where
  buf : List UInt8
  len : Nat

/-- The scratch buffer is cleared first, so what an earlier call left there is not read. -/
def ConfigurationParser.buildBuf (data : ConfigurationParser) (start : String) (names : List String) :
    Except Exception BuildBufResult := do
  let c ← names.foldlM (fun c name => do return writeVariant (← data.get (start ++ name)) c)
    (⟨id, List.replicate 1024 0, 0⟩ : Cursor UInt8)
  return ⟨c.buf, c.offset⟩

end EcatMaster.Config
