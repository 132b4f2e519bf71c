import RpcRouting.Path.Instance
import RpcRouting.Path.Schema
import RpcRouting.Payload
import RpcRouting.Text.Quoted
/-! Reading records, variants and paths out of payloads. The first misfit in reading order is the
error, and a missing field is found once all given fields have been read. -/
namespace RpcRouting

/-- Why a payload does not have the shape that is asked for. -/
inductive ShapeError
  | path (error : PathError)
  | missingField (name : String)
  | unknownField (name : String) (known : List String)
  | unknownVariant (name : String) (known : List String)
  | invalidType (found : Payload) (expected : String)
  | invalidValue (found : Payload) (expected : String)
  | invalidLength (length : Nat) (expected : String)

namespace ShapeError

def quoteName (name : String) : String := "`" ++ name ++ "`"

/-- The alternatives, each in backquotes. -/
def alternatives : List String → String
  | [] => "there are no fields"
  | [name] => "expected " ++ quoteName name
  | [first, second] => "expected " ++ quoteName first ++ " or " ++ quoteName second
  | names => "expected one of " ++ ", ".intercalate (names.map quoteName)

/-- What kind of value a payload is, with the value itself where it is short. -/
def kindOf : Payload → String
  | .null => "null"
  | .boolean value => "boolean " ++ quoteName (if value then "true" else "false")
  | .integer value => "integer " ++ quoteName (toString value)
  | .decimal text => "floating point " ++ quoteName text
  | .string value => "string " ++ Text.quoted value
  | .array _ => "sequence"
  | .object _ => "map"

def message : ShapeError → String
  | .path error => error.message
  | .missingField name => "missing field " ++ quoteName name
  | .unknownField name known => "unknown field " ++ quoteName name ++ ", " ++ alternatives known
  | .unknownVariant name known =>
    "unknown variant " ++ quoteName name ++ ", " ++ alternatives known
  | .invalidType found expected => "invalid type: " ++ kindOf found ++ ", expected " ++ expected
  | .invalidValue found expected => "invalid value: " ++ kindOf found ++ ", expected " ++ expected
  | .invalidLength length expected =>
    "invalid length " ++ toString length ++ ", expected " ++ expected

end ShapeError

namespace Payload

/-- Whether a sequence that stands for a record may go on behind the record's last field. -/
inductive Surplus
  | refused
  | ignored
deriving DecidableEq, Repr

def readString : Payload → Except ShapeError String
  | .string value => .ok value
  | found => .error (.invalidType found "a string")

def readBoolean : Payload → Except ShapeError Bool
  | .boolean value => .ok value
  | found => .error (.invalidType found "a boolean")

/-- Null stands for an absent value. -/
def readOptional (read : Payload → Except ShapeError α) : Payload → Except ShapeError (Option α)
  | .null => .ok none
  | found => some <$> read found

def readSchemaPath (value : Payload) : Except ShapeError SchemaPath := do
  (SchemaPath.parse (← readString value)).mapError .path

def readInstancePath (value : Payload) : Except ShapeError InstancePath := do
  (InstancePath.parse (← readString value)).mapError .path

/-- Reads one of the named variants: its name, or an object that holds null under its name. -/
def readVariant (variants : List (String × α)) (value : Payload) : Except ShapeError α :=
  let named (name : String) : Except ShapeError α :=
    match variants.lookup name with
    | some variant => .ok variant
    | none => .error (.unknownVariant name (variants.map (·.1)))
  match value with
  | .string name => named name
  | .object [(name, content)] => do
    let variant ← named name
    match content with
    | .null => return variant
    | found => throw (.invalidType found "unit")
  | .object _ => .error (.invalidValue value "map with a single key")
  | found => .error (.invalidType found "string or map")

/-- Reads a record: an object, whose fields are read in its order by `put`, or the sequence of the
values of `names`. `finish` checks that nothing required is missing. -/
def readRecord (surplus : Surplus) (kind : String) (names : List String) (required : Nat)
    (blank : ρ) (put : ρ → String → Payload → Except ShapeError ρ)
    (finish : ρ → Except ShapeError α) : Payload → Except ShapeError α
  | .object fields => do
    finish (← fields.foldlM (fun record (name, value) => put record name value) blank)
  | .array items => do
    let record ← (names.zip items).foldlM (fun record (name, value) => put record name value) blank
    if items.length < required then
      throw (.invalidLength items.length
        (kind ++ " with " ++ toString names.length ++ " elements"))
    if names.length < items.length ∧ surplus = .refused then
      throw (.invalidLength items.length "fewer elements in array")
    finish record
  | found => .error (.invalidType found kind)

end Payload

end RpcRouting
