import RpcRouting.Definition
import RpcRouting.Toml.Reader
/-! How a router behaves: whether new listeners hear of what is available already, whether calls
with a context fall back to global implementations, and the definitions it starts with. Settings are
given by a TOML text, which a parser from elsewhere turns into a document. -/
namespace RpcRouting

/-- What makes of a text the document that it describes, if it is a TOML text. -/
abbrev TomlParser := String → Option Payload

/-- What is relied on of a parser: a document is a table, and no table in it has a key twice. -/
structure TomlParser.Lawful (parser : TomlParser) : Prop where
  table : ∀ {text document}, parser text = some document → ∃ fields, document = .object fields
  distinct : ∀ {text document}, parser text = some document → document.Distinct

structure RouterSettings where
  replayOnListen : Bool
  fallbackToGlobal : Bool
  definitions : List Definition
deriving DecidableEq

inductive SettingsError
  | invalidToml
  | shape (error : ShapeError)

namespace RouterSettings

def default : RouterSettings := ⟨true, true, []⟩

def schema (settings : RouterSettings) : Schema := .ofList settings.definitions

def keys : List String := ["replay_on_listen", "routing_fallback_to_global", "rpc"]

def readDefinitions : Payload → Except ShapeError (List Definition)
  | .array items => items.mapM (Definition.read .ignored)
  | found => .error (.invalidType found "a sequence")

/-- Reads one key. Keys that mean nothing are refused. -/
def put (settings : RouterSettings) (key : String) (value : Payload) :
    Except ShapeError RouterSettings :=
  if key = "replay_on_listen" then return { settings with replayOnListen := ← value.readBoolean }
  else if key = "routing_fallback_to_global" then
    return { settings with fallbackToGlobal := ← value.readBoolean }
  else if key = "rpc" then return { settings with definitions := ← readDefinitions value }
  else throw (.unknownField key keys)

/-- Reads settings. Keys that are not given keep their defaults. -/
def read : Payload → Except ShapeError RouterSettings
  | .object fields => fields.foldlM (fun settings (key, value) => settings.put key value) default
  | found => .error (.invalidType found "struct RouterConfig")

/-- Reads settings from a text, of which a parser makes a document. -/
def readText (parser : TomlParser) (text : String) : Except SettingsError RouterSettings :=
  match parser text with
  | none => .error .invalidToml
  | some document => (read document).mapError .shape

/-- Reads settings from a text with the parser that programs run with. -/
def parse (text : String) : Except SettingsError RouterSettings := readText Toml.parse text

def describe (settings : RouterSettings) : String :=
  let flag (value : Bool) : String := if value then "true" else "false"
  "RouterConfig \x7b replay_on_listen: " ++ flag settings.replayOnListen ++
    ", routing_fallback_to_global: " ++ flag settings.fallbackToGlobal ++
    ", rpc: [" ++ ", ".intercalate (settings.definitions.map (·.describe)) ++ "] \x7d"

end RouterSettings

end RpcRouting
