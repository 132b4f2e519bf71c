import RpcRouting.Payload.Shape
/-! A definition tells of one RPC type in which field of its input the context stands, if any. A
schema holds at most one definition a type, in the order of the types' paths. -/
namespace RpcRouting

structure Definition where
  path : SchemaPath
  contextField : Option String
deriving DecidableEq

namespace Definition

def isRouted (definition : Definition) : Bool := definition.contextField.isSome

def toPayload (definition : Definition) : Payload :=
  .object [("path", .string definition.path.render),
    ("context_field", (definition.contextField.map .string).getD .null)]

def describe (definition : Definition) : String :=
  "RpcDefinition \x7b path: " ++ definition.path.describe ++ ", context_field: " ++
    (match definition.contextField with
      | none => "None"
      | some field => "Some(" ++ Text.quoted field ++ ")") ++ " \x7d"

structure Draft where
  path : Option SchemaPath
  contextField : Option String

def Draft.put (draft : Draft) (name : String) (value : Payload) : Except ShapeError Draft :=
  if name = "path" then return { draft with path := some (← value.readSchemaPath) }
  else if name = "context_field" then
    return { draft with contextField := ← value.readOptional Payload.readString }
  else return draft

def Draft.finish (draft : Draft) : Except ShapeError Definition := do
  let some path := draft.path | throw (.missingField "path")
  return ⟨path, draft.contextField⟩

def read (surplus : Payload.Surplus) (value : Payload) : Except ShapeError Definition :=
  value.readRecord surplus "struct RpcDefinition" ["path", "context_field"] 1
    ⟨none, none⟩ Draft.put Draft.finish

end Definition

structure Schema where
  definitions : List Definition
deriving DecidableEq

namespace Schema

def empty : Schema := ⟨[]⟩

/-- Puts a definition in its place, instead of one of the same path. -/
def insertInto (definition : Definition) : List Definition → List Definition
  | [] => [definition]
  | first :: rest =>
    if definition.path = first.path then definition :: rest
    else if compare definition.path first.path = .lt then definition :: first :: rest
    else first :: insertInto definition rest

def insert (schema : Schema) (definition : Definition) : Schema :=
  ⟨insertInto definition schema.definitions⟩

/-- Of definitions of one path the last one counts. -/
def ofList (definitions : List Definition) : Schema := definitions.foldl insert empty

def lookup (schema : Schema) (path : SchemaPath) : Option Definition :=
  schema.definitions.find? (·.path = path)

def size (schema : Schema) : Nat := schema.definitions.length

def isEmpty (schema : Schema) : Bool := schema.definitions.isEmpty

/-- The field in which the inputs of an RPC type carry its context. -/
def contextField? (schema : Schema) (path : SchemaPath) : Option String :=
  (schema.lookup path).bind (·.contextField)

end Schema

end RpcRouting
