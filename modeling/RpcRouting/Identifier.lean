import RpcRouting.Path.Instance
import RpcRouting.Path.Schema
/-! Identifiers say which RPC is meant: its type, and the node it is about. The legacy contract
always carries a context, where the empty path stands for none. The current contract tells a global
scope from a local one, whose context is never empty. -/
namespace RpcRouting

/-- The two generations of the contract between callers, implementations and routers. -/
inductive Generation
  | legacy
  | current
deriving DecidableEq, Repr

/-- The characters of a record with named fields, on one line. -/
def describeFields (name : String) (fields : List (String × String)) : String :=
  name ++ " \x7b " ++ ", ".intercalate (fields.map fun (field, text) => field ++ ": " ++ text) ++
    " \x7d"

/-- The text with every line but the first indented by four spaces, empty lines as well. -/
def indentLines (text : String) : String :=
  String.ofList (text.toList.flatMap fun c => if c = '\n' then "\n    ".toList else [c])

/-- The characters of a record with named fields, each on a line of its own. A field whose text has
several lines keeps them in the same depth. -/
def layOutFields (name : String) (fields : List (String × String)) : String :=
  name ++ " \x7b\n" ++ String.join (fields.map fun (field, text) =>
    "    " ++ field ++ ": " ++ indentLines text ++ ",\n") ++ "\x7d"

/-- Whether an identifier is about every node or about one. -/
inductive Scope
  | global
  | within (context : InstancePath) (nonempty : context ≠ .empty)
deriving DecidableEq

namespace Legacy

structure Identifier where
  type : SchemaPath
  context : InstancePath
deriving DecidableEq

namespace Identifier

def global (type : SchemaPath) : Identifier := ⟨type, .empty⟩

/-- An absent context and an empty one both give a global identifier. -/
def create (type : SchemaPath) : Option InstancePath → Identifier
  | some context => ⟨type, context⟩
  | none => global type

def isGlobal (rpc : Identifier) : Bool := rpc.context.isEmpty

def render (rpc : Identifier) : String :=
  if rpc.isGlobal then rpc.type.render else rpc.type.render ++ "@" ++ rpc.context.render

def fields (rpc : Identifier) : List (String × String) :=
  [("type", rpc.type.render), ("contextReference", rpc.context.render)]

def describe (rpc : Identifier) : String := describeFields "RpcIdentifier" rpc.fields

def layOut (rpc : Identifier) : String := layOutFields "RpcIdentifier" rpc.fields

end Identifier

end Legacy

namespace Current

structure Identifier where
  type : SchemaPath
  scope : Scope
deriving DecidableEq

namespace Identifier

def global (type : SchemaPath) : Identifier := ⟨type, .global⟩

/-- An absent context and an empty one both give a global identifier. -/
def create (type : SchemaPath) : Option InstancePath → Identifier
  | none => global type
  | some context => if h : context = .empty then global type else ⟨type, .within context h⟩

def context? (rpc : Identifier) : Option InstancePath :=
  match rpc.scope with
  | .global => none
  | .within context _ => some context

/-- The context, which is the empty path for a global identifier. -/
def context (rpc : Identifier) : InstancePath := rpc.context?.getD .empty

def isGlobal (rpc : Identifier) : Bool := rpc.context?.isNone

def render (rpc : Identifier) : String :=
  match rpc.context? with
  | none => rpc.type.render
  | some context => rpc.type.render ++ "@" ++ context.render

def name (rpc : Identifier) : String := if rpc.isGlobal then "Global" else "Local"

def fields (rpc : Identifier) : List (String × String) :=
  ("type", rpc.type.render) ::
    (rpc.context?.map fun context => ("contextReference", context.render)).toList

def describe (rpc : Identifier) : String := describeFields rpc.name rpc.fields

def layOut (rpc : Identifier) : String := layOutFields rpc.name rpc.fields

end Identifier

end Current

/-- The identifiers of a generation of the contract. -/
def Generation.Identifier : Generation → Type
  | .legacy => Legacy.Identifier
  | .current => Current.Identifier

def Generation.Identifier.render : {generation : Generation} → generation.Identifier → String
  | .legacy, rpc => Legacy.Identifier.render rpc
  | .current, rpc => Current.Identifier.render rpc

def Legacy.Identifier.toCurrent (rpc : Legacy.Identifier) : Current.Identifier :=
  .create rpc.type (some rpc.context)

def Current.Identifier.toLegacy (rpc : Current.Identifier) : Legacy.Identifier :=
  .create rpc.type (some rpc.context)

@[simp]
theorem Current.Identifier.context_create (type : SchemaPath) (context : InstancePath) :
    (create type (some context)).context = context := by
  by_cases h : context = .empty <;> simp [create, global, Identifier.context, context?, h]

@[simp]
theorem Current.Identifier.type_create (type : SchemaPath) (context : Option InstancePath) :
    (create type context).type = type := by
  unfold create
  split
  · rfl
  · split <;> rfl

@[simp]
theorem Current.Identifier.create_context (rpc : Current.Identifier) :
    create rpc.type (some rpc.context) = rpc := by
  obtain ⟨type, scope⟩ := rpc
  cases scope with
  | global => rfl
  | within place nonempty =>
    exact dif_neg nonempty

@[simp]
theorem Legacy.Identifier.toLegacy_toCurrent (rpc : Legacy.Identifier) :
    rpc.toCurrent.toLegacy = rpc := by
  simp [toCurrent, Current.Identifier.toLegacy, create]

@[simp]
theorem Current.Identifier.toCurrent_toLegacy (rpc : Current.Identifier) :
    rpc.toLegacy.toCurrent = rpc := by
  simp [toLegacy, Legacy.Identifier.toCurrent, Legacy.Identifier.create]

end RpcRouting
