import RpcRouting.Fault
import RpcRouting.Router.Basic
/-! How a router finds the implementation for a call. The schema tells where in the input the
context stands; an implementation for exactly that context is preferred, and a global one takes its
place if the settings allow it. -/
namespace RpcRouting

inductive Choice (I : Type)
  /-- An implementation is to be called under an identifier. -/
  | dispatch (implementation : I) (rpc : Current.Identifier)
  | unavailable
  | malformed (error : PathError)

/-- The context that an input carries in a field. A field that is missing or no text gives none,
nor does the root. -/
def contextIn (field : String) (input : Option Payload) :
    Except PathError (Option InstancePath) :=
  match (input.bind (·.field? field)).bind (·.string?) with
  | none => .ok none
  | some text => (fun path => if path.isEmpty then none else some path) <$> InstancePath.parse text

namespace Router

variable {I L : Type}

def contextOf (router : Router I L) (type : SchemaPath) (input : Option Payload) :
    Except PathError (Option InstancePath) :=
  match router.schema.contextField? type with
  | none => .ok none
  | some field => contextIn field input

def dispatch (router : Router I L) (rpc : Current.Identifier) : Choice I :=
  match router.directory.best? rpc with
  | some candidate => .dispatch candidate.implementation rpc
  | none => .unavailable

/-- Whether a call in a context falls back to a global implementation. -/
def fallsBack (router : Router I L) (type : SchemaPath) (context : InstancePath) : Bool :=
  router.settings.fallbackToGlobal && !router.isAvailable (.create type (some context))

/-- Finds the implementation for a call. -/
def choose (router : Router I L) (type : SchemaPath) (input : Option Payload) : Choice I :=
  match router.contextOf type input with
  | .error error => .malformed error
  | .ok none => router.dispatch (.global type)
  | .ok (some context) =>
    if router.fallsBack type context then router.dispatch (.global type)
    else router.dispatch (.create type (some context))

def notAvailable (type : SchemaPath) : RpcFault .current :=
  .notAvailable ("No implementation of RPC " ++ type.render ++ " available") none

def invalidContext (type : SchemaPath) (error : PathError) : RpcFault .current :=
  .failed ("Invalid context reference for RPC " ++ type.render) (some (.root (.path error)))

end Router

end RpcRouting
