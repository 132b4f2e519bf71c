import RpcRouting.Reply
import RpcRouting.Router.Selection
/-! The steps of a session, what each answers, and what is logged. Implementations and listeners are
introduced by steps, and carry steps of their own, which they take while they are called. -/
namespace RpcRouting.Session

inductive Target
  | facade
  | facade2
  | router
  | second
  | unknown
deriving DecidableEq, Repr

structure IdentifierText where
  type : String
  context : Option String

inductive Outcome
  | echo
  | reply (value : Option Payload) (diagnostics : List Diagnostic)
  | fault (fault : Fault)

/-- An implementation as a step introduces it. Each of its calls takes the next script. -/
structure ImplementationPlan (Step : Type) where
  cost : Nat
  outcome : Outcome
  onInvoke : List (List Step)

/-- An implementation as a router sees it: one of the session's own, or the adapter that stands for
it behind a facade. Every registration with a facade has an adapter of its own. -/
inductive Server
  | native (implementation : Nat)
  | adapted (facade registration implementation : Nat)
deriving DecidableEq, Repr

def Server.implementation : Server → Nat
  | .native implementation => implementation
  | .adapted _ _ implementation => implementation

/-- Which implementations a listener cares for: all it sees of one is which it is, and what a call
costs at present. -/
structure Preference where
  admits : (server : Server) → (cost : Nat) → Bool

/-- Costs stand for the preference that rejects them. -/
def Preference.rejecting (costs : List Nat) : Preference := ⟨fun _ cost => !costs.contains cost⟩

instance : Coe (List Nat) Preference := ⟨.rejecting⟩

/-- A listener as a step introduces it. Without a preference it accepts every implementation
without being asked. -/
structure ListenerPlan (Step : Type) where
  preference : Option Preference
  onAvailable : List (List Step)
  onUnavailable : List (List Step)

inductive Step
  /-- Registers an implementation, which is introduced by a plan or known by its name. -/
  | register (target : Target) (handle name : String) (plan : Option (ImplementationPlan Step))
    (rpcs : List IdentifierText)
  /-- Registers a listener, which is introduced by a plan or known by its name. -/
  | listen (target : Target) (handle name : String) (plan : Option (ListenerPlan Step))
  | close (handle : String)
  | closed (handle : String)
  /-- Closes a handle and forgets it. -/
  | forget (handle : String)
  | invoke (target : Target) (type : String) (input : Option Payload)
  | isAvailable (target : Target) (rpc : IdentifierText)
  | look (target : Target)
  /-- Updates the schema to definitions, each a path and perhaps the field of the context. -/
  | updateSchema (target : Target) (definitions : List (String × Option String))
  | setCost (implementation : String) (cost : Nat)
  | setRejected (listener : String) (preference : Preference)
  | asked (listener : String)
  | describe (target : Target)
  | describeHandle (handle : String)
  | closeFacade (target : Target)
  /-- Gives up what the session itself has of a target. -/
  | abandon (target : Target)
  | panic (message : String)
  | unknown (name : String)

def Step.name : Step → String
  | .register .. => "register"
  | .listen .. => "listen"
  | .close _ => "close"
  | .closed _ => "closed"
  | .forget _ => "drop"
  | .invoke .. => "invoke"
  | .isAvailable .. => "is_available"
  | .look _ => "look"
  | .updateSchema .. => "schema"
  | .setCost .. => "set_cost"
  | .setRejected .. => "set_reject"
  | .asked _ => "asked"
  | .describe _ => "debug"
  | .describeHandle _ => "debug"
  | .closeFacade _ => "close_facade"
  | .abandon _ => "drop_target"
  | .panic _ => "panic"
  | .unknown name => name

inductive Refusal
  | noSuchTarget
  | path (error : PathError)
  /-- The step is not one, in the part that is named. -/
  | badInput (part : String)

/-- What a call answers its caller. -/
abbrev Verdict (generation : Generation) := Except (RpcFault generation) (Reply generation)

inductive Answer
  | registered (closed : Bool)
  | listening (closed : Bool)
  | closed (closed : Bool)
  | truth (value : Bool)
  | text (text : String)
  | returned (generation : Generation) (verdict : Verdict generation)
  | router (settings : RouterSettings) (schema : Schema)
  | refused (reason : Refusal)
  | panicked (message : String)

inductive Level
  | trace
  | debug
  | warn
deriving DecidableEq, Repr

inductive Event
  | invoked (implementation : String) (generation : Generation) (rpc : String)
  | notified (available : Bool) (listener : String) (generation : Generation)
    (rpcs : List generation.Identifier)
  | stepped (name : String) (answer : Answer)
  | note (level : Level) (message : String) (fields : List (String × String))

def IdentifierText.read (text : IdentifierText) :
    Except PathError (SchemaPath × Option InstancePath) := do
  let type ← SchemaPath.parse text.type
  let context ← text.context.mapM InstancePath.parse
  return (type, context)

def IdentifierText.readLegacy (text : IdentifierText) : Except PathError Legacy.Identifier :=
  (fun (type, context) => .create type context) <$> text.read

def IdentifierText.readCurrent (text : IdentifierText) : Except PathError Current.Identifier :=
  (fun (type, context) => .create type context) <$> text.read

mutual

/-- How many steps there are in a step, itself and those of scripts in it included. -/
def Step.size : Step → Nat
  | .register _ _ _ (some ⟨_, _, onInvoke⟩) _ => 1 + scriptsSize onInvoke
  | .listen _ _ _ (some ⟨_, onAvailable, onUnavailable⟩) =>
    1 + scriptsSize onAvailable + scriptsSize onUnavailable
  | _ => 1

def scriptSize : List Step → Nat
  | [] => 0
  | step :: rest => step.size + scriptSize rest

def scriptsSize : List (List Step) → Nat
  | [] => 0
  | script :: rest => scriptSize script + scriptsSize rest

end

end RpcRouting.Session
