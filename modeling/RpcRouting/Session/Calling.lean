import RpcRouting.Session.Basic
import RpcRouting.Session.Registering
/-! How listeners and implementations are called. What the called party does meanwhile is its next
script. A facade and the adapters behind it bring identifiers, replies and faults from one generation
of the contract to the other. -/
namespace RpcRouting.Session

namespace Implementation

/-- What an implementation answers that echoes its call. -/
def echo (implementation : Implementation) (rpc : String) (input : Option Payload) : Payload :=
  .object ([("handled_by", .string implementation.name), ("rpc", .string rpc)] ++
    (input.map fun value => ("input", value)).toList)

/-- The answer under the legacy contract, where any fault may be answered. -/
def answerLegacy (implementation : Implementation) (rpc : Legacy.Identifier)
    (input : Option Payload) : Except Fault (Reply .legacy) :=
  match implementation.outcome with
  | .echo => .ok (.ofValue (some (implementation.echo rpc.describe input)))
  | .reply value diagnostics => .ok ⟨value, diagnostics⟩
  | .fault fault => .error fault

/-- The answer under the current contract, where foreign faults are wrapped. -/
def answerCurrent (implementation : Implementation) (rpc : Current.Identifier)
    (input : Option Payload) : Verdict .current :=
  match implementation.outcome with
  | .echo => .ok (.ofValue (some (implementation.echo rpc.describe input)))
  | .reply value diagnostics => .ok ⟨value, diagnostics⟩
  | .fault fault => .error ((fault.as? .current).getD (.failed "native failure" (some fault)))

end Implementation

/-- What an adapter makes of a legacy implementation's answer. -/
def adapterVerdict : Except Fault (Reply .legacy) → Verdict .current
  | .ok reply => .ok (reply.convert .current)
  | .error fault => .error (fault.cross .default .legacy .current)

/-- What a facade makes of the answer of the service behind it. -/
def facadeVerdict : Verdict .current → Verdict .legacy
  | .ok reply => .ok (reply.convert .legacy)
  | .error fault => .error (fault.cross .default .legacy)

/-- The identifiers of a batch as a listener is told of them. The wrapper of a facade brings them to
the legacy contract. -/
def Watcher.bring (rpcs : List Current.Identifier) :
    (watcher : Watcher) → List watcher.generation.Identifier
  | .native _ => rpcs
  | .wrapped _ _ => rpcs.map (·.toLegacy)

namespace State

variable (s : State)

/-- Calls a listener, which is told of the identifiers and takes its next script. -/
def callListener (call : Call Watcher) : State :=
  let id := call.listener.listener
  match s.listeners[id]? with
  | none => s
  | some found =>
    let (script, called) := if call.available then
        (found.onAvailable.headD [], { found with onAvailable := found.onAvailable.tail })
      else (found.onUnavailable.headD [], { found with onUnavailable := found.onUnavailable.tail })
    ((s.emit (.notified call.available found.name _ (call.listener.bring call.rpcs))).modifyListener id
      fun _ => called).push [.script script, .answer s.answer]

/-- Calls an implementation; answers its script and what it returns. -/
def callServer (server : Server) (rpc : Current.Identifier) (input : Option Payload) :
    State × List Step × Verdict .current :=
  match s.implementations[server.implementation]? with
  | none => (s, [], .error (Router.notAvailable rpc.type))
  | some found =>
    let called := s.modifyImplementation server.implementation fun _ =>
      { found with onInvoke := found.onInvoke.tail }
    let script := found.onInvoke.headD []
    match server with
    | .native _ =>
      (called.emit (.invoked found.name .current rpc.describe), script,
        found.answerCurrent rpc input)
    | .adapted _ id _ =>
      let noted := called.note .trace "invoking legacy implementation"
        [("registration", registrationText id), ("rpc", rpc.toLegacy.render)]
      (noted.emit (.invoked found.name .legacy rpc.toLegacy.describe), script,
        adapterVerdict (found.answerLegacy rpc.toLegacy input))

/-- Notes that a call falls back to a global implementation, if it does. -/
def noteFallback (router : Router Server Watcher) (type : SchemaPath) (input : Option Payload) :
    State :=
  match router.contextOf type input with
  | .ok (some context) =>
    if router.fallsBack type context && router.directory.serves type then
      s.note .trace "no routed implementation; falling back to global"
        [("rpc", type.render), ("context", context.render)]
    else s
  | _ => s

/-- Calls an RPC through a router; answers the script of the implementation and what it returns. -/
def callRouter (router : Nat) (type : SchemaPath) (input : Option Payload) :
    State × List Step × Verdict .current :=
  match s.router? router with
  | none => (s, [], .error (Router.notAvailable type))
  | some found =>
    let noted := s.noteFallback found type input
    match found.choose type input with
    | .dispatch server rpc =>
      (noted.note .trace "dispatching RPC" [("rpc", rpc.render)]).callServer server rpc input
    | .unavailable =>
      (noted.note .debug "no implementation available" [("rpc", type.render)], [],
        .error (Router.notAvailable type))
    | .malformed error =>
      (noted.note .warn "malformed context reference in RPC input"
        [("rpc", type.render), ("error", error.message)], [],
        .error (Router.invalidContext type error))

def callService (service : Option Nat) (type : SchemaPath) (input : Option Payload) :
    State × List Step × Verdict .current :=
  match service with
  | some router => s.callRouter router type input
  | none => (s, [], .error (.notAvailable type.render none))

end State

end RpcRouting.Session
