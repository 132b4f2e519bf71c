import RpcRouting.Facade.Roster
import RpcRouting.Fault.Crossing
import RpcRouting.Registration
import RpcRouting.Router.Change
import RpcRouting.Router.Delivery
import RpcRouting.Session.Script
/-! The state of a session: routers and facades, the implementations and listeners that use them,
and the work that is under way. Listeners and implementations may take steps while they are called,
so the work under way is a stack of frames. A session is what one thread does. Locks have no part in
it, and counts of references only so far as something is alive on account of them. -/
namespace RpcRouting.Session

/-- A listener as a router sees it: one of the session's own, or the wrapper of a facade around
it. -/
inductive Watcher
  | native (listener : Nat)
  | wrapped (facade listener : Nat)
deriving DecidableEq, Repr

def Watcher.listener : Watcher → Nat
  | .native listener => listener
  | .wrapped _ listener => listener

def Watcher.generation : Watcher → Generation
  | .native _ => .current
  | .wrapped _ _ => .legacy

/-- What is done when a registration is released. -/
inductive Release
  | offer (router registration : Nat)
  | subscription (router registration : Nat)
  | facadeImplementation (facade id : Nat)
  | facadeListener (facade id : Nat)
deriving DecidableEq, Repr

abbrev Handle := Registration Unit Release

/-- How far the life of a facade has gone. -/
inductive Life
  | alive
  /-- The facade is gone, but a release still uses its roster. -/
  | leaving
  | gone
deriving DecidableEq, Repr

structure Facade where
  /-- The router that calls and listeners go to; without one there is a service that serves
  nothing. -/
  service : Option Nat
  /-- The router that implementations go to. -/
  provider : Nat
  roster : Roster Nat Server Handle
  life : Life
  /-- In which order it closes its registrations. -/
  order : Order

structure Implementation where
  name : String
  cost : Nat
  outcome : Outcome
  onInvoke : List (List Step)

structure Listener where
  name : String
  preference : Option Preference
  asked : Bool
  onAvailable : List (List Step)
  onUnavailable : List (List Step)

/-- What work under way keeps alive. -/
inductive Resource
  | facade (facade : Nat)
  /-- The roster of a facade, which may outlive it. -/
  | roster (facade : Nat)
  | router (router : Nat)
deriving DecidableEq, Repr

/-- A piece of work under way. -/
inductive Frame
  | script (steps : List Step)
  | report (name : String)
  | answer (answer : Answer)
  | answerClosed (handle : Nat)
  | change (router : Nat) (change : Change Server Watcher)
  | adopt (router : Nat) (schema : Schema)
  | deliver (router : Nat)
  | call (router : Nat) (call : Call Watcher)
  /-- A registration has been made; the step keeps it under a name and answers. -/
  | keep (name : String) (handle : Handle) (answer : Answer)
  | close (handle : Handle)
  | closeKept (handle : Nat)
  /-- The registration behind a facade has been made. -/
  | complete (facade id : Nat) (underlying : Handle)
  | completeListener (facade id : Nat) (underlying : Handle)
  | release (facade id : Nat)
  /-- The registration behind a facade has been released. -/
  | finishRelease (facade id : Nat)
  | releaseListener (facade id : Nat)
  | finishListenerRelease (id : Nat)
  | releaseListeners (facade : Nat)
  /-- Something need not be kept alive any longer. -/
  | letGo (resource : Resource)
  /-- The registrations behind a facade that is gone are to be closed. -/
  | closeAll (handles : List Handle)
  /-- A panic goes on after what had to be done on its way. -/
  | resume (message : String)

/-- What the session itself has of the targets. -/
structure Targets where
  facade : Option Nat
  facade2 : Option Nat
  router : Option Nat
  second : Option Nat
deriving DecidableEq, Repr

structure State where
  targets : Targets
  routers : List (Router Server Watcher)
  facades : List Facade
  implementations : List Implementation
  listeners : List Listener
  handles : List Handle
  /-- Which implementation, listener and handle each name stands for. -/
  implementationNames : List (String × Nat)
  listenerNames : List (String × Nat)
  handleNames : List (String × Nat)
  frames : List Frame
  log : List Event
  /-- The answer of the step that was taken last. -/
  answer : Answer
  /-- The message of a panic that is on its way. -/
  panic : Option String

namespace Targets

def facade? (targets : Targets) : Target → Option Nat
  | .facade => targets.facade
  | .facade2 => targets.facade2
  | _ => none

def router? (targets : Targets) : Target → Option Nat
  | .router => targets.router
  | .second => targets.second
  | _ => none

def hasFacade (targets : Targets) (facade : Nat) : Bool :=
  targets.facade == some facade || targets.facade2 == some facade

def hasRouter (targets : Targets) (router : Nat) : Bool :=
  targets.router == some router || targets.second == some router

end Targets

namespace Facade

def connecting (service : Option Nat) (provider : Nat) (order : Order) : Facade :=
  ⟨service, provider, .empty, .alive, order⟩

/-- The roster as it stands when its registrations are to be closed. -/
def arranged (facade : Facade) : Roster Nat Server Handle := facade.roster.arranged facade.order

def uses (facade : Facade) (router : Nat) : Bool :=
  facade.service == some router || facade.provider == router

def describe (facade : Facade) : String :=
  "LegacyRpcRouter \x7b implementations: " ++ toString facade.roster.records.length ++
    ", listeners: " ++ toString facade.roster.listeners.length ++ ", .. \x7d"

end Facade

def Frame.keepsAlive (resource : Resource) : Frame → Bool
  | .letGo other => other == resource
  | .deliver router => resource == .router router
  | _ => false

namespace State

variable (s : State)

/-! Reading and changing parts of the state. -/

def router? (router : Nat) : Option (Router Server Watcher) := s.routers[router]?

def facade? (facade : Nat) : Option Facade := s.facades[facade]?

def modifyRouter (router : Nat) (f : Router Server Watcher → Router Server Watcher) : State :=
  { s with routers := s.routers.modify router f }

def modifyFacade (facade : Nat) (f : Facade → Facade) : State :=
  { s with facades := s.facades.modify facade f }

def modifyRoster (facade : Nat)
    (f : Roster Nat Server Handle → Roster Nat Server Handle) : State :=
  s.modifyFacade facade fun facade => { facade with roster := f facade.roster }

def modifyImplementation (id : Nat) (f : Implementation → Implementation) : State :=
  { s with implementations := s.implementations.modify id f }

def modifyListener (id : Nat) (f : Listener → Listener) : State :=
  { s with listeners := s.listeners.modify id f }

def emit (event : Event) : State := { s with log := s.log ++ [event] }

def note (level : Level) (message : String) (fields : List (String × String)) : State :=
  s.emit (.note level message fields)

def push (frames : List Frame) : State := { s with frames := frames ++ s.frames }

def reply (answer : Answer) : State := { s with answer := answer }

def refuse (reason : Refusal) : State := s.reply (.refused reason)

/-! What is alive. -/

def isKeptAlive (resource : Resource) : Bool := s.frames.any (·.keepsAlive resource)

/-- Whether anything still has a router. -/
def routerAlive (router : Nat) : Bool :=
  s.targets.hasRouter router ||
    s.facades.any (fun facade => facade.life == .alive && facade.uses router) ||
    s.isKeptAlive (.router router)

def rosterAlive (facade : Nat) : Bool := (s.facade? facade).any (·.life != .gone)

/-- Lets the roster of a facade go once the facade and all work with the roster are gone. What is
registered behind the facade is then closed. -/
def letRosterGo (facade : Nat) : State :=
  match s.facade? facade with
  | some found =>
    if found.life = .leaving ∧ !s.isKeptAlive (.roster facade) then
      (s.modifyFacade facade ({ · with life := .gone })).push
        [.closeAll found.arranged.underlyings, .answer s.answer]
    else s
  | none => s

/-- Lets a facade go once nothing has it any more. -/
def letFacadeGo (facade : Nat) : State :=
  match s.facade? facade with
  | some found =>
    if found.life = .alive ∧ !s.targets.hasFacade facade ∧ !s.isKeptAlive (.facade facade) then
      (s.modifyFacade facade ({ · with life := .leaving })).letRosterGo facade
    else s
  | none => s

def letGo : Resource → State
  | .facade facade => s.letFacadeGo facade
  | .roster facade => s.letRosterGo facade
  | .router _ => s

/-! Listeners and the implementations they care for. -/

def costOf (implementation : Nat) : Nat :=
  (s.implementations[implementation]?.map (·.cost)).getD 0

/-- Whether a listener of the session accepts an implementation at its present cost. -/
def listenerAccepts (listener : Nat) (server : Server) : Bool :=
  match (s.listeners[listener]?).bind (·.preference) with
  | some preference => preference.admits server (s.costOf server.implementation)
  | none => true

/-- What was registered with a facade for an adapter, as long as the facade knows it. -/
def registered? (facade : Nat) (server : Server) : Option Nat :=
  match s.facade? facade with
  | some found => if found.life = .gone then none else found.roster.implementation? server
  | none => none

/-- Whether a listener accepts an implementation. A facade's wrapper accepts what is not registered
through its facade, without asking. -/
def accepts : Acceptance Server Watcher
  | .native listener, server => s.listenerAccepts listener server
  | .wrapped facade listener, server =>
    match s.registered? facade server with
    | some implementation => s.listenerAccepts listener (.native implementation)
    | none => true

def ask (listener : Nat) : State :=
  s.modifyListener listener fun found =>
    { found with asked := found.asked || found.preference.isSome }

def consult : Watcher × Server → State
  | (.native listener, _) => s.ask listener
  | (.wrapped facade listener, server) =>
    match s.registered? facade server with
    | some _ => s.ask listener
    | none => s.note .trace "implementation not registered through the facade; accepting" []

def consultAll (consultations : List (Watcher × Server)) : State := consultations.foldl consult s

end State

end RpcRouting.Session
