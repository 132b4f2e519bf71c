import Mathlib.Logic.Function.Basic
import RpcRouting.Proofs.Session.Answering
import RpcRouting.Proofs.Session.Finding
import RpcRouting.Proofs.Session.Settling
/-! A router that is used directly, with no facade in between, and what each step of a session with
facades comes to there: who registers through a facade is replaced by somebody who registers with
the router itself, and to close a facade is to close what is open of its registrations. -/
namespace RpcRouting.Session

/-- What a listener hears at a time, under the contract it is written for. -/
inductive Hearing
  | legacy (listener : String) (available : Bool) (rpcs : List Legacy.Identifier)
  | current (listener : String) (available : Bool) (rpcs : List Current.Identifier)
deriving DecidableEq

def Event.hearing? : Event → Option Hearing
  | .notified available listener .legacy rpcs => some (.legacy listener available rpcs)
  | .notified available listener .current rpcs => some (.current listener available rpcs)
  | _ => none

/-- The implementations and listeners of a session at one moment, where a listener is what it is
called and what it cares for. -/
structure Parties where
  implementations : List Implementation
  listeners : List (String × Option Preference)

namespace Parties

variable (parties : Parties)

def costOf (implementation : Nat) : Nat :=
  (parties.implementations[implementation]?.map (·.cost)).getD 0

def admits (listener : Nat) (server : Server) : Bool :=
  match (parties.listeners[listener]?).bind (·.2) with
  | some preference => preference.admits server (parties.costOf server.implementation)
  | none => true

/-- Whom listeners accept that are registered directly. Who stands for a listener of a facade
accepts what has not been registered through the same facade, and asks the listener about the
rest. -/
def accepts : Acceptance Server Watcher
  | .native listener, server => parties.admits listener server
  | .wrapped facade listener, server =>
    match server.original? facade with
    | some implementation => parties.admits listener (.native implementation)
    | none => true

/-- What is heard of a call. The listener of a facade hears of legacy identifiers where who stands
for it hears of current ones. -/
def hearing (call : Call Watcher) : List Hearing :=
  (parties.listeners[call.listener.listener]?).toList.map fun (name, _) =>
    match call.listener with
    | .native _ => .current name call.available call.rpcs
    | .wrapped _ _ => .legacy name call.available (call.rpcs.map (·.toLegacy))

def hearings (told : List (Delivery Watcher)) : List Hearing :=
  (told.flatMap Delivery.calls).flatMap parties.hearing

end Parties

/-- What is done to a router that is used directly. A registration goes by the name of what releases
it in the session. -/
inductive Deed
  | register (name : Release) (server : Server) (rpcs : List Current.Identifier)
  | listen (name : Release) (watcher : Watcher)
  | close (name : Release)
  | updateSchema (schema : Schema)
  | invoke (type : SchemaPath) (input : Option Payload)

/-- A router that is used directly, with what takes back each registration that is open. -/
structure Direct where
  router : Router Server Watcher
  registered : Release → Option (Change Server Watcher)

namespace Direct

def ofSettings (settings : RouterSettings) : Direct := ⟨.ofSettings settings, fun _ => none⟩

variable (parties : Parties) (direct : Direct)

/-- The change that something done makes to the router. What is registered without identifiers is
ignored, and what is not open is not closed. -/
def change? : Deed → Option (Change Server Watcher)
  | .register _ server rpcs =>
    if rpcs.isEmpty then none
    else some (.register server (parties.costOf server.implementation) rpcs)
  | .listen _ watcher => some (.listen watcher)
  | .close name => direct.registered name
  | .updateSchema _ | .invoke _ _ => none

/-- What is registered after the router has been changed. -/
def registeredAfter : Deed → Release → Option (Change Server Watcher)
  | .register name _ _ =>
    Function.update direct.registered name (some (.unregister direct.router.nextNumber))
  | .listen name _ =>
    Function.update direct.registered name (some (.unlisten direct.router.nextNumber))
  | .close name => Function.update direct.registered name none
  | .updateSchema _ | .invoke _ _ => direct.registered

/-- A change is made and told to all listeners. -/
def take (deed : Deed) : Direct :=
  match direct.change? parties deed, deed with
  | some change, _ => ⟨direct.router.settle parties.accepts change, direct.registeredAfter deed⟩
  | none, .updateSchema schema => { direct with router := direct.router.updateSchema schema }
  | none, _ => direct

/-- What the listeners are told of it. -/
def told (deed : Deed) : List (Delivery Watcher) :=
  ((direct.change? parties deed).map (direct.router.queuedBy parties.accepts)).getD []

def takeAll (deeds : List Deed) : Direct := deeds.foldl (take parties) direct

def toldOfAll (direct : Direct) : List Deed → List (Delivery Watcher)
  | [] => []
  | deed :: later => direct.told parties deed ++ (direct.take parties deed).toldOfAll later

/-- What a call is answered. Who stands for an implementation of a facade passes on the legacy
identifier and the input, and answers the same value and diagnostics, or the translated fault. -/
def answer (type : SchemaPath) (input : Option Payload) : Verdict .current :=
  match direct.router.choose type input with
  | .dispatch server rpc =>
    match parties.implementations[server.implementation]? with
    | some found => server.answer found rpc input
    | none => .error (Router.notAvailable rpc.type)
  | .unavailable => .error (Router.notAvailable type)
  | .malformed error => .error (Router.invalidContext type error)

/-- Who is called for it. -/
def invocations (type : SchemaPath) (input : Option Payload) : List Event :=
  match direct.router.choose type input with
  | .dispatch server rpc =>
    (parties.implementations[server.implementation]?).toList.map (server.invocation · rpc)
  | _ => []

end Direct

/-- What is done at a time, with what the listeners are told of it. -/
structure Exchange where
  parties : Parties
  deeds : List Deed
  told : List (Delivery Watcher)

inductive Direct.Step (direct : Direct) : List Exchange → Direct → Prop
  | exchange (parties : Parties) (deeds : List Deed) :
      Step direct [⟨parties, deeds, direct.toldOfAll parties deeds⟩] (direct.takeAll parties deeds)

/-- Whether a step gives up no facade. -/
def Step.isLive : Step → Bool
  | .abandon .facade | .abandon .facade2 => false
  | _ => true

/-- The facade through which a registration has been made. -/
def Release.facade? : Release → Option Nat
  | .facadeImplementation facade _ | .facadeListener facade _ => some facade
  | .offer _ _ | .subscription _ _ => none

/-- The registrations on the roster of a facade, in the order in which it closes them. -/
def Facade.enrolled (id : Nat) (facade : Facade) : List Release :=
  facade.arranged.records.map (fun (number, _) => .facadeImplementation id number) ++
    facade.arranged.listeners.map fun (number, _) => .facadeListener id number

/-- Whom a step is about. -/
inductive Addressee
  | facade (id : Nat) (facade : Facade)
  | router (id : Nat) (router : Router Server Watcher)

/-- What a call of somebody keeps alive. -/
def Addressee.resource : Addressee → Resource
  | .facade id _ => .facade id
  | .router id _ => .router id

/-- What the caller of somebody is answered where the router answers so. Through a facade the value and
the diagnostics stay the same, and a fault is translated to the legacy contract. -/
inductive Relayed : Addressee → Verdict .current → Answer → Prop
  | router (id : Nat) (router : Router Server Watcher) (verdict : Verdict .current) :
    Relayed (.router id router) verdict (.returned .current verdict)
  | reply (id : Nat) (facade : Facade) (value : Option Payload) (diagnostics : List Diagnostic) :
    Relayed (.facade id facade) (.ok ⟨value, diagnostics⟩)
      (.returned .legacy (.ok ⟨value, diagnostics⟩))
  | fault (id : Nat) (facade : Facade) (fault : RpcFault .current) :
    Relayed (.facade id facade) (.error fault)
      (.returned .legacy (.error (fault.cross .default .legacy)))

namespace State

variable (s : State)

def parties : Parties := ⟨s.implementations, s.listeners.map Listener.nature⟩

/-- What listeners have heard, as the log has it. -/
def heard : List Hearing := s.notifications.filterMap Event.hearing?

def addressee? (target : Target) : Option Addressee :=
  match s.targets.facade? target, s.targets.router? target with
  | some id, _ => (s.facade? id).map (.facade id)
  | none, some id => (s.router? id).map (.router id)
  | none, none => none

/-- The release that a handle still holds. -/
def releaseOf? (handle : Nat) : Option Release := (s.handles[handle]?).bind (·.release)

/-- To close a handle is to close the registration it is for. -/
def closing (handle : Nat) : List Deed := ((s.releaseOf? handle).map .close).toList

/-- The handle that has a name is closed. -/
def displacing (name : String) : List Deed := (s.handleNames.lookup name).toList.flatMap s.closing

/-- What a step of a session with facades comes to where the router is used directly. -/
def deeds : Step → List Deed
  | .register target handle name plan rpcs =>
    match (s.introduceImplementation name plan).map (·.2), s.addressee? target with
    | some implementation, some (.facade id facade) =>
      match rpcs.mapM (·.readLegacy) with
      | .ok rpcs =>
        .register (.facadeImplementation id facade.roster.nextNumber)
          (.adapted id facade.roster.nextNumber implementation)
          (rpcs.eraseDups.map (·.toCurrent)) :: s.displacing handle
      | .error _ => []
    | some implementation, some (.router id router) =>
      match rpcs.mapM (·.readCurrent) with
      | .ok rpcs =>
        .register (.offer id router.nextNumber) (.native implementation) rpcs.eraseDups ::
          s.displacing handle
      | .error _ => []
    | _, _ => []
  | .listen target handle name plan =>
    match (s.introduceListener name plan).map (·.2), s.addressee? target with
    | some listener, some (.facade id facade) =>
      .listen (.facadeListener id facade.roster.nextNumber) (.wrapped id listener) ::
        s.displacing handle
    | some listener, some (.router id router) =>
      .listen (.subscription id router.nextNumber) (.native listener) :: s.displacing handle
    | _, _ => []
  | .close handle | .forget handle => s.displacing handle
  | .updateSchema target definitions =>
    match s.addressee? target, definitions.mapM readDefinition with
    | some _, .ok definitions => [.updateSchema (.ofList definitions)]
    | _, _ => []
  | .invoke target type input =>
    match s.addressee? target, SchemaPath.parse type with
    | some _, .ok type => [.invoke type input]
    | _, _ => []
  | .closeFacade target =>
    match s.addressee? target with
    | some (.facade id facade) => (facade.enrolled id).map .close
    | _ => []
  | _ => []

end State

/-- A step that is taken, with the parties as they are when it has introduced what it is to
introduce, and with what is heard until the next step is taken. -/
structure Episode where
  before : State
  step : Step
  parties : Parties
  heard : List Hearing

/-- What is done directly in the place of a step, at the same time and with the same heard of it. -/
structure Episode.Matches (episode : Episode) (exchange : Exchange) : Prop where
  parties : exchange.parties = episode.parties
  deeds : exchange.deeds = episode.before.deeds episode.step
  heard : episode.heard = episode.parties.hearings exchange.told

namespace State

/-- Work goes on until a step can be taken. A panic that nothing stops is the answer. -/
inductive Pauses (s : State) : State → Prop
  | ready {t : State} (proceeds : Proceeds s t) (ready : t.isReady = true) : Pauses s t
  | landed {t : State} {message : String} (proceeds : Proceeds s t) (rest : t.frames = [])
      (panicked : t.panic = some message) :
      Pauses s { t with answer := .panicked message, panic := none }

/-- The session calls two of its facades by the names that steps have for them, and starts a log. -/
def aiming (s : State) (facade facade2 : Option Nat) : State :=
  { s with targets := { s.targets with facade := facade, facade2 := facade2 }, log := [] }

/-- A step is taken, from outside or by an implementation that is being called. Listeners take
none. -/
inductive Unfolds : State → List Episode → State → Prop
  | outside {s t : State} (rest : s.frames = []) (calm : s.panic = none)
      (facade facade2 : Option Nat) (step : Step)
      (passive : ((s.aiming facade facade2).take step).Passive)
      (pauses : Pauses ((s.aiming facade facade2).take step) t) :
      Unfolds s [⟨s.aiming facade facade2, step,
        ((s.aiming facade facade2).take step).parties, t.heard⟩] t
  | within {s t : State} {step : Step} {later : List Step} {below : List Frame}
      {heard : List Hearing} (top : s.frames = .script (step :: later) :: below)
      (calm : s.panic = none) (passive : s.advance.Passive) (pauses : Pauses s.advance t)
      (hears : t.heard = s.heard ++ heard) :
      Unfolds s [⟨s, step, s.advance.parties, heard⟩] t

/-- A session with so many facades over one router. Each closes its registrations in an order of its
own. -/
def gathering (settings : RouterSettings) (count : Nat) (order : Nat → Order) : State :=
  { start settings .single with
    facades := (List.range count).map fun id => .connecting (some 0) 0 (order id) }

/-- How a session stands to the router that is used directly in its place. -/
structure StandsFor (direct : Direct) (s : State) : Prop where
  router : s.router? 0 = some direct.router
  /-- What is open of the registrations of a facade is on its roster, and so closed with it. -/
  enrolled : ∀ id facade, s.facade? id = some facade → ∀ name : Release, name.facade? = some id →
    direct.registered name ≠ none → name ∈ facade.enrolled id
  /-- Whenever something is called, the router answers it as it does directly, and whoever calls
  through a facade has that answer relayed. -/
  answers : ∀ facade facade2 frames log target addressee text type input,
    let now := { s.aiming facade facade2 with frames := frames, log := log }
    now.addressee? target = some addressee → SchemaPath.parse text = .ok type →
    ∃ (called : State) (script : List Step) (answer : Answer),
      Relayed addressee (direct.answer s.parties type input) answer ∧
      now.invoke target text input =
        called.push [.script script, .answer answer, .letGo addressee.resource] ∧
      called.invocations = now.invocations ++ direct.invocations s.parties type input
  /-- Whatever step is taken next, it comes to a pause. -/
  outside : ∀ facade facade2 step, s.frames = [] → s.panic = none → step.isLive →
    ((s.aiming facade facade2).take step).Passive →
    ∃ t, Pauses ((s.aiming facade facade2).take step) t
  within : ∀ step later below, s.frames = .script (step :: later) :: below → s.panic = none →
    step.isLive → s.advance.Passive → ∃ t, Pauses s.advance t

end State
end RpcRouting.Session
