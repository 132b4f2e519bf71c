import RpcRouting.Session.Calling
import RpcRouting.Session.Registering
/-! What each step does. Work that the step has to wait for is put on the stack, and the answer
below it. -/
namespace RpcRouting.Session

/-- Binds a name, which may have stood for something else. -/
def bindName (names : List (String × Nat)) (name : String) (id : Nat) : List (String × Nat) :=
  (name, id) :: names.filter (·.1 ≠ name)

namespace State

variable (s : State)

/-! Names. -/

/-- Introduces an implementation, or finds the one known by its name. -/
def introduceImplementation (name : String) (plan : Option (ImplementationPlan Step)) :
    Option (State × Nat) :=
  match plan with
  | none => (s.implementationNames.lookup name).map (s, ·)
  | some plan =>
    let id := s.implementations.length
    some ({ s with
      implementations := s.implementations ++ [⟨name, plan.cost, plan.outcome, plan.onInvoke⟩]
      implementationNames := bindName s.implementationNames name id }, id)

/-- Introduces a listener, or finds the one known by its name. -/
def introduceListener (name : String) (plan : Option (ListenerPlan Step)) : Option (State × Nat) :=
  match plan with
  | none => (s.listenerNames.lookup name).map (s, ·)
  | some plan =>
    let id := s.listeners.length
    some ({ s with
      listeners := s.listeners ++
        [⟨name, plan.preference, false, plan.onAvailable, plan.onUnavailable⟩]
      listenerNames := bindName s.listenerNames name id }, id)

/-- Keeps a handle under its name and answers. A handle that had the name is closed afterwards. -/
def keep (name : String) (handle : Handle) (answer : Answer) : State :=
  let kept := { s with
    handles := s.handles ++ [handle]
    handleNames := bindName s.handleNames name s.handles.length }
  kept.push ((s.handleNames.lookup name).toList.map .closeKept ++ [.answer answer])

def withHandle (name : String) (act : Nat → State) : State :=
  match s.handleNames.lookup name with
  | some handle => act handle
  | none => s.refuse .noSuchTarget

/-- Does one thing with a facade or another with a router, as the target is one or the other. -/
def withTarget (target : Target) (onFacade : Nat → Facade → State)
    (onRouter : Nat → Router Server Watcher → State) : State :=
  match s.targets.facade? target, s.targets.router? target with
  | some id, _ =>
    match s.facade? id with
    | some facade => onFacade id facade
    | none => s.refuse .noSuchTarget
  | none, some id =>
    match s.router? id with
    | some router => onRouter id router
    | none => s.refuse .noSuchTarget
  | none, none => s.refuse .noSuchTarget

def refuseFacade (_id : Nat) (_facade : Facade) : State := s.refuse .noSuchTarget

def refuseRouter (_id : Nat) (_router : Router Server Watcher) : State := s.refuse .noSuchTarget

/-- Goes on with what has been read, or refuses it. -/
def withRead (read : Except PathError α) (act : α → State) : State :=
  match read with
  | .ok value => act value
  | .error error => s.refuse (.path error)

/-! Registrations. -/

/-- Registers an implementation through a facade. The roster knows it before the router does. -/
def registerThrough (id : Nat) (facade : Facade) (handle : String) (implementation : Nat)
    (rpcs : List Legacy.Identifier) : State :=
  let number := facade.roster.nextNumber
  let server := Server.adapted id number implementation
  let rpcs := rpcs.map (·.toCurrent)
  let entered := s.modifyRoster id (·.takeNumber.enter number implementation server)
  let noted := entered.note .debug "registering legacy RPC implementation"
    [("registration", registrationText number), ("rpcs", toString rpcs.length)]
  (noted.push [.complete id number (s.offerHandle facade.provider rpcs),
    .keep handle (.opened () (.facadeImplementation id number)) (.registered false),
    .letGo (.facade id)]).registerWith facade.provider server rpcs

def registerDirectly (router : Nat) (handle : String) (implementation : Nat)
    (rpcs : List Current.Identifier) : State :=
  let kept := s.offerHandle router rpcs
  (s.push [.keep handle kept (.registered kept.isClosed), .letGo (.router router)]).registerWith
    router (.native implementation) rpcs

/-- Registers a listener through a facade. The roster knows it only after the router has told it
what is available. -/
def listenThrough (id : Nat) (facade : Facade) (handle : String) (listener : Nat) : State :=
  let number := facade.roster.nextNumber
  let counted := s.modifyRoster id (·.takeNumber)
  let waiting (underlying : Handle) : State := counted.push
    [.completeListener id number underlying,
      .keep handle (.opened () (.facadeListener id number)) (.listening false),
      .letGo (.facade id)]
  match facade.service with
  | some router =>
    (waiting (s.subscriptionHandle router)).push [.change router (.listen (.wrapped id listener))]
  | none => waiting (.inert ())

def listenDirectly (router : Nat) (handle : String) (listener : Nat) : State :=
  let kept := s.subscriptionHandle router
  s.push [.change router (.listen (.native listener)),
    .keep handle kept (.listening kept.isClosed), .letGo (.router router)]

/-- Registers an implementation. Its identifiers form a set. -/
def register (target : Target) (handle : String) (implementation : Nat)
    (rpcs : List IdentifierText) : State :=
  s.withTarget target
    (fun id facade => s.withRead (rpcs.mapM (·.readLegacy)) fun rpcs =>
      s.registerThrough id facade handle implementation rpcs.eraseDups)
    (fun id _ => s.withRead (rpcs.mapM (·.readCurrent)) fun rpcs =>
      s.registerDirectly id handle implementation rpcs.eraseDups)

def listen (target : Target) (handle : String) (listener : Nat) : State :=
  s.withTarget target (fun id facade => s.listenThrough id facade handle listener)
    (fun id _ => s.listenDirectly id handle listener)

/-- Releases all registrations of a facade, which may go on to be used. -/
def closeFacade (id : Nat) (facade : Facade) : State :=
  (s.note .debug "closing legacy RPC router"
    [("implementations", toString facade.roster.records.length),
      ("listeners", toString facade.roster.listeners.length)]).push
    (facade.arranged.records.map (fun (number, _) => .release id number) ++
      [.releaseListeners id, .answer (.text "closed"), .letGo (.facade id)])

def abandon : Target → State
  | .facade =>
    match s.targets.facade with
    | none => s.refuse .noSuchTarget
    | some id =>
      (State.push { s with targets.facade := none } [.answer (.text "dropped")]).letFacadeGo id
  | .facade2 =>
    match s.targets.facade2 with
    | none => s.refuse .noSuchTarget
    | some id =>
      (State.push { s with targets.facade2 := none } [.answer (.text "dropped")]).letFacadeGo id
  | .router =>
    match s.targets.router with
    | none => s.refuse .noSuchTarget
    | some _ => State.reply { s with targets.router := none } (.text "dropped")
  | _ => s.refuse (.badInput "on")

/-! Calls and the schema. -/

def invoke (target : Target) (type : String) (input : Option Payload) : State :=
  s.withTarget target
    (fun id facade => s.withRead (SchemaPath.parse type) fun type =>
      let (called, script, verdict) := s.callService facade.service type input
      called.push [.script script, .answer (.returned .legacy (facadeVerdict verdict)),
        .letGo (.facade id)])
    (fun id _ => s.withRead (SchemaPath.parse type) fun type =>
      let (called, script, verdict) := s.callRouter id type input
      called.push [.script script, .answer (.returned .current verdict), .letGo (.router id)])

def readDefinition (text : String × Option String) : Except PathError Definition :=
  (⟨·, text.2⟩) <$> SchemaPath.parse text.1

/-- Updates the schema of a service. One that serves nothing keeps none. -/
def updateServiceSchema (service : Option Nat) (schema : Schema) : State :=
  match service with
  | some router => s.push [.adopt router schema]
  | none =>
    s.note .debug "delegate RPC service does not track schema context; update ignored" []

def updateSchema (target : Target) (definitions : List (String × Option String)) : State :=
  let read := definitions.mapM readDefinition
  s.withTarget target
    (fun _ facade => s.withRead read fun definitions =>
      (s.updateServiceSchema facade.service (.ofList definitions)).reply (.text "updated"))
    (fun id _ => s.withRead read fun definitions =>
      (s.updateServiceSchema (some id) (.ofList definitions)).reply (.text "updated"))

/-! All steps. -/

def take : Step → State
  | .register target handle name plan rpcs =>
    match s.introduceImplementation name plan with
    | some (introduced, implementation) => introduced.register target handle implementation rpcs
    | none => s.refuse .noSuchTarget
  | .listen target handle name plan =>
    match s.introduceListener name plan with
    | some (introduced, listener) => introduced.listen target handle listener
    | none => s.refuse .noSuchTarget
  | .close handle => s.withHandle handle fun id => s.push [.closeKept id, .answerClosed id]
  | .closed handle => s.withHandle handle fun id => s.reply (.closed (s.isClosed id))
  | .forget handle => s.withHandle handle fun id =>
    State.push { s with handleNames := s.handleNames.filter (·.1 ≠ handle) }
      [.closeKept id, .answer (.text "dropped")]
  | .invoke target type input => s.invoke target type input
  | .isAvailable target rpc => s.withTarget target s.refuseFacade fun _ router =>
    s.withRead rpc.readCurrent fun rpc => s.reply (.truth (router.isAvailable rpc))
  | .look target => s.withTarget target s.refuseFacade fun _ router =>
    s.reply (.router router.settings router.schema)
  | .updateSchema target definitions => s.updateSchema target definitions
  | .setCost name cost =>
    match s.implementationNames.lookup name with
    | some id => (s.modifyImplementation id ({ · with cost := cost })).reply (.text "set")
    | none => s.refuse .noSuchTarget
  | .setRejected name preference =>
    match s.listenerNames.lookup name with
    | some id => (s.modifyListener id fun listener =>
        { listener with preference := listener.preference.map fun _ => preference }).reply
          (.text "set")
    | none => s.refuse .noSuchTarget
  | .asked name =>
    match (s.listenerNames.lookup name).bind (s.listeners[·]?) with
    | some listener => s.reply (.truth listener.asked)
    | none => s.refuse .noSuchTarget
  | .describe target => s.withTarget target (fun _ facade => s.reply (.text facade.describe))
    (fun _ router => s.reply (.text router.describe))
  | .describeHandle name => s.withHandle name fun id =>
    match s.handles[id]? with
    | some handle => s.reply (.text handle.describe)
    | none => s.refuse .noSuchTarget
  | .closeFacade target => s.withTarget target s.closeFacade s.refuseRouter
  | .abandon target => s.abandon target
  | .panic message => { s with panic := some message }
  | .unknown _ => s.refuse (.badInput "do")

end State

end RpcRouting.Session
