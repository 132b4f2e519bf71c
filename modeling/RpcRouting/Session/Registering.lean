import RpcRouting.Session.Basic
/-! How registrations are made and released, with routers and through facades. A change of a router
is put on the stack, and followed by its deliveries unless they are under way; whatever has to wait
for that stands below it. -/
namespace RpcRouting.Session

def registrationText (id : Nat) : String := "reg-" ++ toString id

namespace State

variable (s : State)

/-! Registrations with a router. -/

def noteChange (router : Router Server Watcher) : Change Server Watcher → State
  | .register _ cost rpcs => s.note .debug "RPC implementation registered"
      [("registration", toString router.nextNumber), ("cost", toString cost),
        ("rpcs", toString rpcs.length)]
  | .unregister registration =>
    if router.offers.any (·.registration = registration) then
      s.note .debug "RPC implementation unregistered" [("registration", toString registration)]
    else s
  | .listen _ => s.note .debug "RPC availability listener registered"
      [("registration", toString router.nextNumber),
        ("replay", toString router.settings.replayOnListen)]
  | .unlisten registration => s.note .debug "RPC availability listener unregistered"
      [("registration", toString registration)]

/-- Starts to make a router's deliveries, unless that is under way. -/
def deliver (router : Nat) : State :=
  match (s.router? router).bind (·.startDelivering?) with
  | some started => (s.modifyRouter router fun _ => started).push [.deliver router]
  | none => s

def change (router : Nat) (change : Change Server Watcher) : State :=
  match s.router? router with
  | none => s
  | some found =>
    let changed := found.apply s.accepts change
    ((((s.consultAll (found.consultationsFor change)).noteChange found change).modifyRouter router
      fun _ => changed).consultAll changed.consultations).deliver router

def adopt (router : Nat) (schema : Schema) : State :=
  match s.router? router with
  | none => s
  | some found =>
    (s.modifyRouter router (·.updateSchema schema)).note .debug "schema context updated"
      [("generation", toString (found.generation + 1)), ("rpcs", toString schema.size)]

/-- The registration that a router makes next for an implementation. Without identifiers there is
nothing to release later. -/
def offerHandle (router : Nat) (rpcs : List Current.Identifier) : Handle :=
  match s.router? router with
  | some found => if rpcs.isEmpty then .inert () else .opened () (.offer router found.nextNumber)
  | none => .inert ()

/-- Registers an implementation with a router. Without identifiers it is ignored. -/
def registerWith (router : Nat) (server : Server) (rpcs : List Current.Identifier) : State :=
  if rpcs.isEmpty then
    s.note .warn "ignoring RPC implementation registered without any RPC identifiers" []
  else s.push [.change router (.register server (s.costOf server.implementation) rpcs)]

def subscriptionHandle (router : Nat) : Handle :=
  match s.router? router with
  | some found => .opened () (.subscription router found.nextNumber)
  | none => .inert ()

/-! Releases. -/

/-- Releases a registration. A router or a roster that is gone has nothing to release. -/
def release : Release → State
  | .offer router registration =>
    if s.routerAlive router then s.push [.change router (.unregister registration)] else s
  | .subscription router registration =>
    if s.routerAlive router then s.push [.change router (.unlisten registration)] else s
  | .facadeImplementation facade id =>
    if s.rosterAlive facade then s.push [.release facade id, .letGo (.roster facade)] else s
  | .facadeListener facade id =>
    if s.rosterAlive facade then s.push [.releaseListener facade id, .letGo (.roster facade)] else s

def close (handle : Handle) : State :=
  match handle.release with
  | some release => s.release release
  | none => s

/-- Closes one of the session's handles. It counts as closed before it is released. -/
def closeKept (handle : Nat) : State :=
  match s.handles[handle]? with
  | some found => State.close { s with handles := s.handles.modify handle (·.close) } found
  | none => s

def isClosed (handle : Nat) : Bool := (s.handles[handle]?).all (·.isClosed)

/-! Registrations through a facade. -/

/-- Completes the registration of an implementation. If it has been released meanwhile, what was
made behind the facade is closed. -/
def complete (facade id : Nat) (underlying : Handle) : State :=
  match s.facade? facade with
  | none => s
  | some found =>
    let (roster, leftOver) := found.roster.complete id underlying
    let completed := s.modifyRoster facade fun _ => roster
    match leftOver with
    | none => completed
    | some handle =>
      (completed.note .trace "closing registration detached before attach"
        [("registration", registrationText id)]).push [.close handle]

def completeListener (facade id : Nat) (underlying : Handle) : State :=
  (s.modifyRoster facade (·.enterListener id underlying)).note .debug
    "legacy RPC listener registered" [("registration", registrationText id)]

/-- Begins to release an implementation of a facade. -/
def beginRelease (facade id : Nat) : State :=
  match (s.facade? facade).bind (·.roster.detach? id) with
  | none => s
  | some (roster, underlying) =>
    (s.modifyRoster facade fun _ => roster).push
      (underlying.toList.map .close ++ [.finishRelease facade id])

def finishRelease (facade id : Nat) : State :=
  (s.modifyRoster facade (·.remove id)).note .trace "implementation mapping released"
    [("registration", registrationText id)]

/-- Begins to release a listener of a facade. -/
def beginListenerRelease (facade id : Nat) : State :=
  match (s.facade? facade).bind (·.roster.listener? id) with
  | none => s
  | some underlying =>
    (s.modifyRoster facade (·.removeListener id)).push
      [.close underlying, .finishListenerRelease id]

def finishListenerRelease (id : Nat) : State :=
  s.note .trace "listener mapping released" [("registration", registrationText id)]

end State

end RpcRouting.Session
