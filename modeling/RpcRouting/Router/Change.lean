import RpcRouting.Router.Basic
/-! The changes of a router's registrations. Implementations and listeners share one sequence of
numbers. Listeners say whether they care for an implementation while a change is made. -/
namespace RpcRouting

inductive Change (I L : Type)
  /-- An implementation is registered for identifiers, at its present cost. -/
  | register (implementation : I) (cost : Nat) (rpcs : List Current.Identifier)
  | unregister (registration : Nat)
  | listen (listener : L)
  /-- The registration of a listener is taken back. What is queued for it stays queued. -/
  | unlisten (registration : Nat)

namespace Router

variable {I L : Type}

/-- What a new listener counts as told: nothing if it is to hear of everything, else what it sees
already. -/
def toldAtFirst (accepts : Acceptance I L) (listener : L) (router : Router I L) :
    List Current.Identifier :=
  if router.settings.replayOnListen then [] else router.visible accepts listener

/-- The router with its registrations changed and nothing published yet. -/
def amend (accepts : Acceptance I L) (router : Router I L) : Change I L → Router I L
  | .register implementation cost rpcs =>
    { router with
      nextNumber := router.nextNumber + 1
      offers := router.offers ++ [⟨router.nextNumber, cost, implementation, rpcs⟩] }
  | .unregister registration =>
    { router with offers := router.offers.filter (·.registration ≠ registration) }
  | .listen listener =>
    { router with
      nextNumber := router.nextNumber + 1
      subscriptions := router.subscriptions ++
        [⟨router.nextNumber, listener, router.toldAtFirst accepts listener⟩] }
  | .unlisten registration =>
    { router with subscriptions := router.subscriptions.filter (·.registration ≠ registration) }

def apply (accepts : Acceptance I L) (router : Router I L) (change : Change I L) : Router I L :=
  (router.amend accepts change).publish accepts

/-- Whom publishing asks about what: every listener about every implementation. -/
def consultations (router : Router I L) : List (L × I) :=
  router.subscriptions.flatMap fun subscription =>
    router.offers.map fun offer => (subscription.listener, offer.implementation)

/-- Whom a change asks about what before it is published: a new listener that counts what it sees
as told. -/
def consultationsFor (router : Router I L) : Change I L → List (L × I)
  | .listen listener =>
    if router.settings.replayOnListen then []
    else router.offers.map fun offer => (listener, offer.implementation)
  | _ => []

end Router

end RpcRouting
