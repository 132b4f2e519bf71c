import RpcRouting.Router.Directory
import RpcRouting.Router.Settings
/-! A router keeps the open registrations of implementations and listeners. Whenever they change it
makes its directory afresh, compares for every listener what it sees now with what it has been told,
and queues the differences for delivery. -/
namespace RpcRouting

structure Subscription (L : Type) where
  registration : Nat
  listener : L
  /-- What the listener counts as told to be available, once all deliveries have been made. -/
  told : List Current.Identifier

/-- What one listener is still to be told. -/
structure Delivery (L : Type) where
  registration : Nat
  listener : L
  removed : List Current.Identifier
  added : List Current.Identifier

/-- Whether a listener cares for an implementation, as it says at one moment. -/
abbrev Acceptance (I L : Type) := L → I → Bool

structure Router (I L : Type) where
  settings : RouterSettings
  schema : Schema
  /-- How often the schema was updated. The counter of the program has 64 bits and would begin again
  at zero; fewer updates than that are assumed. -/
  generation : Nat
  /-- The number of the next registration. The counter of the program has 64 bits here too; fewer
  than `2 ^ 64` registrations are assumed, so that no number comes twice. -/
  nextNumber : Nat
  offers : List (Offer I)
  subscriptions : List (Subscription L)
  directory : Directory I
  pending : List (Delivery L)
  delivering : Bool

variable {I L : Type}

/-- The identifiers in their order, each where it occurs first. -/
def distinct (rpcs : List Current.Identifier) : List Current.Identifier :=
  rpcs.foldl (fun seen rpc => if rpc ∈ seen then seen else seen ++ [rpc]) []

/-- What a listener sees of the offers: what those it accepts serve, in the order of
registration. -/
def visible (accepts : Acceptance I L) (offers : List (Offer I)) (listener : L) :
    List Current.Identifier :=
  distinct ((offers.filter fun offer => accepts listener offer.implementation).flatMap (·.rpcs))

def Delivery.isEmpty (delivery : Delivery L) : Bool :=
  delivery.removed.isEmpty && delivery.added.isEmpty

namespace Subscription

/-- What takes the listener from what it has been told to what it sees. -/
def difference (subscription : Subscription L) (view : List Current.Identifier) : Delivery L where
  registration := subscription.registration
  listener := subscription.listener
  removed := subscription.told.filter (· ∉ view)
  added := view.filter (· ∉ subscription.told)

/-- The subscription with its difference queued. Without a difference it stays as it is. -/
def refresh (subscription : Subscription L) (view : List Current.Identifier) : Subscription L :=
  if (subscription.difference view).isEmpty then subscription else { subscription with told := view }

end Subscription

namespace Router

def ofSettings (settings : RouterSettings) : Router I L where
  settings := settings
  schema := settings.schema
  generation := 0
  nextNumber := 1
  offers := []
  subscriptions := []
  directory := .empty
  pending := []
  delivering := false

def visible (accepts : Acceptance I L) (router : Router I L) (listener : L) :
    List Current.Identifier :=
  RpcRouting.visible accepts router.offers listener

/-- What the listeners are to be told, in the order of their registration. -/
def differences (accepts : Acceptance I L) (router : Router I L) : List (Delivery L) :=
  (router.subscriptions.map fun subscription =>
    subscription.difference (router.visible accepts subscription.listener)).filter (!·.isEmpty)

/-- Makes changed registrations public: the directory at once, what listeners are to be told by way
of the queue. -/
def publish (accepts : Acceptance I L) (router : Router I L) : Router I L :=
  { router with
    directory := .ofOffers router.offers
    subscriptions := router.subscriptions.map fun subscription =>
      subscription.refresh (router.visible accepts subscription.listener)
    pending := router.pending ++ router.differences accepts }

def updateSchema (schema : Schema) (router : Router I L) : Router I L :=
  { router with schema := schema, generation := router.generation + 1 }

def isAvailable (router : Router I L) (rpc : Current.Identifier) : Bool :=
  router.directory.isAvailable rpc

def available (router : Router I L) : List Current.Identifier := router.directory.available

def describe (router : Router I L) : String :=
  "DefaultRpcRouter \x7b config: " ++ router.settings.describe ++ ", schema_generation: " ++
    toString router.generation ++ ", .. \x7d"

end Router

end RpcRouting
