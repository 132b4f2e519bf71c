import RpcRouting.Router.Basic
/-! Deliveries are made one at a time, by whoever finds nobody else making them. So changes that
listeners make while they are called wait for their turn, and every listener hears of changes in
the order in which they were made. -/
namespace RpcRouting

structure Call (L : Type) where
  registration : Nat
  listener : L
  /-- Whether the identifiers have become available, or unavailable. -/
  available : Bool
  rpcs : List Current.Identifier

variable {I L : Type}

/-- The calls that make a delivery: first what the listener loses, then what it gains. -/
def Delivery.calls (delivery : Delivery L) : List (Call L) :=
  [⟨delivery.registration, delivery.listener, false, delivery.removed⟩,
    ⟨delivery.registration, delivery.listener, true, delivery.added⟩].filter (!·.rpcs.isEmpty)

namespace Router

/-- Takes on the duty to make deliveries, if there are any and nobody has it. -/
def startDelivering? (router : Router I L) : Option (Router I L) :=
  if router.delivering ∨ router.pending.isEmpty then none
  else some { router with delivering := true }

def nextDelivery? (router : Router I L) : Option (Delivery L × Router I L) :=
  match router.pending with
  | [] => none
  | delivery :: rest => some (delivery, { router with pending := rest })

def stopDelivering (router : Router I L) : Router I L := { router with delivering := false }

end Router

end RpcRouting
