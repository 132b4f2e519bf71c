import RpcRouting.Proofs.Router.Telling
/-! Registrations that are taken back one after the other, each change told to all listeners before
the next one is made. Only the first change can tell a listener of anything new: it sees then by how
it accepts implementations now, and from then on it sees less and less. -/
namespace RpcRouting
open Current (Identifier)

variable {I L : Type}

/-- The router after a change of which all listeners have been told. -/
def Router.settle (accepts : Acceptance I L) (router : Router I L) (change : Change I L) :
    Router I L :=
  { router.apply accepts change with pending := [], delivering := false }

/-- What a change comes to depends on how listeners accept the implementations that are registered
then. -/
theorem Router.settle_congr {accepts other : Acceptance I L} {router : Router I L}
    {change : Change I L} (same : ∀ offer ∈ (router.amend other change).offers, ∀ listener,
      accepts listener offer.implementation = other listener offer.implementation) :
    router.settle accepts change = router.settle other change ∧
      router.queuedBy accepts change = router.queuedBy other change := by
  have view (listener : L) : RpcRouting.visible accepts (router.amend other change).offers listener =
      RpcRouting.visible other (router.amend other change).offers listener :=
    visible_congr fun offer member => same offer member listener
  have amend : router.amend accepts change = router.amend other change := by
    cases change with
    | listen listener =>
      have first : router.visible accepts listener = router.visible other listener := view listener
      simp only [Router.amend, toldAtFirst, first]
    | register | unregister | unlisten => rfl
  have seen : (router.amend other change).visible accepts =
      (router.amend other change).visible other := funext view
  simp only [settle, queuedBy, apply, publish, differences, amend, seen, and_self]

/-- What is told of changes that are made one after the other. -/
def Router.toldOf (accepts : Acceptance I L) (router : Router I L) :
    List (Change I L) → List (Delivery L)
  | [] => []
  | change :: later =>
    router.queuedBy accepts change ++ (router.settle accepts change).toldOf accepts later

theorem Router.toldOf_append (accepts : Acceptance I L) (router : Router I L)
    (first second : List (Change I L)) :
    router.toldOf accepts (first ++ second) =
      router.toldOf accepts first ++
        (first.foldl (Router.settle accepts) router).toldOf accepts second := by
  induction first generalizing router with
  | nil => rfl
  | cons change later ih => simp [Router.toldOf, ih]

/-- What a listener is told of anew while registrations are taken back: what it sees when the first
one is gone, and has not been told. Whose own registration goes first is told of nothing. -/
def Router.revealed (accepts : Acceptance I L) (router : Router I L)
    (subscription : Subscription L) : List (Change I L) → List Identifier
  | [] => []
  | change :: _ =>
    let left := router.amend accepts change
    if left.subscriptions.any (·.registration = subscription.registration) then
      (left.visible accepts subscription.listener).filter (· ∉ subscription.told)
    else []

/-- What is revealed depends on what the listener itself accepts. -/
theorem Router.revealed_congr {accepts other : Acceptance I L} {router : Router I L}
    {subscription : Subscription L} {changes : List (Change I L)}
    (same : ∀ server, accepts subscription.listener server = other subscription.listener server) :
    router.revealed accepts subscription changes = router.revealed other subscription changes := by
  have view (offers : List (Offer I)) : RpcRouting.visible accepts offers subscription.listener =
      RpcRouting.visible other offers subscription.listener := by
    simp only [RpcRouting.visible, same]
  cases changes with
  | nil => rfl
  | cons change later =>
    cases change <;> simp [Router.revealed, Router.amend, Router.visible, view]

/-- The identifiers of which calls tell that they have become available. -/
def announced (registration : Nat) (calls : List (Call L)) : List Identifier :=
  ((callsTo registration calls).filter (·.available)).flatMap (·.rpcs)

/-- A change by which a registration is taken back. -/
def Change.Withdraws : Change I L → Prop
  | .unregister _ | .unlisten _ => True
  | .register _ _ _ | .listen _ => False

variable {accepts : Acceptance I L} {router : Router I L} {change : Change I L}
  {subscription : Subscription L} {registration : Nat}

@[simp]
theorem announced_append (first second : List (Call L)) :
    announced registration (first ++ second) =
      announced registration first ++ announced registration second := by
  simp [announced]

theorem announced_eq_nil {calls : List (Call L)} (silent : ∀ call ∈ calls, call.available = false) :
    announced registration calls = [] := by
  refine List.flatMap_eq_nil_iff.mpr fun call member => ?_
  obtain ⟨inside, available⟩ := List.mem_filter.mp member
  rw [silent call (List.mem_filter.mp inside).1] at available
  contradiction

/-- A difference announces what is seen and has not been told. -/
theorem announced_difference (subscription : Subscription L) (view : List Identifier) :
    announced subscription.registration (subscription.difference view).calls =
      view.filter (· ∉ subscription.told) := by
  have own : callsTo subscription.registration (subscription.difference view).calls =
      (subscription.difference view).calls := by
    refine List.filter_eq_self.mpr fun call inside => ?_
    simpa [Subscription.difference] using (Desk.registration_of_mem_calls inside).1
  rw [announced, own]
  simp only [Delivery.calls, Subscription.difference, List.filter_filter]
  cases removed : subscription.told.filter (· ∉ view) <;>
    cases added : view.filter (· ∉ subscription.told) <;> simp

theorem mem_offers_withdraw (withdraws : change.Withdraws) {offer : Offer I}
    (member : offer ∈ (router.amend accepts change).offers) : offer ∈ router.offers := by
  cases change with
  | register | listen => exact withdraws.elim
  | unregister registration => exact List.mem_of_mem_filter member
  | unlisten registration => exact member

theorem mem_subscriptions_withdraw (withdraws : change.Withdraws)
    (member : subscription ∈ (router.amend accepts change).subscriptions) :
    subscription ∈ router.subscriptions := by
  cases change with
  | register | listen => exact withdraws.elim
  | unregister registration => exact member
  | unlisten registration => exact List.mem_of_mem_filter member

/-- Listeners have been told of everything that they see. -/
def Router.Covered (accepts : Acceptance I L) (router : Router I L) : Prop :=
  ∀ subscription ∈ router.subscriptions, ∀ rpc ∈ router.visible accepts subscription.listener,
    rpc ∈ subscription.told

theorem Router.covered_settle (accepts : Acceptance I L) (router : Router I L)
    (change : Change I L) : (router.settle accepts change).Covered accepts := by
  intro subscription member rpc seen
  obtain ⟨before, opened, rfl⟩ := List.mem_map.mp
    (Router.subscriptions_apply accepts router change ▸ member)
  rw [listener_refresh] at seen
  rw [← List.mem_toFinset, told_refresh, List.mem_toFinset]
  exact seen

/-- Who knows what it has been told knows what it sees after a change, from what it is told of it. -/
theorem Router.heard_settle (orderly : router.Orderly) {known : Nat → Finset Identifier}
    (knows : ∀ subscription ∈ (router.amend accepts change).subscriptions,
      known subscription.registration = subscription.told.toFinset)
    (member : subscription ∈ (router.settle accepts change).subscriptions) :
    heard (known subscription.registration) (callsTo subscription.registration
        ((router.queuedBy accepts change).flatMap Delivery.calls)) = subscription.told.toFinset ∧
      subscription.told.toFinset =
        ((router.amend accepts change).visible accepts subscription.listener).toFinset := by
  obtain ⟨before, opened, rfl⟩ := List.mem_map.mp
    (Router.subscriptions_apply accepts router change ▸ member)
  have calls := Router.callsTo_differences accepts (orderly.amend accepts change).2.1 opened
  rw [registration_refresh, listener_refresh, told_refresh, knows before opened, queuedBy, calls]
  exact ⟨heard_difference _ _, rfl⟩

/-- Who has been told of everything hears of nothing new when a registration is taken back. -/
theorem Router.Covered.queuedBy (covered : router.Covered accepts) (withdraws : change.Withdraws) :
    ∀ call ∈ (router.queuedBy accepts change).flatMap Delivery.calls, call.available = false := by
  intro call member
  obtain ⟨delivery, queued, inside⟩ := List.mem_flatMap.mp member
  obtain ⟨subscription, opened, rfl, -⟩ := mem_differences.mp queued
  have nothing : ((router.amend accepts change).visible accepts subscription.listener).filter
      (· ∉ subscription.told) = [] := by
    refine List.filter_eq_nil_iff.mpr fun rpc seen => ?_
    obtain ⟨offer, stays, accepted, declares⟩ := (mem_visible ..).mp seen
    have before : rpc ∈ router.visible accepts subscription.listener :=
      (mem_visible ..).mpr ⟨offer, mem_offers_withdraw withdraws stays, accepted, declares⟩
    simpa using covered subscription (mem_subscriptions_withdraw withdraws opened) rpc before
  simp only [Delivery.calls, Subscription.difference, nothing, List.mem_filter, List.mem_cons,
    List.not_mem_nil, or_false] at inside
  rcases inside with ⟨rfl | rfl, some⟩
  · rfl
  · simp at some

theorem Router.Covered.toldOf (covered : router.Covered accepts) {changes : List (Change I L)}
    (withdraw : ∀ change ∈ changes, change.Withdraws) :
    ∀ call ∈ (router.toldOf accepts changes).flatMap Delivery.calls, call.available = false := by
  induction changes generalizing router with
  | nil => exact nofun
  | cons change later ih =>
    rw [Router.toldOf, List.flatMap_append]
    refine List.forall_mem_append.mpr ⟨covered.queuedBy (withdraw change List.mem_cons_self), ?_⟩
    exact ih (router.covered_settle accepts change) fun other member =>
      withdraw other (List.mem_cons_of_mem _ member)

/-- Nobody is told anything on account of a registration that is closed with the first change. -/
theorem callsTo_toldOf_of_closed {later : List (Change I L)}
    (withdraw : ∀ change ∈ later, change.Withdraws)
    (closed : ∀ subscription ∈ (router.amend accepts change).subscriptions,
      subscription.registration ≠ registration) :
    callsTo registration ((router.toldOf accepts (change :: later)).flatMap Delivery.calls) = [] := by
  have first : callsTo registration ((router.queuedBy accepts change).flatMap Delivery.calls) = [] :=
    Router.callsTo_differences_of_closed accepts closed
  induction later generalizing router change with
  | nil => simpa [Router.toldOf] using first
  | cons next later ih =>
    obtain ⟨withdraws, rest⟩ := List.forall_mem_cons.mp withdraw
    have still : ∀ subscription ∈ ((router.settle accepts change).amend accepts next).subscriptions,
        subscription.registration ≠ registration := by
      intro subscription member
      obtain ⟨before, opened, rfl⟩ := List.mem_map.mp (Router.subscriptions_apply accepts router
        change ▸ mem_subscriptions_withdraw withdraws member)
      rw [registration_refresh]
      exact closed before opened
    rw [Router.toldOf, List.flatMap_append, callsTo_append, first, List.nil_append]
    exact ih rest still (Router.callsTo_differences_of_closed accepts still)

/-- Taking back registrations announces to a listener just what it sees after the first one and has
not been told. -/
theorem announced_toldOf_of_open (orderly : router.Orderly) {later : List (Change I L)}
    (withdraw : ∀ change ∈ later, change.Withdraws)
    (member : subscription ∈ (router.amend accepts change).subscriptions) :
    announced subscription.registration
        ((router.toldOf accepts (change :: later)).flatMap Delivery.calls) =
      (visible accepts (router.amend accepts change).offers subscription.listener).filter
        (· ∉ subscription.told) := by
  have sorted := (orderly.amend accepts change).2.1
  have first : callsTo subscription.registration
      ((router.queuedBy accepts change).flatMap Delivery.calls) =
        (subscription.difference ((router.amend accepts change).visible accepts
          subscription.listener)).calls := Router.callsTo_differences accepts sorted member
  have nothing : announced subscription.registration _ = [] :=
    announced_eq_nil ((router.covered_settle accepts change).toldOf withdraw)
  have difference := announced_difference subscription
    ((router.amend accepts change).visible accepts subscription.listener)
  rw [Router.toldOf, List.flatMap_append, announced_append, nothing, List.append_nil]
  rw [announced, ← first] at difference
  have once (calls : List (Call L)) : callsTo subscription.registration
      (callsTo subscription.registration calls) = callsTo subscription.registration calls := by
    simp [callsTo]
  rwa [once] at difference

theorem announced_toldOf (orderly : router.Orderly) {changes : List (Change I L)}
    (withdraw : ∀ change ∈ changes, change.Withdraws)
    (member : subscription ∈ router.subscriptions) :
    announced subscription.registration
        ((router.toldOf accepts changes).flatMap Delivery.calls) =
      router.revealed accepts subscription changes := by
  cases changes with
  | nil => rfl
  | cons change later =>
    obtain ⟨first, rest⟩ := List.forall_mem_cons.mp withdraw
    simp only [Router.revealed]
    split
    · rename_i stays
      obtain ⟨other, opened, same⟩ := List.any_eq_true.mp stays
      -- Registrations are numbered apart, so it is the subscription itself that stays.
      have itself : other = subscription := by
        have apart := orderly.subscriptions.imp fun less => Nat.ne_of_lt less
        exact List.inj_on_of_nodup_map apart (mem_subscriptions_withdraw first opened) member
          (by simpa using same)
      exact announced_toldOf_of_open orderly rest (itself ▸ opened)
    · rename_i leaves
      have closed : ∀ other ∈ (router.amend accepts change).subscriptions,
          other.registration ≠ subscription.registration := by simpa using leaves
      rw [announced, callsTo_toldOf_of_closed rest closed]
      rfl

end RpcRouting
