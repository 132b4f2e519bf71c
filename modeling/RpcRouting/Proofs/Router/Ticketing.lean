import RpcRouting.Proofs.Router.Desk
import RpcRouting.Proofs.Router.Following
/-! A router at work, as the things that are done to it one after the other. Each registration goes
by the number that it has been given, which is a name like any other when the same things are done
again. -/
namespace RpcRouting

variable {I L : Type}

/-- What a registration goes by. -/
inductive Ticket
  | offer (number : Nat)
  | subscription (number : Nat)
deriving DecidableEq

/-- The change by which a registration is taken back. -/
def Ticket.withdrawal : Ticket → Change I L
  | .offer number => .unregister number
  | .subscription number => .unlisten number

theorem Ticket.eq_of_withdrawal {first second : Ticket}
    (same : (first.withdrawal : Change I L) = second.withdrawal) : first = second := by
  cases first <;> cases second <;> cases same <;> rfl

/-- What the open registrations with a router go by. -/
def Router.tickets (router : Router I L) : List Ticket :=
  router.offers.map (.offer ·.registration) ++
    router.subscriptions.map (.subscription ·.registration)

/-- What is done by taking something back. -/
def Ticket.closing (before : Router I L) (ticket : Ticket) : Doing Ticket I L :=
  if ticket ∈ before.tickets then .close ticket else .miss

/-- What is done by a change. -/
def Change.doing (before : Router I L) : Change I L → Doing Ticket I L
  | .register implementation cost rpcs =>
    .register (.offer before.nextNumber) implementation cost rpcs
  | .listen listener => .listen (.subscription before.nextNumber) listener
  | .unregister number => (Ticket.offer number).closing before
  | .unlisten number => (Ticket.subscription number).closing before

/-- What has been done to a router, if anything. Whom listeners accept makes no difference to an
update of the schema. -/
def Act.errand? (accepts : Acceptance I L) : Act I L → Option (Errand Ticket I L)
  | .changed before now change => some ⟨now, change.doing before⟩
  | .adopted schema => some ⟨accepts, .updateSchema schema⟩
  | .begun _ | .called _ => none

def errandsOf (accepts : Acceptance I L) (acts : List (Act I L)) : List (Errand Ticket I L) :=
  acts.filterMap (Act.errand? accepts)

/-- Who listens accepts whoever is offered as for good, if it does. -/
def Router.Agrees (custom : Custom Ticket I L) (now : Acceptance I L) (router : Router I L) :
    Prop :=
  ∀ subscription ∈ router.subscriptions, custom.lasts (.subscription subscription.registration) →
    ∀ offer ∈ router.offers, now subscription.listener offer.implementation =
      custom.accepts subscription.listener offer.implementation

/-- When registrations are changed, listeners accept implementations as they do for good, if they
do. -/
def Act.HoldsTo (custom : Custom Ticket I L) : Act I L → Prop
  | .changed before now change =>
    before.Agrees custom now ∧ (before.amend now change).Agrees custom now
  | .adopted _ | .begun _ | .called _ => True

def Constant (custom : Custom Ticket I L) (acts : List (Act I L)) : Prop :=
  ∀ act ∈ acts, act.HoldsTo custom

section
variable {custom : Custom Ticket I L} [DecidablePred custom.lasts] {now : Acceptance I L}
  {router : Router I L}

instance : Decidable (router.Agrees custom now) :=
  inferInstanceAs (Decidable (∀ subscription ∈ router.subscriptions, _ →
    ∀ offer ∈ router.offers, _ = _))

instance : DecidablePred (Act.HoldsTo (I := I) (L := L) custom)
  | .changed .. => inferInstanceAs (Decidable (_ ∧ _))
  | .adopted _ | .begun _ | .called _ => inferInstanceAs (Decidable True)

instance {acts : List (Act I L)} : Decidable (Constant custom acts) :=
  inferInstanceAs (Decidable (∀ act ∈ acts, act.HoldsTo custom))

end

namespace Router

variable {accepts now : Acceptance I L} {router : Router I L} {change : Change I L}

/-- The router with nothing to tell. -/
def atRest (router : Router I L) : Router I L := { router with pending := [], delivering := false }

theorem settle_atRest : router.atRest.settle now change = (router.apply now change).atRest := by
  cases change <;> rfl

theorem queuedBy_atRest : router.atRest.queuedBy now change = router.queuedBy now change := by
  cases change <;> rfl

theorem atRest_onDuty : router.onDuty.atRest = router.atRest := by
  rw [onDuty_eq]
  rfl

/-- Whoever takes back what is not there has the listeners told what they see then. -/
theorem apply_of_amend_eq {other : Change I L} (absent : router.amend now change = router)
    (absent' : router.amend now other = router) :
    router.apply now change = router.apply now other ∧
      router.queuedBy now change = router.queuedBy now other := by
  rw [apply, apply, queuedBy, queuedBy, absent, absent']
  exact ⟨rfl, rfl⟩

/-- What is not open is not there to be taken back. -/
theorem amend_of_absent {ticket : Ticket} (absent : ticket ∉ router.tickets) :
    router.amend now ticket.withdrawal = router := by
  simp only [tickets, List.mem_append, List.mem_map, not_or, not_exists, not_and] at absent
  cases ticket with
  | offer number =>
    have kept : router.offers.filter (·.registration ≠ number) = router.offers :=
      List.filter_eq_self.mpr fun offer member => decide_eq_true fun same =>
        absent.1 offer member (congrArg _ same)
    exact congrArg (fun offers => { router with offers := offers }) kept
  | subscription number =>
    have kept : router.subscriptions.filter (·.registration ≠ number) = router.subscriptions :=
      List.filter_eq_self.mpr fun subscription member => decide_eq_true fun same =>
        absent.2 subscription member (congrArg _ same)
    exact congrArg (fun subscriptions => { router with subscriptions := subscriptions }) kept

/-- Nothing goes by a number yet that has not been given to anything. -/
theorem next_not_mem_tickets (orderly : router.Orderly) :
    .offer router.nextNumber ∉ router.tickets ∧
      .subscription router.nextNumber ∉ router.tickets := by
  simp only [tickets, List.mem_append, List.mem_map, not_or, not_exists, not_and]
  refine ⟨⟨fun offer member same => ?_, fun _ _ => nofun⟩, fun _ _ => nofun,
    fun subscription member same => ?_⟩
  · exact Nat.ne_of_lt (orderly.offers_lt offer member) (Ticket.offer.inj same)
  · exact Nat.ne_of_lt (orderly.subscriptions_lt subscription member) (Ticket.subscription.inj same)

end Router

/-- A router whose registrations go by their tickets has open what the ledger has, as the router
does that it is compared with. -/
structure Ticketed (custom : Custom Ticket I L) (ledger : Ledger Ticket I L)
    (followed : Followed Ticket I L) (router : Router I L) : Prop where
  keeps : followed.Keeps custom ledger
  router : followed.router = router.atRest
  tickets : ∀ ticket change, followed.registered ticket = some change → change = ticket.withdrawal

namespace Ticketed

variable {custom : Custom Ticket I L} {now : Acceptance I L} {ledger : Ledger Ticket I L}
  {followed : Followed Ticket I L} {router : Router I L} {change : Change I L} {ticket : Ticket}

theorem ofSettings (custom : Custom Ticket I L) (settings : RouterSettings) :
    Ticketed custom (.ofSettings settings) (.ofSettings settings) (.ofSettings settings) :=
  ⟨.ofSettings custom settings, rfl, nofun⟩

/-- What a ledger has entered, the listeners of the router accept as for good. -/
theorem agrees {entered : Ledger Ticket I L} (agrees : router.Agrees custom now)
    (offers : List.Forall₂ (fun entry offer => entry.2.implementation = offer.implementation)
      entered.offers router.offers)
    (listeners : List.Forall₂ (fun entry subscription =>
        entry = (.subscription subscription.registration, subscription.listener))
      entered.listeners router.subscriptions) : entered.Agrees custom now := by
  intro listener member lasts offer inside
  obtain ⟨subscription, opened, rfl⟩ := exists_entry listeners.flip member
  obtain ⟨offered, opened', same⟩ := exists_entry offers.flip inside
  rw [same]
  exact agrees subscription opened lasts offered opened'

theorem orderly (follows : Ticketed custom ledger followed router) : router.Orderly := by
  have orderly := follows.keeps.orderly
  rw [follows.router] at orderly
  exact orderly.congr rfl rfl rfl rfl

theorem offers (follows : Ticketed custom ledger followed router) :
    List.Forall₂ (fun entry offer => entry.2.implementation = offer.implementation)
      ledger.offers router.offers := by
  have offers := follows.keeps.offers
  rw [follows.router] at offers
  exact offers.imp fun entry offer offers => by rw [offers.2]; rfl

theorem listeners (follows : Ticketed custom ledger followed router) :
    List.Forall₂ (fun entry subscription =>
        entry = (.subscription subscription.registration, subscription.listener))
      ledger.listeners router.subscriptions := by
  have listeners := follows.keeps.listeners
  rw [follows.router] at listeners
  refine listeners.imp fun entry subscription listens => Prod.ext ?_ listens.2
  exact Ticket.eq_of_withdrawal (follows.tickets _ _ listens.1).symm

/-- What is open goes by its ticket, and nothing else does. -/
theorem registered_eq_none_iff (follows : Ticketed custom ledger followed router) :
    followed.registered ticket = none ↔ ticket ∉ router.tickets := by
  have offers := follows.keeps.offers
  have listeners := follows.keeps.listeners
  rw [follows.router] at offers listeners
  constructor
  · intro closed member
    have other {open' : Ticket} (stands : followed.registered open' = some ticket.withdrawal) :
        False := by
      rw [← Ticket.eq_of_withdrawal (follows.tickets open' _ stands), closed] at stands
      contradiction
    rcases List.mem_append.mp member with offered | listening
    · obtain ⟨offer, inside, rfl⟩ := List.mem_map.mp offered
      obtain ⟨entry, -, registered, -⟩ := exists_entry offers inside
      exact other registered
    · obtain ⟨subscription, inside, rfl⟩ := List.mem_map.mp listening
      obtain ⟨entry, -, registered, -⟩ := exists_entry listeners inside
      exact other registered
  · intro absent
    by_contra opened
    obtain ⟨change, registered⟩ := Option.ne_none_iff_exists'.mp opened
    have taken := follows.keeps.taken registered
    rw [follows.tickets ticket change registered, follows.router] at taken
    apply absent
    rcases taken with ⟨offer, inside, same⟩ | ⟨subscription, inside, same⟩
    · cases ticket <;> cases same
      exact List.mem_append_left _ (List.mem_map_of_mem inside)
    · cases ticket <;> cases same
      exact List.mem_append_right _ (List.mem_map_of_mem inside)

/-- What goes by no ticket yet has no entry. -/
theorem fresh (follows : Ticketed custom ledger followed router)
    (absent : ticket ∉ router.tickets) :
    ticket ∉ ledger.names := fun member =>
  follows.keeps.registered_of_mem member (follows.registered_eq_none_iff.mpr absent)

/-- A new registration is made in the same way. -/
theorem opened (follows : Ticketed custom ledger followed router) (ticket : Ticket)
    {errand : Errand Ticket I L} (fits : ledger.Fits custom errand)
    (makes : followed.change? errand.doing = some change)
    (registered : followed.registeredAfter errand.doing =
      Function.update followed.registered ticket (some ticket.withdrawal)) :
    ledger.Fits custom errand ∧
      Ticketed custom (ledger.take errand) (followed.take errand)
        (router.apply errand.accepts change) ∧
      followed.told errand = router.queuedBy errand.accepts change := by
  refine ⟨fits, ⟨follows.keeps.take fits, ?_, ?_⟩, ?_⟩
  · rw [Followed.take, makes, follows.router]
    exact Router.settle_atRest
  · intro other change (here : followed.registeredAfter errand.doing other = some change)
    rw [registered, Function.update_apply] at here
    split at here
    · rename_i same
      rw [same]
      exact (Option.some.inj here).symm
    · exact follows.tickets other change here
  · rw [Followed.told, makes, follows.router]
    exact Router.queuedBy_atRest

/-- A registration is taken back in the same way, if it is there. -/
theorem closed (follows : Ticketed custom ledger followed router) (ticket : Ticket)
    (before : router.Agrees custom now) :
    ledger.Fits custom ⟨now, ticket.closing router⟩ ∧
      Ticketed custom (ledger.take ⟨now, ticket.closing router⟩)
        (followed.take ⟨now, ticket.closing router⟩) (router.apply now ticket.withdrawal) ∧
      followed.told ⟨now, ticket.closing router⟩ = router.queuedBy now ticket.withdrawal := by
  have agreed := agrees before follows.offers follows.listeners
  unfold Ticket.closing
  split
  · rename_i open'
    have fits : ledger.Fits custom ⟨now, .close ticket⟩ :=
      ⟨by rintro _ ⟨⟩, agreed, agreed.within ⟨List.filter_sublist, List.filter_sublist⟩⟩
    obtain ⟨change, registered⟩ := Option.ne_none_iff_exists'.mp fun closed =>
      follows.registered_eq_none_iff.mp closed open'
    obtain rfl := follows.tickets ticket change registered
    refine ⟨fits, ⟨follows.keeps.take fits, ?_, ?_⟩, ?_⟩
    · simp only [Followed.take, Followed.change?, registered, follows.router]
      exact Router.settle_atRest
    · intro other change
        (here : Function.update followed.registered ticket none other = some change)
      rw [Function.update_apply] at here
      split at here
      · contradiction
      · exact follows.tickets other change here
    · simp only [Followed.told, Followed.change?, registered, follows.router]
      exact Router.queuedBy_atRest
  · rename_i absent
    have fits : ledger.Fits custom ⟨now, .miss⟩ := ⟨by rintro _ ⟨⟩, agreed, agreed⟩
    have nothing : router.amend now (.unregister router.nextNumber) = router :=
      Router.amend_of_absent (Router.next_not_mem_tickets follows.orderly).1
    obtain ⟨same, queued⟩ := Router.apply_of_amend_eq nothing (Router.amend_of_absent absent)
    refine ⟨fits, ⟨follows.keeps.take fits, ?_, follows.tickets⟩, ?_⟩
    · rw [← same]
      simp only [Followed.take, Followed.change?, follows.router]
      exact Router.settle_atRest
    · rw [← queued]
      simp only [Followed.told, Followed.change?, follows.router]
      exact Router.queuedBy_atRest

/-- Whatever change is made, the same is done by tickets. -/
theorem changed (follows : Ticketed custom ledger followed router)
    (before : router.Agrees custom now) (after : (router.amend now change).Agrees custom now) :
    let errand : Errand Ticket I L := ⟨now, change.doing router⟩
    ledger.Fits custom errand ∧
      Ticketed custom (ledger.take errand) (followed.take errand) (router.apply now change) ∧
      followed.told errand = router.queuedBy now change := by
  have agreed := agrees before follows.offers follows.listeners
  obtain ⟨newOffer, newSubscription⟩ := Router.next_not_mem_tickets follows.orderly
  have number : followed.router.nextNumber = router.nextNumber := by
    rw [follows.router]
    rfl
  cases change with
  | register implementation cost rpcs =>
    refine follows.opened (.offer router.nextNumber) ⟨?_, agreed, ?_⟩ rfl ?_
    · rintro name ⟨⟩
      exact follows.fresh newOffer
    · exact agrees after (List.rel_append follows.offers (.cons rfl .nil)) follows.listeners
    · rw [Change.doing, Followed.registeredAfter, number]
      rfl
  | listen listener =>
    refine follows.opened (.subscription router.nextNumber) ⟨?_, agreed, ?_⟩ rfl ?_
    · rintro name ⟨⟩
      exact follows.fresh newSubscription
    · exact agrees after follows.offers (List.rel_append follows.listeners (.cons rfl .nil))
    · rw [Change.doing, Followed.registeredAfter, number]
      rfl
  | unregister number => exact follows.closed (.offer number) before
  | unlisten number => exact follows.closed (.subscription number) before

/-- An update of the schema is made in the same way. -/
theorem adopted (follows : Ticketed custom ledger followed router) (schema : Schema) :
    let errand : Errand Ticket I L := ⟨custom.accepts, .updateSchema schema⟩
    ledger.Fits custom errand ∧
      Ticketed custom (ledger.take errand) (followed.take errand) (router.updateSchema schema) := by
  intro errand
  have fits : ledger.Fits custom errand := ⟨nofun, fun _ _ _ _ _ => rfl, fun _ _ _ _ _ => rfl⟩
  refine ⟨fits, follows.keeps.take fits, ?_, follows.tickets⟩
  exact congrArg (Router.updateSchema schema) follows.router

/-- Deliveries make no difference. -/
theorem congr {other : Router I L} (follows : Ticketed custom ledger followed router)
    (same : other.atRest = router.atRest) : Ticketed custom ledger followed other :=
  ⟨follows.keeps, follows.router.trans same.symm, follows.tickets⟩

end Ticketed

namespace Desk

/-- What has been done to a router at work comes to the same when it is done by tickets. -/
structure Repeats (custom : Custom Ticket I L) (settings : RouterSettings) (acts : List (Act I L))
    (desk : Desk I L) : Prop where
  fit : (Ledger.ofSettings settings).FitAll custom (errandsOf custom.accepts acts)
  ticketed : Ticketed custom ((Ledger.ofSettings settings).after (errandsOf custom.accepts acts))
    ((Followed.ofSettings settings).after (errandsOf custom.accepts acts)) desk.router
  told : (Followed.ofSettings settings).toldOf (errandsOf custom.accepts acts) = enqueued acts

variable {custom : Custom Ticket I L} {settings : RouterSettings} {acts now : List (Act I L)}
  {desk next : Desk I L}

/-- One more thing is done. -/
theorem Repeats.done (repeats : Repeats custom settings acts desk) {act : Act I L}
    {errand : Errand Ticket I L} (does : act.errand? custom.accepts = some errand)
    (fits : ((Ledger.ofSettings settings).after (errandsOf custom.accepts acts)).Fits custom errand)
    (ticketed : Ticketed custom
      (((Ledger.ofSettings settings).after (errandsOf custom.accepts acts)).take errand)
      (((Followed.ofSettings settings).after (errandsOf custom.accepts acts)).take errand)
      next.router)
    (told : ((Followed.ofSettings settings).after (errandsOf custom.accepts acts)).told errand =
      act.queued) : Repeats custom settings (acts ++ [act]) next := by
  have errands : errandsOf custom.accepts (acts ++ [act]) =
      errandsOf custom.accepts acts ++ [errand] := by
    rw [errandsOf, List.filterMap_append]
    exact congrArg _ (by simp [does])
  constructor
  case fit =>
    rw [errands]
    exact Ledger.fitAll_append.mpr ⟨repeats.fit, fits, trivial⟩
  case ticketed =>
    rw [errands, Ledger.after_append, Followed.after_append]
    exact ticketed
  case told =>
    rw [errands, Followed.toldOf_append, repeats.told, enqueued_append]
    simp [Followed.toldOf, enqueued, told]

theorem Repeats.turn (repeats : Repeats custom settings acts desk) (turn : Turn desk now next)
    (constant : Constant custom now) : Repeats custom settings (acts ++ now) next := by
  have quiet (none : errandsOf custom.accepts now = []) (queued : enqueued now = [])
      (same : next.router.atRest = desk.router.atRest) :
      Repeats custom settings (acts ++ now) next := by
    have errands : errandsOf custom.accepts (acts ++ now) = errandsOf custom.accepts acts := by
      rw [errandsOf, List.filterMap_append, ← errandsOf, ← errandsOf, none, List.append_nil]
    refine ⟨errands ▸ repeats.fit, ?_, ?_⟩
    · rw [errands]
      exact repeats.ticketed.congr same
    · rw [errands, repeats.told, enqueued_append, queued, List.append_nil]
  rcases turn.router with ⟨changed, change, rfl, same⟩ | ⟨schema, rfl, same⟩ |
    ⟨idle, pending, delivering, same⟩
  · obtain ⟨before, after⟩ := constant _ List.mem_cons_self
    obtain ⟨fits, ticketed, told⟩ := repeats.ticketed.changed before after
    refine repeats.done rfl fits (ticketed.congr ?_) told
    rw [same, Router.atRest_onDuty]
  · obtain ⟨fits, ticketed⟩ := repeats.ticketed.adopted schema
    exact repeats.done rfl fits (ticketed.congr (by rw [same])) rfl
  · have rests : next.router.atRest = desk.router.atRest := by
      rw [same]
      rfl
    rcases idle with rfl | ⟨delivery, rfl⟩ | ⟨call, rfl⟩ <;> exact quiet rfl rfl rests

theorem turns_repeat (run : Run Turn ⟨.ofSettings settings, []⟩ acts desk)
    (constant : Constant custom acts) : Repeats custom settings acts desk := by
  generalize begins : (⟨.ofSettings settings, []⟩ : Desk I L) = first at run
  induction run with
  | still =>
    subst begins
    exact ⟨trivial, .ofSettings custom settings, rfl⟩
  | onward path turn ih =>
    exact (ih fun act member => constant act (List.mem_append_left _ member)).turn turn
      fun act member => constant act (List.mem_append_right _ member)

end Desk
end RpcRouting
