import RpcRouting.Proofs.Router.Solo
/-! A listener beside the others. What a router tells on account of one registration of a listener is
what the machine for it alone tells; of what is done about other listeners nothing comes to it. -/
namespace RpcRouting
open Current (Identifier)

variable {I L : Type}

namespace Followed

/-- The number of the registration of a listener that goes by a ticket. -/
def number? (followed : Followed Ticket I L) (own : Ticket) : Option Nat :=
  match followed.registered own with
  | some (.unlisten number) => some number
  | _ => none

/-- The calls that something done makes on account of the registration that goes by a ticket. -/
def callsOn (own : Ticket) (followed : Followed Ticket I L) (errand : Errand Ticket I L) :
    List (Call L) :=
  (((followed.take errand).number? own).map
    (callsTo · ((followed.told errand).flatMap Delivery.calls))).getD []

def callsFor (own : Ticket) (followed : Followed Ticket I L) :
    List (Errand Ticket I L) → List (Call L)
  | [] => []
  | errand :: later => followed.callsOn own errand ++ (followed.take errand).callsFor own later

theorem number?_eq_some_iff {followed : Followed Ticket I L} {own : Ticket} {number : Nat} :
    followed.number? own = some number ↔ followed.registered own = some (.unlisten number) := by
  unfold number?
  cases followed.registered own with
  | none => simp
  | some change => cases change <;> simp

/-- The machine is where the router is, as far as the one listener is concerned. -/
structure Shadows (own : Ticket) (watcher : L) (ledger : Ledger Ticket I L)
    (followed : Followed Ticket I L) (solo : Solo I) : Prop where
  listens : own.isOffer = false
  offers : solo.offers =
    ledger.offers.map fun entry => (entry.1, entry.2.implementation, entry.2.rpcs)
  kinds : ∀ entry ∈ ledger.offers, entry.1.isOffer = true
  told : ∀ subscription ∈ followed.router.subscriptions,
    followed.number? own = some subscription.registration →
      subscription.listener = watcher ∧ solo.told = some subscription.told
  away : followed.number? own = none → solo.told = none

theorem shadows_ofSettings {own : Ticket} (listens : own.isOffer = false) (watcher : L)
    (settings : RouterSettings) : Shadows own watcher (.ofSettings settings : Ledger Ticket I L)
      (.ofSettings settings) .empty :=
  ⟨listens, rfl, List.forall_mem_nil _, List.forall_mem_nil _, fun _ => rfl⟩

namespace Shadows

variable {own : Ticket} {watcher : L} {accepts : Acceptance I L} {ledger : Ledger Ticket I L}
  {followed : Followed Ticket I L} {solo : Solo I} {errand : Errand Ticket I L}

theorem view_eq (watcher : L) (keeps : followed.Keeps ⟨(· = own), accepts⟩ ledger)
    (offers : solo.offers =
      ledger.offers.map fun entry => (entry.1, entry.2.implementation, entry.2.rpcs)) :
    solo.view (accepts watcher) = followed.router.visible accepts watcher := by
  have same : ledger.offers.map (fun entry => (entry.2.implementation, entry.2.rpcs)) =
      followed.router.offers.map fun offer => (offer.implementation, offer.rpcs) :=
    map_entries keeps.offers fun entry offer offers => by rw [offers.2]; rfl
  have seen : (ledger.offers.filter (accepts watcher ·.2.implementation)).flatMap (·.2.rpcs) =
      (followed.router.offers.filter (accepts watcher ·.implementation)).flatMap (·.rpcs) := by
    have seen := congrArg (fun served : List (I × List Identifier) =>
      (served.filter (accepts watcher ·.1)).flatMap (·.2)) same
    simpa [List.filter_map, List.flatMap_map, Function.comp_def] using seen
  rw [Solo.view, offers, Router.visible, RpcRouting.visible, ← seen]
  simp [List.filter_map, List.flatMap_map, Function.comp_def]

/-- While it is registered the listener has been told what it sees. -/
theorem known (shadows : Shadows own watcher ledger followed solo)
    (keeps : followed.Keeps ⟨(· = own), accepts⟩ ledger) :
    ∀ told, solo.told = some told → told.toFinset = (solo.view (accepts watcher)).toFinset := by
  intro told listening
  cases number : followed.number? own with
  | none => cases (shadows.away number).symm.trans listening
  | some number' =>
    have registered := number?_eq_some_iff.mp number
    rcases keeps.taken registered with ⟨offer, -, same⟩ | ⟨subscription, member, same⟩
    · cases same
    · cases same
      obtain ⟨rfl, same⟩ := shadows.told subscription member number
      obtain rfl := Option.some.inj (listening.symm.trans same)
      rw [view_eq _ keeps shadows.offers]
      exact keeps.seen own rfl subscription member registered

/-- What is offered afterwards. -/
theorem amended_offers (shadows : Shadows own watcher ledger followed solo)
    (suits : errand.Suits own watcher) (replay : Bool) (accepts : Acceptance I L) :
    (solo.amendBy replay (accepts watcher) (errand.concern? own)).offers =
      (ledger.take errand).offers.map (fun entry => (entry.1, entry.2.implementation, entry.2.rpcs)) ∧
    ∀ entry ∈ (ledger.take errand).offers, entry.1.isOffer = true := by
  obtain ⟨now, doing⟩ := errand
  cases doing with
  | register ticket implementation cost rpcs =>
    refine ⟨?_, List.forall_mem_append.mpr ⟨shadows.kinds, List.forall_mem_singleton.mpr suits⟩⟩
    rw [Ledger.take, List.map_append, ← shadows.offers]
    rfl
  | listen ticket listener =>
    refine ⟨?_, shadows.kinds⟩
    by_cases same : ticket = own <;>
      simpa [Errand.concern?, same, Solo.amendBy, Solo.amend, Ledger.take] using shadows.offers
  | close ticket =>
    refine ⟨?_, fun entry member => shadows.kinds entry (List.mem_of_mem_filter member)⟩
    by_cases offer : ticket.isOffer = true
    · have other : ticket ≠ own := by
        rintro rfl
        rw [shadows.listens] at offer
        cases offer
      simp [Errand.concern?, other, offer, Solo.amendBy, Solo.amend, Ledger.take, shadows.offers,
        List.filter_map, Function.comp_def]
    · have kept : ledger.offers.filter (·.1 ≠ ticket) = ledger.offers := by
        refine List.filter_eq_self.mpr fun entry member => decide_eq_true ?_
        rintro rfl
        exact offer (shadows.kinds entry member)
      have taken : (ledger.take ⟨now, .close ticket⟩).offers = ledger.offers := kept
      rw [taken, ← shadows.offers]
      by_cases same : ticket = own <;>
        simp [Errand.concern?, same, offer, Solo.amendBy, Solo.amend]
  | miss | updateSchema => exact ⟨shadows.offers, shadows.kinds⟩

theorem number?_congr {other : Followed Ticket I L}
    (same : other.registered own = followed.registered own) :
    other.number? own = followed.number? own := by
  rw [number?, same, number?]

/-- What goes by the listener's ticket afterwards, and what counts as told then, before anything is
published. -/
theorem amended_told (shadows : Shadows own watcher ledger followed solo)
    (suits : errand.Suits own watcher) (replay : Bool) (accepts : Acceptance I L) :
    ((followed.take errand).number? own = none ∧
      (solo.amendBy replay (accepts watcher) (errand.concern? own)).told = none) ∨
    ((followed.take errand).number? own = followed.number? own ∧
      (solo.amendBy replay (accepts watcher) (errand.concern? own)).told = solo.told) ∨
    (errand.doing = .listen own watcher ∧
      (followed.take errand).number? own = some followed.router.nextNumber ∧
      (solo.amendBy replay (accepts watcher) (errand.concern? own)).told =
        some (if replay then [] else solo.view (accepts watcher))) := by
  obtain ⟨now, doing⟩ := errand
  cases doing with
  | register ticket implementation cost rpcs =>
    have other : own ≠ ticket := by
      rintro rfl
      cases shadows.listens.symm.trans suits
    exact .inr (.inl ⟨number?_congr (Function.update_of_ne other ..), rfl⟩)
  | listen ticket listener =>
    by_cases same : ticket = own
    · obtain rfl := suits.2 same
      subst same
      refine .inr (.inr ⟨rfl, number?_eq_some_iff.mpr (Function.update_self ..), ?_⟩)
      simp [Errand.concern?, Solo.amendBy, Solo.amend]
    · refine .inr (.inl ⟨number?_congr (Function.update_of_ne (Ne.symm same) ..), ?_⟩)
      simp [Errand.concern?, same, Solo.amendBy]
  | close ticket =>
    by_cases same : ticket = own
    · subst same
      refine .inl ⟨?_, ?_⟩
      · rw [number?]
        have gone : (followed.take ⟨now, .close ticket⟩).registered ticket = none :=
          Function.update_self ..
        rw [gone]
      · simp [Errand.concern?, Solo.amendBy, Solo.amend]
    · refine .inr (.inl ⟨number?_congr (Function.update_of_ne (Ne.symm same) ..), ?_⟩)
      by_cases offer : ticket.isOffer = true <;>
        simp [Errand.concern?, same, offer, Solo.amendBy, Solo.amend]
  | miss | updateSchema => exact .inr (.inl ⟨rfl, rfl⟩)

/-- Whoever goes by the ticket accepts whoever is offered as it does for good. -/
theorem visible_of_agrees {now : Acceptance I L} {registered : Ticket → Option (Change I L)}
    {router : Router I L} (agrees : ledger.Agrees ⟨(· = own), accepts⟩ now)
    (offers : List.Forall₂ (Ledger.Offers registered) ledger.offers router.offers)
    (entered : (own, watcher) ∈ ledger.listeners) :
    router.visible now watcher = router.visible accepts watcher := by
  refine visible_congr fun offer opened => ?_
  obtain ⟨entry, inside, -, same⟩ := exists_entry offers opened
  have agreed := agrees _ entered rfl entry inside
  rw [same] at agreed
  exact agreed

variable {change : Change I L}

/-- What counts as told once registrations have been changed, before anything is published. -/
theorem amended_subscription (shadows : Shadows own watcher ledger followed solo)
    (keeps : followed.Keeps ⟨(· = own), accepts⟩ ledger)
    (fits : ledger.Fits ⟨(· = own), accepts⟩ errand) (suits : errand.Suits own watcher)
    (makes : followed.change? errand.doing = some change) {before : Subscription L}
    (member : before ∈ (followed.router.amend errand.accepts change).subscriptions)
    (mine : (followed.take errand).number? own = some before.registration) :
    before.listener = watcher ∧ (solo.amendBy followed.router.settings.replayOnListen
      (accepts watcher) (errand.concern? own)).told = some before.told := by
  rcases shadows.amended_told suits followed.router.settings.replayOnListen accepts with
    ⟨gone, -⟩ | ⟨number, told⟩ | ⟨doing, number, told⟩
  · cases gone.symm.trans mine
  · rw [number] at mine
    have older := keeps.number_lt (number?_eq_some_iff.mp mine) (.inr rfl)
    rw [told]
    exact shadows.told before (Router.mem_subscriptions_amend member older) mine
  · obtain ⟨now, doing⟩ := errand
    subst doing
    cases makes
    have last : before = ⟨followed.router.nextNumber, watcher,
        followed.router.toldAtFirst now watcher⟩ := by
      rcases List.mem_append.mp member with old | new
      · have older := keeps.orderly.subscriptions_lt before old
        exact absurd (Option.some.inj (number.symm.trans mine)) (Nat.ne_of_gt older)
      · exact List.mem_singleton.mp new
    have seen : followed.router.visible now watcher = solo.view (accepts watcher) := by
      rw [view_eq watcher keeps shadows.offers]
      exact visible_of_agrees fits.after keeps.offers (by simp [Ledger.take])
    rw [told, last]
    exact ⟨rfl, by rw [Router.toldAtFirst, seen]⟩

/-- What the listener has subscribed, once a change is made, has been refreshed by what the machine
sees. -/
theorem refreshed (shadows : Shadows own watcher ledger followed solo)
    (keeps : followed.Keeps ⟨(· = own), accepts⟩ ledger)
    (fits : ledger.Fits ⟨(· = own), accepts⟩ errand) (suits : errand.Suits own watcher)
    (makes : followed.change? errand.doing = some change) {subscription : Subscription L}
    (member : subscription ∈ (followed.take errand).router.subscriptions)
    (mine : (followed.take errand).number? own = some subscription.registration) :
    let amended := solo.amendBy followed.router.settings.replayOnListen (accepts watcher)
      (errand.concern? own)
    ∃ before ∈ (followed.router.amend errand.accepts change).subscriptions,
      (followed.router.amend errand.accepts change).visible errand.accepts before.listener =
        amended.view (accepts watcher) ∧
      subscription = before.refresh (amended.view (accepts watcher)) ∧
      before.listener = watcher ∧ amended.told = some before.told := by
  intro amended
  have keeps' := keeps.take fits
  have router : (followed.take errand).router = followed.router.settle errand.accepts change := by
    simp only [Followed.take, makes]
  have offers := (shadows.amended_offers suits followed.router.settings.replayOnListen accepts).1
  have view := view_eq watcher keeps' offers
  obtain ⟨entry, entered, registered, same⟩ := exists_entry keeps'.listeners member
  have name := keeps'.apart _ _ _ registered (number?_eq_some_iff.mp mine)
  rw [router] at member
  obtain ⟨before, opened, rfl⟩ := List.mem_map.mp
    ((Router.subscriptions_apply errand.accepts followed.router change) ▸ member)
  rw [registration_refresh] at mine
  rw [listener_refresh] at same
  obtain ⟨rfl, stands⟩ := shadows.amended_subscription keeps fits suits makes opened mine
  have entered : (own, before.listener) ∈ (ledger.take errand).listeners := by
    rw [← name, ← same]
    exact entered
  have seen := visible_of_agrees fits.after keeps'.offers entered
  rw [← view, router] at seen
  exact ⟨before, opened, seen, congrArg before.refresh seen, rfl, stands⟩

theorem amended_away (shadows : Shadows own watcher ledger followed solo)
    (suits : errand.Suits own watcher) (replay : Bool) (accepts : Acceptance I L)
    (gone : (followed.take errand).number? own = none) :
    (solo.amendBy replay (accepts watcher) (errand.concern? own)).told = none := by
  rcases shadows.amended_told suits replay accepts with ⟨-, left⟩ | ⟨number, same⟩ | ⟨-, number, -⟩
  · exact left
  · exact same.trans (shadows.away (number.symm.trans gone))
  · cases number.symm.trans gone

/-- Of a change the one listener is told just what the machine for it tells. -/
theorem content_callsOn (shadows : Shadows own watcher ledger followed solo)
    (keeps : followed.Keeps ⟨(· = own), accepts⟩ ledger)
    (fits : ledger.Fits ⟨(· = own), accepts⟩ errand) (suits : errand.Suits own watcher)
    (makes : followed.change? errand.doing = some change) :
    (followed.callsOn own errand).map Call.content =
      (solo.amendBy followed.router.settings.replayOnListen (accepts watcher)
        (errand.concern? own)).tell (accepts watcher) := by
  cases number : (followed.take errand).number? own with
  | none =>
    rw [callsOn, number, Solo.tell, shadows.amended_away suits _ _ number]
    rfl
  | some number' =>
    have told : followed.told errand = followed.router.queuedBy errand.accepts change := by
      simp only [Followed.told, makes, Option.map_some, Option.getD_some]
    rcases (keeps.take fits).taken (number?_eq_some_iff.mp number) with
      ⟨offer, -, same⟩ | ⟨subscription, member, same⟩
    · cases same
    · cases same
      obtain ⟨before, opened, seen, rfl, -, stands⟩ :=
        shadows.refreshed keeps fits suits makes member number
      have sorted := (keeps.orderly.amend errand.accepts change).2.1
      have queued := Router.callsTo_differences errand.accepts sorted opened
      rw [callsOn, number, registration_refresh, told, Option.map_some, Option.getD_some,
        Router.queuedBy, queued, seen, content_calls, Solo.tell, stands]
      rfl

theorem published (shadows : Shadows own watcher ledger followed solo)
    (keeps : followed.Keeps ⟨(· = own), accepts⟩ ledger)
    (fits : ledger.Fits ⟨(· = own), accepts⟩ errand) (suits : errand.Suits own watcher)
    (makes : followed.change? errand.doing = some change) :
    Shadows own watcher (ledger.take errand) (followed.take errand)
      ((solo.amendBy followed.router.settings.replayOnListen (accepts watcher)
        (errand.concern? own)).settle (accepts watcher)) := by
  obtain ⟨offers, kinds⟩ :=
    shadows.amended_offers suits followed.router.settings.replayOnListen accepts
  refine ⟨shadows.listens, offers, kinds, fun subscription member mine => ?_, fun gone => ?_⟩
  · obtain ⟨before, -, -, rfl, listener, stands⟩ :=
      shadows.refreshed keeps fits suits makes member mine
    rw [listener_refresh, told_refresh_eq, Solo.settle, stands]
    exact ⟨listener, rfl⟩
  · rw [Solo.settle, shadows.amended_away suits _ _ gone]
    rfl

/-- What is not registered may be closed without a difference. -/
theorem close_absent {ticket : Ticket} (shadows : Shadows own watcher ledger followed solo)
    (keeps : followed.Keeps ⟨(· = own), accepts⟩ ledger)
    (absent : followed.registered ticket = none) (now : Acceptance I L) (replay : Bool) :
    solo.amendBy replay (accepts watcher)
      ((⟨now, .close ticket⟩ : Errand Ticket I L).concern? own) = solo := by
  by_cases same : ticket = own
  · subst same
    have away : solo.told = none := shadows.away (by rw [number?, absent])
    simp [Errand.concern?, Solo.amendBy, Solo.amend, ← away]
  · by_cases offer : ticket.isOffer = true
    · have kept : solo.offers.filter (·.1 ≠ ticket) = solo.offers := by
        refine List.filter_eq_self.mpr fun entry member => decide_eq_true ?_
        rintro rfl
        rw [shadows.offers] at member
        obtain ⟨entered, inside, rfl⟩ := List.mem_map.mp member
        exact keeps.registered_of_mem
          (List.mem_append_left _ (List.mem_map_of_mem inside)) absent
      simp only [Errand.concern?, if_neg same, if_pos offer, Solo.amendBy, Option.map_some,
        Option.getD_some, Solo.amend, kept]
    · simp [Errand.concern?, same, offer, Solo.amendBy]

/-- Whatever is done, what is told on account of the listener's registration is what the machine for
it tells. -/
theorem take (shadows : Shadows own watcher ledger followed solo)
    (keeps : followed.Keeps ⟨(· = own), accepts⟩ ledger)
    (fits : ledger.Fits ⟨(· = own), accepts⟩ errand) (suits : errand.Suits own watcher) :
    let amended := solo.amendBy followed.router.settings.replayOnListen (accepts watcher)
      (errand.concern? own)
    (followed.callsOn own errand).map Call.content = amended.tell (accepts watcher) ∧
      Shadows own watcher (ledger.take errand) (followed.take errand)
        (amended.settle (accepts watcher)) := by
  obtain ⟨silent, still⟩ := Solo.quiet (shadows.known keeps)
  cases makes : followed.change? errand.doing with
  | some change =>
    exact ⟨shadows.content_callsOn keeps fits suits makes, shadows.published keeps fits suits makes⟩
  | none =>
    intro amended
    have nothing : followed.callsOn own errand = [] := by
      have told : followed.told errand = [] := by simp [Followed.told, makes]
      rw [callsOn, told]
      cases (followed.take errand).number? own <;> rfl
    rw [nothing]
    obtain ⟨now, doing⟩ := errand
    cases doing with
    | close ticket =>
      have absent : followed.registered ticket = none := makes
      have gone : ticket ∉ ledger.names := fun member => keeps.registered_of_mem member absent
      have same : amended = solo := shadows.close_absent keeps absent now _
      rw [same, ledger.take_close_of_not_mem now gone, take_close_of_none now absent, silent, still]
      exact ⟨rfl, shadows⟩
    | updateSchema schema =>
      rw [show amended = solo from rfl, silent, still]
      exact ⟨rfl, shadows.listens, shadows.offers, shadows.kinds, shadows.told, shadows.away⟩
    | register | listen | miss => cases makes

/-- All that is told on account of a registration of a listener is what the machine for it tells. -/
theorem callsFor_eq_hears {errands : List (Errand Ticket I L)}
    (shadows : Shadows own watcher ledger followed solo)
    (keeps : followed.Keeps ⟨(· = own), accepts⟩ ledger)
    (fit : ledger.FitAll ⟨(· = own), accepts⟩ errands)
    (suit : ∀ errand ∈ errands, errand.Suits own watcher) :
    (followed.callsFor own errands).map Call.content =
      solo.hears followed.router.settings.replayOnListen (accepts watcher)
        (errands.filterMap (Errand.concern? own)) := by
  induction errands generalizing ledger followed solo with
  | nil => rfl
  | cons errand later ih =>
    obtain ⟨fits, fit⟩ := fit
    obtain ⟨suits, suit⟩ := List.forall_mem_cons.mp suit
    obtain ⟨now, then'⟩ := shadows.take keeps fits suits
    have rest := ih then' (keeps.take fits) fit suit
    rw [settings_take] at rest
    rw [callsFor, List.map_append, now, rest]
    cases concern : errand.concern? own with
    | none =>
      obtain ⟨silent, still⟩ := Solo.quiet (shadows.known keeps)
      rw [List.filterMap_cons_none concern]
      change solo.tell _ ++ (solo.settle _).hears _ _ _ = _
      rw [silent, still, List.nil_append]
    | some concern' =>
      rw [List.filterMap_cons_some concern]
      rfl

end Shadows
end Followed
end RpcRouting
