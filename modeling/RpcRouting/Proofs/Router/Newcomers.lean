import RpcRouting.Proofs.Router.Shadowing
/-! A listener that joins. It is given a ticket, and with it the next number; nothing has that number
but what goes by that ticket. So what a router calls on account of the number is what the machine for
the listener alone tells. -/
namespace RpcRouting

variable {N I L : Type}

namespace Followed

variable [DecidableEq N] {custom : Custom N I L} {ledger : Ledger N I L}
  {followed : Followed N I L} {errand : Errand N I L} {errands : List (Errand N I L)}
  {name : N} {change : Change I L}

theorem nextNumber_le_take :
    followed.router.nextNumber ≤ (followed.take errand).router.nextNumber := by
  rw [take]
  split
  · exact (Router.nextNumber_le_amend ..).trans_eq (Router.nextNumber_apply ..).symm
  · exact Nat.le_refl _
  · exact Nat.le_refl _

/-- What is registered has been so before, or is registered now by the next number. -/
theorem registered_take (registered : (followed.take errand).registered name = some change) :
    followed.registered name = some change ∨ errand.doing.opens? = some name ∧
      (change = .unregister followed.router.nextNumber ∨
        change = .unlisten followed.router.nextNumber) := by
  obtain ⟨now, doing⟩ := errand
  have here : followed.registeredAfter doing name = some change := registered
  cases doing with
  | register opened implementation cost rpcs =>
    rw [registeredAfter, Function.update_apply] at here
    split at here
    · exact .inr ⟨congrArg some (Eq.symm ‹_›), .inl (Option.some.inj here).symm⟩
    · exact .inl here
  | listen opened listener =>
    rw [registeredAfter, Function.update_apply] at here
    split at here
    · exact .inr ⟨congrArg some (Eq.symm ‹_›), .inr (Option.some.inj here).symm⟩
    · exact .inl here
  | close closed =>
    rw [registeredAfter, Function.update_apply] at here
    split at here
    · cases here
    · exact .inl here
  | miss | updateSchema => exact .inl here

/-- What is told is told on account of registrations that have been made. -/
theorem told_lt (orderly : followed.router.Orderly) (errand : Errand N I L) :
    ∀ delivery ∈ followed.told errand,
      delivery.registration < (followed.take errand).router.nextNumber := by
  cases makes : followed.change? errand.doing with
  | none => simp [told, makes]
  | some change =>
    simp only [told, makes, Option.map_some, Option.getD_some, take]
    exact (Router.nextNumber_apply ..).symm ▸ orderly.queuedBy_lt errand.accepts change

theorem toldOf_lt (keeps : followed.Keeps custom ledger) (fit : ledger.FitAll custom errands) :
    ∀ delivery ∈ followed.toldOf errands,
      delivery.registration < (followed.after errands).router.nextNumber := by
  induction errands using List.reverseRecOn with
  | nil => exact List.forall_mem_nil _
  | append_singleton earlier errand ih =>
    obtain ⟨fit, -⟩ := Ledger.fitAll_append.mp fit
    have before := ih fit
    have now := told_lt (keeps.after fit).orderly errand
    rw [toldOf_append, after_append]
    refine List.forall_mem_append.mpr ⟨fun delivery member => ?_, fun delivery member => ?_⟩
    · exact Nat.lt_of_lt_of_le (before delivery member) nextNumber_le_take
    · exact now delivery (by simpa [toldOf] using member)

end Followed

/-! The calls on account of the registration that goes by a ticket. -/

namespace Followed

variable {custom : Custom Ticket I L} {ledger : Ledger Ticket I L} {followed : Followed Ticket I L}
  {errand : Errand Ticket I L} {errands : List (Errand Ticket I L)} {own : Ticket} {number : Nat}

/-- A ticket is given with one number, and that number with no other ticket. -/
structure Owns (own : Ticket) (number : Nat) (followed : Followed Ticket I L) : Prop where
  older : number < followed.router.nextNumber
  only : ∀ other, followed.registered other = some (.unlisten number) → other = own
  same : ∀ known, followed.registered own = some (.unlisten known) → known = number

theorem Owns.take (owns : followed.Owns own number) (once : errand.doing.opens? ≠ some own) :
    (followed.take errand).Owns own number where
  older := Nat.lt_of_lt_of_le owns.older nextNumber_le_take
  only other registered := by
    rcases registered_take registered with old | ⟨-, new | new⟩
    · exact owns.only other old
    · cases new
    · cases new
      exact absurd owns.older (Nat.lt_irrefl _)
  same known registered := by
    rcases registered_take registered with old | ⟨opens, -⟩
    · exact owns.same known old
    · exact absurd opens once

/-- Whoever is registered by the next number gets a ticket of its own. -/
theorem Owns.listen (keeps : followed.Keeps custom ledger) (now : Acceptance I L) (own : Ticket)
    (watcher : L) :
    (followed.take ⟨now, .listen own watcher⟩).Owns own followed.router.nextNumber where
  older := by
    simp only [Followed.take, change?, Router.settle, Router.nextNumber_apply, Router.amend]
    exact Nat.lt_succ_self _
  only other registered := by
    rcases registered_take registered with old | ⟨opens, -⟩
    · exact absurd (keeps.number_lt old (.inr rfl)) (Nat.lt_irrefl _)
    · exact (Option.some.inj opens).symm
  same known registered := by
    cases (Function.update_self ..).symm.trans registered
    rfl

/-- What is told on account of a ticket is told on account of its number. -/
theorem Owns.callsOn_eq (owns : (followed.take errand).Owns own number)
    (keeps : followed.Keeps custom ledger) (fits : ledger.Fits custom errand) :
    followed.callsOn own errand = callsTo number ((followed.told errand).flatMap Delivery.calls) := by
  cases known : (followed.take errand).number? own with
  | some known' =>
    obtain rfl := owns.same known' (number?_eq_some_iff.mp known)
    rw [callsOn, known]
    rfl
  | none =>
    rw [callsOn, known]
    cases makes : followed.change? errand.doing with
    | none => simp [told, makes, callsTo]
    | some change =>
      simp only [told, makes, Option.map_some, Option.getD_some, Option.map_none, Option.getD_none]
      refine (Router.callsTo_differences_of_closed errand.accepts fun before opened mine => ?_).symm
      -- A listener with the number would go by the ticket afterwards.
      have member : before.refresh ((followed.router.amend errand.accepts change).visible
          errand.accepts before.listener) ∈ (followed.take errand).router.subscriptions := by
        simp only [Followed.take, makes, Router.settle, Router.subscriptions_apply]
        exact List.mem_map_of_mem opened
      obtain ⟨entry, -, registered, -⟩ := exists_entry (keeps.take fits).listeners member
      rw [registration_refresh, mine] at registered
      rw [owns.only _ registered] at registered
      cases known.symm.trans (number?_eq_some_iff.mpr registered)

theorem callsFor_append (first second : List (Errand Ticket I L)) :
    followed.callsFor own (first ++ second) =
      followed.callsFor own first ++ (followed.after first).callsFor own second := by
  induction first generalizing followed with
  | nil => rfl
  | cons errand later ih => exact (congrArg _ ih).trans (List.append_assoc ..).symm

theorem Owns.callsFor_eq (owns : followed.Owns own number) (keeps : followed.Keeps custom ledger)
    (fit : ledger.FitAll custom errands)
    (once : ∀ errand ∈ errands, errand.doing.opens? ≠ some own) :
    followed.callsFor own errands =
      callsTo number ((followed.toldOf errands).flatMap Delivery.calls) := by
  induction errands generalizing followed ledger with
  | nil => rfl
  | cons errand later ih =>
    obtain ⟨first, once⟩ := List.forall_mem_cons.mp once
    have owns' := owns.take first
    rw [callsFor, owns'.callsOn_eq keeps fit.1, ih owns' (keeps.take fit.1) fit.2 once, toldOf,
      List.flatMap_append, callsTo_append]

/-- Nothing is told on account of a ticket that is not given. -/
theorem callsFor_eq_nil (free : followed.registered own = none)
    (never : ∀ errand ∈ errands, errand.doing.opens? ≠ some own) :
    followed.callsFor own errands = [] := by
  induction errands generalizing followed with
  | nil => rfl
  | cons errand later ih =>
    obtain ⟨first, never⟩ := List.forall_mem_cons.mp never
    have still : (followed.take errand).registered own = none := by
      by_contra opened
      obtain ⟨change, registered⟩ := Option.ne_none_iff_exists'.mp opened
      rcases registered_take registered with old | ⟨opens, -⟩
      · cases free.symm.trans old
      · exact first opens
    rw [callsFor, ih still never, callsOn, number?, still]
    rfl

/-- What is told on account of a ticket that is given once is told on account of the number that
comes with it. -/
theorem callsFor_eq_callsTo {earlier later : List (Errand Ticket I L)} {now : Acceptance I L}
    {watcher : L} (keeps : followed.Keeps custom ledger) (free : followed.registered own = none)
    (fit : ledger.FitAll custom (earlier ++ ⟨now, .listen own watcher⟩ :: later))
    (once : ∀ errand ∈ earlier ++ later, errand.doing.opens? ≠ some own) :
    followed.callsFor own (earlier ++ ⟨now, .listen own watcher⟩ :: later) =
      callsTo (followed.after earlier).router.nextNumber
        ((followed.toldOf (earlier ++ ⟨now, .listen own watcher⟩ :: later)).flatMap
          Delivery.calls) := by
  obtain ⟨before, after⟩ := List.forall_mem_append.mp once
  obtain ⟨fit, fits, fit'⟩ := Ledger.fitAll_append.mp fit
  have keeps' := keeps.after fit
  have owns := Owns.listen keeps' now own watcher
  have nothing : callsTo (followed.after earlier).router.nextNumber
      ((followed.toldOf earlier).flatMap Delivery.calls) = [] := by
    refine callsTo_eq_nil fun call member => ?_
    obtain ⟨delivery, told, inside⟩ := List.mem_flatMap.mp member
    rw [(Desk.registration_of_mem_calls inside).1]
    exact Nat.ne_of_lt (toldOf_lt keeps fit delivery told)
  rw [callsFor_append, callsFor_eq_nil free before, callsFor, owns.callsOn_eq keeps' fits,
    owns.callsFor_eq (keeps'.take fits) fit' after, toldOf_append, List.flatMap_append,
    callsTo_append, nothing, toldOf, List.flatMap_append, callsTo_append]

/-- What is told on account of a registration of a listener is what the machine for it alone tells. -/
theorem contents_eq_hears {settings : RouterSettings} {accepts now : Acceptance I L} {watcher : L}
    {earlier later : List (Errand Ticket I L)} (listens : own.isOffer = false)
    (joins : errands = earlier ++ ⟨now, .listen own watcher⟩ :: later)
    (fit : (Ledger.ofSettings settings).FitAll ⟨(· = own), accepts⟩ errands)
    (once : ∀ errand ∈ earlier ++ later, errand.doing.opens? ≠ some own)
    (suit : ∀ errand ∈ errands, errand.Suits own watcher) :
    (callsTo ((ofSettings settings).after earlier).router.nextNumber
        (((ofSettings settings).toldOf errands).flatMap Delivery.calls)).map Call.content =
      Solo.empty.hears settings.replayOnListen (accepts watcher)
        (errands.filterMap (Errand.concern? own)) := by
  subst joins
  have keeps := Keeps.ofSettings ⟨(· = own), accepts⟩ settings
  rw [← callsFor_eq_callsTo keeps rfl fit once]
  exact (shadows_ofSettings listens watcher settings).callsFor_eq_hears keeps fit suit

end Followed

/-! Listeners that join while a router is at work. -/

/-- The listener that is registered, with the number of its registration. -/
def Act.newcomer? : Act I L → Option (Nat × L)
  | .changed before _ (.listen listener) => some (before.nextNumber, listener)
  | _ => none

def newcomers (acts : List (Act I L)) : List (Nat × L) := acts.filterMap Act.newcomer?

theorem exists_of_newcomer {acts : List (Act I L)} {number : Nat} {watcher : L}
    (joins : (number, watcher) ∈ newcomers acts) :
    ∃ found now, found.nextNumber = number ∧ .changed found now (.listen watcher) ∈ acts := by
  obtain ⟨act, member, joined⟩ := List.mem_filterMap.mp joins
  cases act with
  | changed found now change =>
    cases change with
    | listen listener =>
      cases joined
      exact ⟨found, now, rfl, member⟩
    | register | unregister | unlisten => cases joined
  | adopted | begun | called => cases joined

/-- Only a new registration is given a ticket, and the ticket has its number. -/
theorem Change.number_of_opens {before : Router I L} {change : Change I L} {number : Nat}
    (accepts : Acceptance I L)
    (opens : (change.doing before).opens? = some (.subscription number)) :
    number = before.nextNumber ∧ number < (before.amend accepts change).nextNumber := by
  cases change with
  | listen listener =>
    cases opens
    exact ⟨rfl, Nat.lt_succ_self _⟩
  | register => cases opens
  | unregister | unlisten =>
    simp only [Change.doing, Ticket.closing] at opens
    split at opens <;> cases opens

/-- Tickets are used for what they are made for. -/
theorem suits_of_mem {accepts : Acceptance I L} {acts : List (Act I L)}
    {errand : Errand Ticket I L} {own : Ticket} {watcher : L}
    (member : errand ∈ errandsOf accepts acts)
    (mine : ∀ listener, errand.doing = .listen own listener → listener = watcher) :
    errand.Suits own watcher := by
  obtain ⟨act, -, does⟩ := List.mem_filterMap.mp member
  cases act with
  | changed before now change =>
    cases does
    cases change with
    | register implementation cost rpcs => rfl
    | listen listener =>
      exact ⟨rfl, fun same => mine listener (congrArg (Doing.listen · listener) same)⟩
    | unregister | unlisten =>
      have closes (ticket : Ticket) : Errand.Suits own watcher ⟨now, ticket.closing before⟩ := by
        unfold Ticket.closing
        split <;> trivial
      exact closes _
  | adopted schema =>
    cases does
    trivial
  | begun | called => cases does

namespace Desk

variable {desk last : Desk I L} {acts : List (Act I L)} {number : Nat}

/-- Tickets are given by the numbers that come up meanwhile. -/
theorem number_of_opened (run : Run Turn desk acts last) {accepts : Acceptance I L}
    {errand : Errand Ticket I L} (member : errand ∈ errandsOf accepts acts)
    (opens : errand.doing.opens? = some (.subscription number)) :
    desk.router.nextNumber ≤ number ∧ number < last.router.nextNumber := by
  induction run with
  | still => cases member
  | onward path turn ih =>
    rw [errandsOf, List.filterMap_append] at member
    rcases List.mem_append.mp member with early | late
    · obtain ⟨above, below⟩ := ih early
      exact ⟨above, Nat.lt_of_lt_of_le below turn.nextNumber_le⟩
    · rcases turn.router with ⟨now, change, rfl, same⟩ | ⟨schema, rfl, -⟩ | ⟨idle, -⟩
      · cases List.mem_singleton.mp late
        obtain ⟨rfl, below⟩ := Change.number_of_opens now opens
        rw [same, Router.nextNumber_onDuty, Router.nextNumber_apply]
        exact ⟨turns_nextNumber_le path, below⟩
      · cases List.mem_singleton.mp late
        cases opens
      · rcases idle with rfl | ⟨delivery, rfl⟩ | ⟨call, rfl⟩ <;> cases late

/-- A listener that joins gets its ticket then, and nobody gets it again. -/
theorem errands_of_newcomer {settings : RouterSettings} {custom : Custom Ticket I L} {watcher : L}
    (run : Run Step ⟨.ofSettings settings, []⟩ acts last) (constant : Constant custom acts)
    (joins : (number, watcher) ∈ newcomers acts) :
    ∃ earlier now later, errandsOf custom.accepts acts =
        earlier ++ ⟨now, .listen (.subscription number) watcher⟩ :: later ∧
      ((Followed.ofSettings settings).after earlier).router.nextNumber = number ∧
      ∀ errand ∈ earlier ++ later, errand.doing.opens? ≠ some (.subscription number) := by
  obtain ⟨found, now, rfl, made⟩ := exists_of_newcomer joins
  obtain ⟨front, back, inHand, rfl, first, rest⟩ := split_of_changed run made
  obtain ⟨-, ticketed, -⟩ := turns_repeat (first.mono .step)
    fun act member => constant act (List.mem_append_left _ member)
  have next : ((found.apply now (.listen watcher)).onDuty).nextNumber = found.nextNumber + 1 := by
    rw [Router.nextNumber_onDuty, Router.nextNumber_apply, Router.amend]
  have found' := congrArg Router.nextNumber ticketed.router
  refine ⟨errandsOf custom.accepts front, now, errandsOf custom.accepts back,
    List.filterMap_append, found', fun errand member opens => ?_⟩
  rcases List.mem_append.mp member with early | late
  · exact Nat.lt_irrefl _ (number_of_opened (first.mono .step) early opens).2
  · have above := (number_of_opened (rest.mono .step) late opens).1
    rw [next] at above
    exact Nat.not_succ_le_self _ above

end Desk
end RpcRouting
