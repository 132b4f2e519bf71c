import Mathlib.Data.List.Flatten
import RpcRouting.Proofs.Router.Recalling
/-! The list that is kept for a registration, through all that happens to its router. It goes from
what the listener sees at one change to what it sees at the next; and it stays in the order in which
it has been told as long as the listener cares for the same implementations as ever and no two of
those share an identifier. -/
namespace RpcRouting
open Current (Identifier)

variable {I L : Type}

/-- What a listener saw at a change, if it was registered then. -/
def Act.views (registration : Nat) : Act I L → List (List Identifier)
  | .changed before accepts change =>
    let amended := before.amend accepts change
    (amended.subscriptions.filter (·.registration = registration)).map fun subscription =>
      amended.visible accepts subscription.listener
  | .adopted _ | .begun _ | .called _ => []

/-- What a listener saw at one change after the other. -/
def viewsOf (registration : Nat) (acts : List (Act I L)) : List (List Identifier) :=
  acts.flatMap (Act.views registration)

/-- The calls that have been queued on account of a registration. -/
def queuedFor (registration : Nat) (acts : List (Act I L)) : List (Call L) :=
  callsTo registration ((enqueued acts).flatMap Delivery.calls)

/-- At a change made while the listener is registered it cares for the same implementations as ever,
and no two of those that are offered serve one identifier. -/
def Act.Steady (cares : I → Bool) (registration : Nat) : Act I L → Prop
  | .changed before accepts change =>
    let amended := before.amend accepts change
    ∀ subscription ∈ amended.subscriptions, subscription.registration = registration →
      (∀ offer ∈ amended.offers,
        accepts subscription.listener offer.implementation = cares offer.implementation) ∧
      Unshared cares amended.offers
  | .adopted _ | .begun _ | .called _ => True

instance (cares : I → Bool) (registration : Nat) :
    DecidablePred (Act.Steady (I := I) (L := L) cares registration)
  | .changed .. => inferInstanceAs (Decidable (∀ subscription ∈ _, _ → (∀ offer ∈ _, _ = _) ∧ _))
  | .adopted _ | .begun _ | .called _ => inferInstanceAs (Decidable True)

/-- What is withdrawn is withdrawn in the order in which it was told. -/
def WithdrawsInOrder (first : List Identifier) (told : List (Bool × List Identifier)) : Prop :=
  ∀ before rpcs later, told = before ++ (false, rpcs) :: later →
    rpcs.Sublist (recalled first before)

theorem WithdrawsInOrder.left {first : List Identifier}
    {told more : List (Bool × List Identifier)} (ordered : WithdrawsInOrder first (told ++ more)) :
    WithdrawsInOrder first told := by
  rintro before rpcs later rfl
  exact ordered before rpcs (later ++ more) (by simp)

section
variable {router : Router I L} {accepts : Acceptance I L} {change : Change I L}
  {registration : Nat} {subscription : Subscription L} {acts : List (Act I L)} {cares : I → Bool}
  {first : List Identifier}

/-! What a change makes a listener see. -/

theorem viewsOf_append (registration : Nat) (acts more : List (Act I L)) :
    viewsOf registration (acts ++ more) = viewsOf registration acts ++ viewsOf registration more :=
  List.flatMap_append

theorem queuedFor_append (registration : Nat) (acts more : List (Act I L)) :
    queuedFor registration (acts ++ more) =
      queuedFor registration acts ++ queuedFor registration more := by
  simp [queuedFor]

theorem viewsOf_open
    (sorted : ((router.amend accepts change).subscriptions.map (·.registration)).Pairwise (· < ·))
    (member : subscription ∈ (router.amend accepts change).subscriptions) :
    viewsOf subscription.registration [.changed router accepts change] =
      [(router.amend accepts change).visible accepts subscription.listener] := by
  rw [viewsOf, List.flatMap_singleton, Act.views, Router.filter_key sorted member]
  rfl

theorem viewsOf_closed (closed : ∀ subscription ∈ (router.amend accepts change).subscriptions,
    subscription.registration ≠ registration) :
    viewsOf registration [.changed router accepts change] = [] := by
  rw [viewsOf, List.flatMap_singleton, Act.views, List.filter_eq_nil_iff.mpr]
  · rfl
  · intro subscription member
    simpa using closed subscription member

theorem nodup_of_mem_viewsOf {view : List Identifier} (member : view ∈ viewsOf registration acts) :
    view.Nodup := by
  obtain ⟨act, -, inside⟩ := List.mem_flatMap.mp member
  cases act with
  | changed before accepts change =>
    obtain ⟨subscription, -, rfl⟩ := List.mem_map.mp inside
    exact nodup_visible _ _ _
  | adopted | begun | called => cases inside

/-! What follows on what was seen before. -/

theorem Unshared.nodup {offers : List (Offer I)} (unshared : Unshared cares offers) :
    (served cares offers).Nodup := by
  rw [served, ← distinct_flatMap unshared]
  exact nodup_distinct _

/-- Of implementations that share nothing, what a new one serves comes last, and what is left of the
others stays in its order. -/
theorem follows_amend (before : Unshared cares router.offers)
    (after : Unshared cares (router.amend accepts change).offers) :
    Follows (served cares router.offers) (served cares (router.amend accepts change).offers) := by
  cases change with
  | register implementation cost rpcs =>
    let offer : Offer I := ⟨router.nextNumber, cost, implementation, rpcs⟩
    have parts : served cares (router.offers ++ [offer]) =
        served cares router.offers ++ served cares [offer] := by simp [served]
    show Follows _ (served cares (router.offers ++ [offer]))
    rw [parts]
    refine follows_append fun rpc late early => ?_
    obtain ⟨other, present, serves⟩ := List.mem_flatMap.mp early
    obtain ⟨new, came, brings⟩ := List.mem_flatMap.mp late
    unfold Unshared Router.amend at after
    rw [List.filter_append] at after
    exact (List.pairwise_append.mp after).2.2 other present new came rpc
      ((mem_distinct _ _).mp serves) ((mem_distinct _ _).mp brings)
  | unregister registration =>
    refine follows_of_sublist before.nodup ?_
    have fewer : (router.offers.filter (·.registration ≠ registration)).Sublist router.offers :=
      List.filter_sublist
    exact (fewer.filter _).flatMap _
  | listen | unlisten => exact follows_of_sublist before.nodup (.refl _)

end

/-- What is queued for a registration and what is kept for it, both by what its listener has seen at
one change after the other. -/
structure Retells (first : List Identifier) (registration : Nat) (acts : List (Act I L))
    (router : Router I L) : Prop where
  tells : (queuedFor registration acts).map Call.content =
    tidings first (viewsOf registration acts)
  stored : ∀ subscription ∈ router.subscriptions, subscription.registration = registration →
    subscription.told = (viewsOf registration acts).foldl retold first
  /-- What a steady listener counts as told is what it is served, in the order of registration. -/
  steady : ∀ cares, (∀ act ∈ acts, act.Steady cares registration) →
    InOrder first (viewsOf registration acts) ∧
    ∀ subscription ∈ router.subscriptions, subscription.registration = registration →
      subscription.told = served cares router.offers ∧ Unshared cares router.offers

/-- The same while a change is made of which nothing has been told yet. -/
structure Amending (first : List Identifier) (registration : Nat) (acts : List (Act I L))
    (router : Router I L) (accepts : Acceptance I L) (change : Change I L) : Prop where
  tells : (queuedFor registration acts).map Call.content =
    tidings first (viewsOf registration acts)
  stored : ∀ subscription ∈ (router.amend accepts change).subscriptions,
    subscription.registration = registration →
      subscription.told = (viewsOf registration acts).foldl retold first
  steady : ∀ cares,
    (∀ act ∈ acts ++ [.changed router accepts change], act.Steady cares registration) →
      InOrder first (viewsOf registration acts) ∧
      ∀ subscription ∈ (router.amend accepts change).subscriptions,
        subscription.registration = registration → Follows subscription.told
          ((router.amend accepts change).visible accepts subscription.listener)

namespace Amending
variable {acts : List (Act I L)} {first : List Identifier} {registration : Nat}
  {router : Router I L} {accepts : Acceptance I L} {change : Change I L}
  {subscription : Subscription L}

theorem mem_subscriptions (member : subscription ∈ (router.apply accepts change).onDuty.subscriptions) :
    ∃ before ∈ (router.amend accepts change).subscriptions,
      before.registration = subscription.registration ∧
      subscription.told =
        retold before.told ((router.amend accepts change).visible accepts before.listener) := by
  obtain ⟨before, amended, rfl⟩ := Router.exists_of_mem_apply member
  exact ⟨before, amended, (registration_refresh _ _).symm, told_refresh_eq _ _⟩

theorem queuedFor_changed (registration : Nat) :
    queuedFor registration [Act.changed router accepts change] =
      callsTo registration (((router.amend accepts change).differences accepts).flatMap
        Delivery.calls) := by
  simp [queuedFor, enqueued, Act.queued, Router.queuedBy]

/-- A listener that is registered is told what takes it to what it sees. -/
theorem listening
    (amending : Amending first subscription.registration acts router accepts change)
    (orderly : router.Orderly)
    (member : subscription ∈ (router.amend accepts change).subscriptions) :
    Retells first subscription.registration (acts ++ [.changed router accepts change])
      (router.apply accepts change).onDuty := by
  obtain ⟨-, sorted, -, -⟩ := orderly.amend accepts change
  have views := viewsOf_open sorted member
  have stored := amending.stored subscription member rfl
  have only (refreshed : Subscription L)
      (inside : refreshed ∈ (router.apply accepts change).onDuty.subscriptions)
      (same : refreshed.registration = subscription.registration) : refreshed.told =
        retold subscription.told
          ((router.amend accepts change).visible accepts subscription.listener) := by
    obtain ⟨before, amended, kept, told⟩ := mem_subscriptions inside
    have found : before ∈ (router.amend accepts change).subscriptions.filter
        (·.registration = subscription.registration) :=
      List.mem_filter.mpr ⟨amended, by simpa using kept.trans same⟩
    rw [Router.filter_key sorted member, List.mem_singleton] at found
    rw [told, found]
  constructor
  · rw [queuedFor_append, viewsOf_append, List.map_append, amending.tells, views, tidings_append,
      queuedFor_changed, Router.callsTo_differences accepts sorted member, content_calls, stored]
  · intro refreshed inside same
    rw [only refreshed inside same, viewsOf_append, views, List.foldl_append, ← stored]
    rfl
  · intro cares steadily
    obtain ⟨ordered, follows⟩ := amending.steady cares steadily
    have here := follows subscription member rfl
    obtain ⟨agrees, unshared⟩ :=
      steadily _ (List.mem_append_right _ (List.mem_singleton_self _)) subscription member rfl
    constructor
    · rw [viewsOf_append, views, inOrder_append, ← stored]
      exact ⟨ordered, .inr here⟩
    · intro refreshed inside same
      rw [only refreshed inside same, retold_of_follows here, Router.visible,
        visible_of_unshared agrees unshared, Router.offers_onDuty, Router.offers_apply]
      exact ⟨rfl, unshared⟩

/-- Of a listener that is not registered nothing is kept, and it is told nothing. -/
theorem absent (amending : Amending first registration acts router accepts change)
    (closed : ∀ subscription ∈ (router.amend accepts change).subscriptions,
      subscription.registration ≠ registration) :
    Retells first registration (acts ++ [.changed router accepts change])
      (router.apply accepts change).onDuty := by
  have gone : ∀ subscription ∈ (router.apply accepts change).onDuty.subscriptions,
      subscription.registration ≠ registration := by
    intro subscription inside
    obtain ⟨before, amended, kept, -⟩ := mem_subscriptions inside
    rw [← kept]
    exact closed before amended
  constructor
  · rw [queuedFor_append, viewsOf_append, viewsOf_closed closed, List.append_nil,
      queuedFor_changed, Router.callsTo_differences_of_closed accepts closed, List.append_nil]
    exact amending.tells
  · exact fun subscription member same => absurd same (gone subscription member)
  · intro cares steadily
    rw [viewsOf_append, viewsOf_closed closed, List.append_nil]
    exact ⟨(amending.steady cares steadily).1,
      fun subscription member same => absurd same (gone subscription member)⟩

theorem published (amending : Amending first registration acts router accepts change)
    (orderly : router.Orderly) :
    Retells first registration (acts ++ [.changed router accepts change])
      (router.apply accepts change).onDuty := by
  by_cases opened : ∃ subscription ∈ (router.amend accepts change).subscriptions,
      subscription.registration = registration
  · obtain ⟨subscription, member, rfl⟩ := opened
    exact amending.listening orderly member
  · apply amending.absent
    exact fun subscription member same => opened ⟨subscription, member, same⟩

end Amending

namespace Retells
variable {desk next last : Desk I L} {acts now : List (Act I L)} {first : List Identifier}
  {registration : Nat} {router : Router I L}

/-- The list starts with what a new listener counts as told. -/
theorem start (orderly : router.Orderly) (accepts : Acceptance I L) (listener : L) :
    Retells (router.toldAtFirst accepts listener) router.nextNumber
      [.changed router accepts (.listen listener)]
      (router.apply accepts (.listen listener)).onDuty := by
  have amending : Amending (router.toldAtFirst accepts listener) router.nextNumber [] router accepts
      (.listen listener) := by
    constructor
    · rfl
    · intro subscription member same
      rw [Router.eq_of_listened orderly member same]
      rfl
    · intro cares steadily
      constructor
      · trivial
      · intro subscription member same
        rw [Router.eq_of_listened orderly member same]
        show Follows (router.toldAtFirst accepts listener) (router.visible accepts listener)
        unfold Router.toldAtFirst
        split
        · rw [← List.nil_append (router.visible accepts listener)]
          exact follows_append fun rpc member => List.not_mem_nil
        · exact follows_of_sublist (nodup_visible _ _ _) (.refl _)
  exact amending.published orderly

theorem change (retells : Retells first registration acts router) (orderly : router.Orderly)
    (older : registration < router.nextNumber) (accepts : Acceptance I L) (change : Change I L) :
    Retells first registration (acts ++ [.changed router accepts change])
      (router.apply accepts change).onDuty := by
  have still (subscription : Subscription L)
      (member : subscription ∈ (router.amend accepts change).subscriptions)
      (same : subscription.registration = registration) : subscription ∈ router.subscriptions :=
    Router.mem_subscriptions_amend member (same ▸ older)
  have amending : Amending first registration acts router accepts change := by
    constructor
    · exact retells.tells
    · intro subscription member same
      exact retells.stored subscription (still subscription member same) same
    · intro cares steadily
      obtain ⟨earlier, last⟩ := List.forall_mem_append.mp steadily
      obtain ⟨ordered, seen⟩ := retells.steady cares earlier
      constructor
      · exact ordered
      · intro subscription member same
        obtain ⟨told, unshared⟩ := seen subscription (still subscription member same) same
        obtain ⟨agrees, after⟩ := last _ (List.mem_singleton_self _) subscription member same
        rw [told, Router.visible, visible_of_unshared agrees after]
        exact follows_amend unshared after
  exact amending.published orderly

/-- Nothing but a change of its registrations makes a router keep anything else. -/
theorem turn (retells : Retells first registration acts desk.router)
    (orderly : desk.router.Orderly) (older : registration < desk.router.nextNumber)
    (turn : Desk.Turn desk now next) : Retells first registration (acts ++ now) next.router := by
  have quiet (views : viewsOf registration now = []) (queued : queuedFor registration now = [])
      (steadily : ∀ cares, ∀ act ∈ now, act.Steady cares registration)
      (subscriptions : next.router.subscriptions = desk.router.subscriptions)
      (offers : next.router.offers = desk.router.offers) :
      Retells first registration (acts ++ now) next.router := by
    constructor
    · rw [queuedFor_append, viewsOf_append, queued, views, List.append_nil, List.append_nil]
      exact retells.tells
    · rw [viewsOf_append, views, List.append_nil, subscriptions]
      exact retells.stored
    · intro cares steadily
      rw [viewsOf_append, views, List.append_nil, subscriptions, offers]
      exact retells.steady cares (List.forall_mem_append.mp steadily).1
  rcases turn.router with ⟨accepts, change, rfl, same⟩ | ⟨schema, rfl, same⟩ |
    ⟨idle, pending, delivering, same⟩
  · rw [same]
    exact retells.change orderly older accepts change
  · rw [same] at quiet ⊢
    exact quiet rfl rfl (by simp [Act.Steady]) rfl rfl
  · rw [same] at quiet ⊢
    rcases idle with rfl | ⟨delivery, rfl⟩ | ⟨call, rfl⟩ <;>
      exact quiet rfl rfl (by simp [Act.Steady]) rfl rfl

theorem turns (retells : Retells first registration acts desk.router)
    (orderly : desk.router.Orderly) (older : registration < desk.router.nextNumber)
    (run : Run Desk.Turn desk now last) :
    Retells first registration (acts ++ now) last.router := by
  induction run with
  | still => simpa using retells
  | onward path turn ih =>
    rw [← List.append_assoc]
    exact ih.turn (Desk.turns_orderly path orderly)
      (Nat.lt_of_lt_of_le older (Desk.turns_nextNumber_le path)) turn

end Retells

/-- On account of a registration still to be made no other calls are made than those that are queued
for it. -/
theorem Desk.callsTo_sublist {desk last : Desk I L} {acts : List (Act I L)}
    (run : Run Desk.Turn desk acts last) (numbered : desk.Numbered) :
    (callsTo desk.router.nextNumber (called acts)).Sublist
      (queuedFor desk.router.nextNumber acts) := by
  have none : callsTo desk.router.nextNumber desk.waiting = [] :=
    callsTo_eq_nil fun call member => Nat.ne_of_lt (numbered call member)
  have calls : (callsTo desk.router.nextNumber (called acts ++ last.waiting)).Sublist
      (callsTo desk.router.nextNumber
        (desk.waiting ++ (enqueued acts).flatMap Delivery.calls)) :=
    (Desk.turns_waiting run).filter _
  rw [callsTo_append, callsTo_append, none, List.nil_append] at calls
  exact (List.sublist_append_left _ _).trans calls

theorem Router.nodup_toldAtFirst (accepts : Acceptance I L) (listener : L) (router : Router I L) :
    (router.toldAtFirst accepts listener).Nodup := by
  unfold Router.toldAtFirst
  split
  · exact List.nodup_nil
  · exact nodup_visible _ _ _

/-- How what is kept for a registration goes with what has been queued for it, from the list it
starts with. -/
structure Remembers (first : List Identifier) (registration : Nat) (acts : List (Act I L))
    (router : Router I L) : Prop where
  tells : (queuedFor registration acts).map Call.content =
    tidings first (viewsOf registration acts)
  /-- The list is what was seen when there was news last, in the order of registration. -/
  stored : ∀ subscription ∈ router.subscriptions, subscription.registration = registration →
    subscription.told = (viewsOf registration acts).foldl retold first
  /-- In whatever order, it has what has been told and not been withdrawn, each once. -/
  same : ∀ subscription ∈ router.subscriptions, subscription.registration = registration →
    subscription.told.Nodup ∧
      subscription.told.Perm (recalled first ((queuedFor registration acts).map Call.content))
  /-- The order is that of telling at all times if and only if each view that there was news of
  followed on what had been told. -/
  always : InOrder first (viewsOf registration acts) ↔
    ∀ earlier, earlier <+: viewsOf registration acts →
      earlier.foldl retold first = recalled first (tidings first earlier)
  ordered : InOrder first (viewsOf registration acts) →
    (∀ subscription ∈ router.subscriptions, subscription.registration = registration →
      subscription.told = recalled first ((queuedFor registration acts).map Call.content)) ∧
    WithdrawsInOrder first ((queuedFor registration acts).map Call.content)
  /-- So it is for a listener that cares for the same implementations as ever, no two of which
  serve one identifier while they are open. -/
  steady : (∃ cares, ∀ act ∈ acts, act.Steady cares registration) →
    InOrder first (viewsOf registration acts)

theorem Retells.remembers {first : List Identifier} {registration : Nat} {acts : List (Act I L)}
    {router : Router I L} (retells : Retells first registration acts router)
    (unique : first.Nodup) : Remembers first registration acts router := by
  have seen : ∀ view ∈ viewsOf registration acts, view.Nodup :=
    fun view member => nodup_of_mem_viewsOf member
  have kept := perm_recalled unique seen
  refine ⟨retells.tells, retells.stored, ?_, inOrder_iff, ?_, ?_⟩
  · intro subscription member same
    rw [retells.stored subscription member same, retells.tells]
    exact kept
  · intro ordered
    rw [retells.tells]
    constructor
    · intro subscription member same
      rw [retells.stored subscription member same]
      exact inOrder_iff.mp ordered _ (List.prefix_refl _)
    · intro before rpcs later withdrawn
      exact sublist_of_withdrawn ordered withdrawn
  · rintro ⟨cares, steadily⟩
    exact (retells.steady cares steadily).1

namespace Desk
variable {desk last : Desk I L} {acts : List (Act I L)} {accepts : Acceptance I L} {listener : L}

/-- From its registration on a listener is remembered, whatever happens. -/
theorem remembers_of_turns (orderly : desk.router.Orderly) (numbered : desk.Numbered)
    (run : Run Turn ⟨(desk.router.apply accepts (.listen listener)).onDuty, desk.inHand⟩ acts last) :
    let history := .changed desk.router accepts (.listen listener) :: acts
    Remembers (desk.router.toldAtFirst accepts listener) desk.router.nextNumber history last.router ∧
      (callsTo desk.router.nextNumber (called acts)).Sublist
        (queuedFor desk.router.nextNumber history) := by
  have listened : Turn desk [.changed desk.router accepts (.listen listener)]
      ⟨(desk.router.apply accepts (.listen listener)).onDuty, desk.inHand⟩ :=
    .step (.change accepts (.listen listener))
  have older : desk.router.nextNumber <
      (desk.router.apply accepts (.listen listener)).onDuty.nextNumber := by
    rw [Router.nextNumber_onDuty, Router.nextNumber_apply]
    exact Nat.lt_succ_self _
  have retells := (Retells.start orderly accepts listener).turns (listened.orderly orderly) older run
  constructor
  · exact retells.remembers (Router.nodup_toldAtFirst _ _ _)
  · exact callsTo_sublist ((Run.single listened).append run) numbered

/-- While nothing is lost, what is queued for a listener is called or still waits, so what it hears is
in the order in which it is queued. -/
theorem withdraws_of_run {first : List Identifier} (numbered : desk.Numbered)
    (remembers : Remembers first desk.router.nextNumber
      (.changed desk.router accepts (.listen listener) :: acts) last.router)
    (run : Run Step ⟨(desk.router.apply accepts (.listen listener)).onDuty, desk.inHand⟩ acts last) :
    let history := .changed desk.router accepts (.listen listener) :: acts
    callsTo desk.router.nextNumber (called acts) ++ callsTo desk.router.nextNumber last.waiting =
        queuedFor desk.router.nextNumber history ∧
      (InOrder first (viewsOf desk.router.nextNumber history) → WithdrawsInOrder first
        ((callsTo desk.router.nextNumber (called acts)).map Call.content)) := by
  intro history
  have listened : Step desk [.changed desk.router accepts (.listen listener)]
      ⟨(desk.router.apply accepts (.listen listener)).onDuty, desk.inHand⟩ :=
    .change accepts (.listen listener)
  have calls : callsTo desk.router.nextNumber (called acts) ++
        callsTo desk.router.nextNumber last.waiting =
      queuedFor desk.router.nextNumber history :=
    callsTo_of_run ((Run.single listened).append run) numbered
  constructor
  · exact calls
  · intro ordered
    have withdraws := (remembers.ordered ordered).2
    rw [← calls, List.map_append] at withdraws
    exact withdraws.left

end Desk
end RpcRouting
