import RpcRouting.Proofs.Router.Desk
/-! What a registered listener is told. From its registration on, the calls queued for it are news to
it one after the other, and once they have been made it knows what it could see at the latest
change. -/
namespace RpcRouting
open Current (Identifier)

variable {I L : Type}

/-- The calls on account of one registration. -/
def callsTo (registration : Nat) (calls : List (Call L)) : List (Call L) :=
  calls.filter (·.registration = registration)

@[simp]
theorem callsTo_append (registration : Nat) (first second : List (Call L)) :
    callsTo registration (first ++ second) =
      callsTo registration first ++ callsTo registration second :=
  List.filter_append ..

theorem callsTo_eq_nil {registration : Nat} {calls : List (Call L)}
    (other : ∀ call ∈ calls, call.registration ≠ registration) :
    callsTo registration calls = [] :=
  List.filter_eq_nil_iff.mpr fun call member => by simpa using other call member

theorem mem_callsTo {registration : Nat} {calls : List (Call L)} {call : Call L} :
    call ∈ callsTo registration calls ↔ call ∈ calls ∧ call.registration = registration := by
  simp [callsTo]

theorem Delivery.calls_of_isEmpty {delivery : Delivery L} (empty : delivery.isEmpty = true) :
    delivery.calls = [] := by
  simp only [Delivery.isEmpty, Bool.and_eq_true, List.isEmpty_iff] at empty
  simp [Delivery.calls, empty.1, empty.2]

namespace Router
variable {router : Router I L}

/-- The calls that publishing queues: for every listener what takes it to what it sees. -/
theorem calls_differences (accepts : Acceptance I L) (router : Router I L) :
    (router.differences accepts).flatMap Delivery.calls =
      router.subscriptions.flatMap fun subscription =>
        (subscription.difference (router.visible accepts subscription.listener)).calls := by
  unfold differences
  induction router.subscriptions with
  | nil => rfl
  | cons subscription rest ih =>
    rw [List.map_cons, List.filter_cons, List.flatMap_cons, ← ih]
    cases empty : (subscription.difference (router.visible accepts subscription.listener)).isEmpty with
    | false => simp
    | true => simp [Delivery.calls_of_isEmpty empty]

theorem filter_key {α : Type} {key : α → Nat} {items : List α} {item : α}
    (sorted : (items.map key).Pairwise (· < ·)) (member : item ∈ items) :
    items.filter (key · = key item) = [item] := by
  induction items with
  | nil => cases member
  | cons head tail ih =>
    obtain ⟨above, rest⟩ := List.pairwise_cons.mp sorted
    rcases List.mem_cons.mp member with rfl | inside
    · rw [List.filter_cons_of_pos (by simp), List.filter_eq_nil_iff.mpr]
      intro other later
      have greater := above (key other) (List.mem_map_of_mem later)
      simp only [decide_eq_true_eq]
      omega
    · have greater := above (key item) (List.mem_map_of_mem inside)
      rw [List.filter_cons_of_neg (by simp only [decide_eq_true_eq]; omega), ih rest inside]

theorem callsTo_differences (accepts : Acceptance I L) {subscription : Subscription L}
    (sorted : (router.subscriptions.map (·.registration)).Pairwise (· < ·))
    (member : subscription ∈ router.subscriptions) :
    callsTo subscription.registration ((router.differences accepts).flatMap Delivery.calls) =
      (subscription.difference (router.visible accepts subscription.listener)).calls := by
  have own (other : Subscription L) :
      callsTo subscription.registration
          (other.difference (router.visible accepts other.listener)).calls =
        if other.registration = subscription.registration then
          (other.difference (router.visible accepts other.listener)).calls else [] := by
    split
    · refine List.filter_eq_self.mpr fun call inside => ?_
      simpa [(Desk.registration_of_mem_calls inside).1, Subscription.difference]
    · refine callsTo_eq_nil fun call inside => ?_
      simpa [(Desk.registration_of_mem_calls inside).1, Subscription.difference]
  have select (subscriptions : List (Subscription L)) :
      callsTo subscription.registration (subscriptions.flatMap fun other =>
          (other.difference (router.visible accepts other.listener)).calls) =
        (subscriptions.filter (·.registration = subscription.registration)).flatMap fun other =>
          (other.difference (router.visible accepts other.listener)).calls := by
    induction subscriptions with
    | nil => rfl
    | cons head tail ih =>
      rw [List.flatMap_cons, callsTo_append, ih, own, List.filter_cons]
      by_cases same : head.registration = subscription.registration <;> simp [same]
  rw [calls_differences, select, filter_key sorted member]
  simp

theorem registration_of_mem_differences {accepts : Acceptance I L} {call : Call L}
    (member : call ∈ (router.differences accepts).flatMap Delivery.calls) :
    ∃ subscription ∈ router.subscriptions, subscription.registration = call.registration ∧
      subscription.listener = call.listener := by
  obtain ⟨delivery, queued, inside⟩ := List.mem_flatMap.mp member
  obtain ⟨subscription, opened, rfl, -⟩ := mem_differences.mp queued
  obtain ⟨registration, listener⟩ := Desk.registration_of_mem_calls inside
  exact ⟨subscription, opened, registration.symm, listener.symm⟩

/-- Nothing is queued for a registration that is not open. -/
theorem callsTo_differences_of_closed (accepts : Acceptance I L) {registration : Nat}
    (closed : ∀ subscription ∈ router.subscriptions, subscription.registration ≠ registration) :
    callsTo registration ((router.differences accepts).flatMap Delivery.calls) = [] := by
  refine callsTo_eq_nil fun call member => ?_
  obtain ⟨subscription, opened, same, -⟩ := registration_of_mem_differences member
  exact same ▸ closed subscription opened

/-- What goes by the next number after a registration is the new listener. -/
theorem eq_of_listened (orderly : router.Orderly) {accepts : Acceptance I L} {listener : L}
    {subscription : Subscription L}
    (member : subscription ∈ (router.amend accepts (.listen listener)).subscriptions)
    (same : subscription.registration = router.nextNumber) :
    subscription = ⟨router.nextNumber, listener, router.toldAtFirst accepts listener⟩ := by
  rcases List.mem_append.mp member with old | new
  · exact absurd same (Nat.ne_of_lt (orderly.subscriptions_lt subscription old))
  · exact List.mem_singleton.mp new

/-- A change opens no registration but the next one. -/
theorem mem_subscriptions_amend {accepts : Acceptance I L} {change : Change I L}
    {subscription : Subscription L}
    (member : subscription ∈ (router.amend accepts change).subscriptions)
    (older : subscription.registration < router.nextNumber) :
    subscription ∈ router.subscriptions := by
  cases change with
  | register | unregister => exact member
  | listen listener =>
    rcases List.mem_append.mp member with old | new
    · exact old
    · rw [List.mem_singleton.mp new] at older
      exact absurd older (Nat.lt_irrefl _)
  | unlisten registration => exact List.mem_of_mem_filter member

end Router

/-- From a set that a listener counts as available, the calls queued for its registration are news,
and what it counts as told, while the registration is open, is what it knows after them. -/
structure Tells (initial : Finset Identifier) (registration : Nat) (listener : L)
    (acts : List (Act I L)) (desk : Desk I L) : Prop where
  older : registration < desk.router.nextNumber
  own : ∀ call ∈ callsTo registration ((enqueued acts).flatMap Delivery.calls),
    call.listener = listener
  news : News initial (callsTo registration ((enqueued acts).flatMap Delivery.calls))
  told : ∀ subscription ∈ desk.router.subscriptions, subscription.registration = registration →
    subscription.listener = listener ∧ subscription.told.toFinset =
      heard initial (callsTo registration ((enqueued acts).flatMap Delivery.calls))

namespace Tells
variable {desk next last : Desk I L} {acts now : List (Act I L)} {initial : Finset Identifier}
  {registration : Nat} {listener : L}

/-- What a listener is told first takes it from what counted as told to what it sees. -/
theorem start (orderly : desk.router.Orderly) (accepts : Acceptance I L) (listener : L) :
    Tells (desk.router.toldAtFirst accepts listener).toFinset desk.router.nextNumber listener
      [.changed desk.router accepts (.listen listener)]
      ⟨(desk.router.apply accepts (.listen listener)).onDuty, desk.inHand⟩ := by
  obtain ⟨-, sorted, -, valid⟩ := orderly.amend accepts (.listen listener)
  have opened : (⟨desk.router.nextNumber, listener, desk.router.toldAtFirst accepts listener⟩ :
      Subscription L) ∈ (desk.router.amend accepts (.listen listener)).subscriptions :=
    List.mem_append_right _ (List.mem_singleton.mpr rfl)
  have calls := Router.callsTo_differences accepts sorted opened
  have queued : (enqueued [Act.changed desk.router accepts (.listen listener)]).flatMap
      Delivery.calls = ((desk.router.amend accepts (.listen listener)).differences
        accepts).flatMap Delivery.calls := by
    simp [enqueued, Act.queued, Router.queuedBy]
  refine ⟨?_, ?_, ?_, ?_⟩
  · simp [Router.nextNumber_apply, Router.amend]
  · rw [queued, calls]
    exact fun call member => (Desk.registration_of_mem_calls member).2
  · rw [queued, calls]
    exact news_difference (valid _ opened).2 (nodup_visible _ _ _)
  · intro subscription member same
    obtain ⟨before, amended, rfl⟩ := Router.exists_of_mem_apply member
    rw [registration_refresh] at same
    have unique := Router.eq_of_listened orderly amended same
    rw [told_refresh, queued, calls, listener_refresh, unique]
    exact ⟨rfl, (heard_difference (⟨desk.router.nextNumber, listener,
      desk.router.toldAtFirst accepts listener⟩ : Subscription L) _).symm⟩

theorem change (tells : Tells initial registration listener acts desk)
    (orderly : desk.router.Orderly) (accepts : Acceptance I L) (change : Change I L) :
    Tells initial registration listener (acts ++ [.changed desk.router accepts change])
      ⟨(desk.router.apply accepts change).onDuty, desk.inHand⟩ := by
  obtain ⟨-, sorted, -, valid⟩ := orderly.amend accepts change
  have queued : callsTo registration ((enqueued (acts ++
      [Act.changed desk.router accepts change])).flatMap Delivery.calls) =
        callsTo registration ((enqueued acts).flatMap Delivery.calls) ++
          callsTo registration (((desk.router.amend accepts change).differences
            accepts).flatMap Delivery.calls) := by
    simp [enqueued, Act.queued, Router.queuedBy]
  have still (subscription : Subscription L)
      (member : subscription ∈ (desk.router.amend accepts change).subscriptions)
      (same : subscription.registration = registration) :=
    tells.told subscription
      (Router.mem_subscriptions_amend member (same ▸ tells.older)) same
  refine ⟨?_, ?_, ?_, ?_⟩
  · rw [Router.nextNumber_onDuty, Router.nextNumber_apply]
    exact Nat.lt_of_lt_of_le tells.older (Router.nextNumber_le_amend _ _ _)
  · intro call member
    rw [queued] at member
    rcases List.mem_append.mp member with old | new
    · exact tells.own call old
    · obtain ⟨inside, same⟩ := mem_callsTo.mp new
      obtain ⟨subscription, opened, registered, listens⟩ :=
        Router.registration_of_mem_differences inside
      exact listens ▸ (still subscription opened (registered.trans same)).1
  · rw [queued]
    refine tells.news.append ?_
    by_cases opened : ∃ subscription ∈ (desk.router.amend accepts change).subscriptions,
        subscription.registration = registration
    · obtain ⟨subscription, member, rfl⟩ := opened
      rw [Router.callsTo_differences accepts sorted member, ← (still subscription member rfl).2]
      exact news_difference (valid subscription member).2 (nodup_visible _ _ _)
    · rw [Router.callsTo_differences_of_closed accepts fun subscription member same =>
        opened ⟨subscription, member, same⟩]
      exact News.nil _
  · intro subscription member same
    obtain ⟨before, amended, rfl⟩ := Router.exists_of_mem_apply member
    rw [registration_refresh] at same
    obtain ⟨listens, known⟩ := still before amended same
    rw [listener_refresh, told_refresh, queued, heard_append, ← known, ← same,
      Router.callsTo_differences accepts sorted amended]
    exact ⟨listens, (heard_difference _ _).symm⟩

theorem step (tells : Tells initial registration listener acts desk)
    (orderly : desk.router.Orderly) (step : Desk.Step desk now next) :
    Tells initial registration listener (acts ++ now) next := by
  have quiet {other : Desk I L} (number : other.router.nextNumber = desk.router.nextNumber)
      (subscriptions : other.router.subscriptions = desk.router.subscriptions)
      (nothing : enqueued now = []) : Tells initial registration listener (acts ++ now) other := by
    refine ⟨number ▸ tells.older, ?_, ?_, ?_⟩
    · simpa [nothing] using tells.own
    · simpa [nothing] using tells.news
    · simpa [nothing, subscriptions] using tells.told
  cases step with
  | change accepts change => exact tells.change orderly accepts change
  | begin taken =>
    rw [((Router.nextDelivery?_eq_some _ _ _).mp taken).2]
    exact quiet rfl rfl rfl
  | idle | adopt | finish | call => exact quiet rfl rfl rfl

theorem run (tells : Tells initial registration listener acts desk) (orderly : desk.router.Orderly)
    (run : Run Desk.Step desk now last) :
    Tells initial registration listener (acts ++ now) last := by
  induction run with
  | still => simpa using tells
  | onward path step ih =>
    rw [← List.append_assoc]
    exact ih.step (Desk.run_orderly path orderly) step

end Tells

/-- What listeners count as told is what they saw at the latest change. -/
theorem Desk.told_of_latest {desk last : Desk I L} {acts : List (Act I L)}
    (run : Run Desk.Step desk acts last) {accepts : Acceptance I L}
    (latest : latestAcceptance acts = some accepts) :
    ∀ subscription ∈ last.router.subscriptions, subscription.told.toFinset =
      (RpcRouting.visible accepts last.router.offers subscription.listener).toFinset := by
  induction run with
  | still => cases latest
  | onward path step ih =>
    cases step with
    | change accepts' change =>
      obtain rfl := Option.some.inj ((latestAcceptance_append_changed _ _ _ _).symm.trans latest)
      intro subscription member
      obtain ⟨before, -, rfl⟩ := Router.exists_of_mem_apply member
      rw [told_refresh, listener_refresh, Router.offers_onDuty, Router.offers_apply]
      rfl
    | begin taken =>
      rw [latestAcceptance_append rfl] at latest
      rw [((Router.nextDelivery?_eq_some _ _ _).mp taken).2]
      exact ih latest
    | idle | adopt | finish | call =>
      rw [latestAcceptance_append rfl] at latest
      exact ih latest

/-- For a registration still to be made nothing waits, so what is queued for it is called or waits
afterwards. -/
theorem Desk.callsTo_of_run {desk last : Desk I L} {acts : List (Act I L)}
    (run : Run Desk.Step desk acts last) (numbered : desk.Numbered) :
    callsTo desk.router.nextNumber (called acts) ++ callsTo desk.router.nextNumber last.waiting =
      callsTo desk.router.nextNumber ((enqueued acts).flatMap Delivery.calls) := by
  have none : callsTo desk.router.nextNumber desk.waiting = [] :=
    callsTo_eq_nil fun call member => Nat.ne_of_lt (numbered call member)
  rw [← callsTo_append, ← Desk.run_waiting run, callsTo_append, none, List.nil_append]

end RpcRouting
