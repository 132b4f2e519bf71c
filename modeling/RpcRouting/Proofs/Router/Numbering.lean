import RpcRouting.Proofs.Router.Hearing
/-! What every change of a router keeps: registrations stand in the order of their numbers, below the
next one, and the directory is that of the open registrations. -/
namespace RpcRouting
open Current (Identifier)

variable {I L : Type}

namespace Router

/-- What a change queues for the listeners. -/
def queuedBy (accepts : Acceptance I L) (router : Router I L) (change : Change I L) :
    List (Delivery L) :=
  (router.amend accepts change).differences accepts

/-- A router whose registrations are numbered as they were made, and whose directory is up to
date. -/
structure Orderly (router : Router I L) : Prop where
  offers : (router.offers.map (·.registration)).Pairwise (· < ·)
  subscriptions : (router.subscriptions.map (·.registration)).Pairwise (· < ·)
  offers_lt : ∀ offer ∈ router.offers, offer.registration < router.nextNumber
  subscriptions_lt : ∀ subscription ∈ router.subscriptions,
    subscription.registration < router.nextNumber
  told : ∀ subscription ∈ router.subscriptions, subscription.told.Nodup
  directory : router.directory = .ofOffers router.offers

@[simp]
theorem pending_amend (accepts : Acceptance I L) (router : Router I L) (change : Change I L) :
    (router.amend accepts change).pending = router.pending := by
  cases change <;> rfl

@[simp]
theorem delivering_amend (accepts : Acceptance I L) (router : Router I L) (change : Change I L) :
    (router.amend accepts change).delivering = router.delivering := by
  cases change <;> rfl

@[simp]
theorem settings_amend (accepts : Acceptance I L) (router : Router I L) (change : Change I L) :
    (router.amend accepts change).settings = router.settings := by
  cases change <;> rfl

@[simp]
theorem schema_amend (accepts : Acceptance I L) (router : Router I L) (change : Change I L) :
    (router.amend accepts change).schema = router.schema := by
  cases change <;> rfl

theorem nextNumber_le_amend (accepts : Acceptance I L) (router : Router I L)
    (change : Change I L) : router.nextNumber ≤ (router.amend accepts change).nextNumber := by
  cases change <;> simp [amend]

@[simp]
theorem pending_apply (accepts : Acceptance I L) (router : Router I L) (change : Change I L) :
    (router.apply accepts change).pending = router.pending ++ router.queuedBy accepts change := by
  simp [apply, publish, queuedBy]

@[simp]
theorem delivering_apply (accepts : Acceptance I L) (router : Router I L) (change : Change I L) :
    (router.apply accepts change).delivering = router.delivering := by
  simp [apply, publish]

@[simp]
theorem settings_apply (accepts : Acceptance I L) (router : Router I L) (change : Change I L) :
    (router.apply accepts change).settings = router.settings := by
  simp [apply, publish]

@[simp]
theorem schema_apply (accepts : Acceptance I L) (router : Router I L) (change : Change I L) :
    (router.apply accepts change).schema = router.schema := by
  simp [apply, publish]

theorem offers_apply (accepts : Acceptance I L) (router : Router I L) (change : Change I L) :
    (router.apply accepts change).offers = (router.amend accepts change).offers := rfl

theorem nextNumber_apply (accepts : Acceptance I L) (router : Router I L) (change : Change I L) :
    (router.apply accepts change).nextNumber = (router.amend accepts change).nextNumber := rfl

theorem subscriptions_apply (accepts : Acceptance I L) (router : Router I L)
    (change : Change I L) :
    (router.apply accepts change).subscriptions =
      (router.amend accepts change).subscriptions.map fun subscription =>
        subscription.refresh ((router.amend accepts change).visible accepts
          subscription.listener) := rfl

/-- What is told and seen by the subscription behind a delivery. -/
theorem mem_differences {accepts : Acceptance I L} {router : Router I L} {delivery : Delivery L} :
    delivery ∈ router.differences accepts ↔ ∃ subscription ∈ router.subscriptions,
      subscription.difference (router.visible accepts subscription.listener) = delivery ∧
        delivery.isEmpty = false := by
  simp only [differences, List.mem_filter, List.mem_map, Bool.not_eq_true']
  constructor
  · rintro ⟨⟨subscription, member, rfl⟩, some⟩
    exact ⟨subscription, member, rfl, some⟩
  · rintro ⟨subscription, member, rfl, some⟩
    exact ⟨⟨subscription, member, rfl⟩, some⟩

/-- Deliveries are queued in the order in which their listeners were registered. -/
theorem differences_sublist (accepts : Acceptance I L) (router : Router I L) :
    ((router.differences accepts).map (·.registration)).Sublist
      (router.subscriptions.map (·.registration)) := by
  have all : ((router.subscriptions.map fun subscription =>
      subscription.difference (router.visible accepts subscription.listener)).map
        (·.registration)) = router.subscriptions.map (·.registration) := by
    rw [List.map_map]
    rfl
  rw [← all]
  exact List.filter_sublist.map _

namespace Orderly

theorem ofSettings (settings : RouterSettings) :
    (Router.ofSettings settings : Router I L).Orderly :=
  ⟨.nil, .nil, nofun, nofun, nofun, rfl⟩

private theorem append_last {numbers : List Nat} {next : Nat} (sorted : numbers.Pairwise (· < ·))
    (below : ∀ number ∈ numbers, number < next) : (numbers ++ [next]).Pairwise (· < ·) := by
  rw [List.pairwise_append]
  refine ⟨sorted, List.pairwise_singleton _ _, ?_⟩
  intro number member last same
  rw [List.mem_singleton.mp same]
  exact below number member

variable {router : Router I L}

/-- A change keeps the numbers in order; only what is published is still to come. -/
theorem amend (orderly : router.Orderly) (accepts : Acceptance I L) (change : Change I L) :
    let amended := router.amend accepts change
    (amended.offers.map (·.registration)).Pairwise (· < ·) ∧
      (amended.subscriptions.map (·.registration)).Pairwise (· < ·) ∧
      (∀ offer ∈ amended.offers, offer.registration < amended.nextNumber) ∧
      (∀ subscription ∈ amended.subscriptions,
        subscription.registration < amended.nextNumber ∧ subscription.told.Nodup) := by
  cases change with
  | register implementation cost rpcs =>
    refine ⟨?_, orderly.subscriptions, ?_, ?_⟩
    · simp only [Router.amend, List.map_append, List.map_cons, List.map_nil]
      exact append_last orderly.offers (by simpa using orderly.offers_lt)
    · intro offer member
      rcases List.mem_append.mp member with old | new
      · exact Nat.lt_succ_of_lt (orderly.offers_lt offer old)
      · rw [List.mem_singleton.mp new]
        exact Nat.lt_succ_self _
    · intro subscription member
      exact ⟨Nat.lt_succ_of_lt (orderly.subscriptions_lt subscription member),
        orderly.told subscription member⟩
  | unregister registration =>
    refine ⟨orderly.offers.sublist (List.filter_sublist.map _), orderly.subscriptions, ?_, ?_⟩
    · intro offer member
      exact orderly.offers_lt offer (List.mem_of_mem_filter member)
    · intro subscription member
      exact ⟨orderly.subscriptions_lt subscription member, orderly.told subscription member⟩
  | listen listener =>
    refine ⟨orderly.offers, ?_, ?_, ?_⟩
    · simp only [Router.amend, List.map_append, List.map_cons, List.map_nil]
      exact append_last orderly.subscriptions (by simpa using orderly.subscriptions_lt)
    · intro offer member
      exact Nat.lt_succ_of_lt (orderly.offers_lt offer member)
    · intro subscription member
      rcases List.mem_append.mp member with old | new
      · exact ⟨Nat.lt_succ_of_lt (orderly.subscriptions_lt subscription old),
          orderly.told subscription old⟩
      · rw [List.mem_singleton.mp new]
        refine ⟨Nat.lt_succ_self _, ?_⟩
        unfold toldAtFirst
        split
        · exact List.nodup_nil
        · exact nodup_visible _ _ _
  | unlisten registration =>
    refine ⟨orderly.offers, orderly.subscriptions.sublist (List.filter_sublist.map _),
      orderly.offers_lt, ?_⟩
    intro subscription member
    have old := List.mem_of_mem_filter member
    exact ⟨orderly.subscriptions_lt subscription old, orderly.told subscription old⟩

theorem apply (orderly : router.Orderly) (accepts : Acceptance I L) (change : Change I L) :
    (router.apply accepts change).Orderly := by
  obtain ⟨offers, subscriptions, offers_lt, rest⟩ := orderly.amend accepts change
  refine ⟨offers, ?_, offers_lt, ?_, ?_, rfl⟩
  · simpa [subscriptions_apply, List.map_map, Function.comp_def] using subscriptions
  · intro subscription member
    obtain ⟨before, old, rfl⟩ := List.mem_map.mp (subscriptions_apply accepts router change ▸ member)
    rw [registration_refresh]
    exact (rest before old).1
  · intro subscription member
    obtain ⟨before, old, rfl⟩ := List.mem_map.mp (subscriptions_apply accepts router change ▸ member)
    exact nodup_told_refresh (rest before old).2 (nodup_visible _ _ _)

/-- The order concerns the registrations and the directory only. -/
theorem congr {other : Router I L} (orderly : router.Orderly)
    (offers : other.offers = router.offers) (subscriptions : other.subscriptions = router.subscriptions)
    (number : other.nextNumber = router.nextNumber) (directory : other.directory = router.directory) :
    other.Orderly := by
  obtain ⟨settings, schema, generation, nextNumber, offers', subscriptions', directory', pending,
    delivering⟩ := other
  subst offers subscriptions number directory
  exact ⟨orderly.offers, orderly.subscriptions, orderly.offers_lt, orderly.subscriptions_lt,
    orderly.told, orderly.directory⟩

/-- The deliveries of one change are in the order of registration, at most one a listener. -/
theorem queuedBy_sorted (orderly : router.Orderly) (accepts : Acceptance I L)
    (change : Change I L) :
    ((router.queuedBy accepts change).map (·.registration)).Pairwise (· < ·) :=
  (orderly.amend accepts change).2.1.sublist (differences_sublist accepts _)

theorem queuedBy_lt (orderly : router.Orderly) (accepts : Acceptance I L) (change : Change I L) :
    ∀ delivery ∈ router.queuedBy accepts change,
      delivery.registration < (router.amend accepts change).nextNumber := by
  intro delivery member
  obtain ⟨subscription, old, rfl, -⟩ := mem_differences.mp member
  exact ((orderly.amend accepts change).2.2.2 subscription old).1

end Orderly

end Router
end RpcRouting
