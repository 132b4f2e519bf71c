import Mathlib.Data.Finset.Dedup
import Mathlib.Data.Finset.SDiff
import RpcRouting.Router.Change
import RpcRouting.Router.Delivery
/-! What a listener has heard, folded from the calls it got: what it counts as available. A delivery
takes it from what it was told to what it sees, and each call on the way is news to it. -/
namespace RpcRouting
open Current (Identifier)

variable {I L : Type}

/-- What a listener counts as available after a call. -/
def Call.hear (known : Finset Identifier) (call : Call L) : Finset Identifier :=
  if call.available then known ∪ call.rpcs.toFinset else known \ call.rpcs.toFinset

def heard (known : Finset Identifier) (calls : List (Call L)) : Finset Identifier :=
  calls.foldl Call.hear known

/-- A call that tells a listener something new, and each thing once. -/
structure Call.IsNews (known : Finset Identifier) (call : Call L) : Prop where
  nonempty : call.rpcs ≠ []
  nodup : call.rpcs.Nodup
  appear : call.available = true → ∀ rpc ∈ call.rpcs, rpc ∉ known
  vanish : call.available = false → ∀ rpc ∈ call.rpcs, rpc ∈ known

/-- Each call is news after those before it. -/
def News (known : Finset Identifier) (calls : List (Call L)) : Prop :=
  ∀ before call after, calls = before ++ call :: after → call.IsNews (heard known before)

@[simp]
theorem heard_nil (known : Finset Identifier) : heard known ([] : List (Call L)) = known := rfl

@[simp]
theorem heard_cons (known : Finset Identifier) (call : Call L) (calls : List (Call L)) :
    heard known (call :: calls) = heard (call.hear known) calls := rfl

@[simp]
theorem heard_append (known : Finset Identifier) (first second : List (Call L)) :
    heard known (first ++ second) = heard (heard known first) second :=
  List.foldl_append

theorem News.nil (known : Finset Identifier) : News known ([] : List (Call L)) := by
  intro before call after same
  simp at same

theorem News.left (news : News known (first ++ second)) : News known (first : List (Call L)) := by
  rintro before call after rfl
  exact news before call (after ++ second) (by simp)

theorem News.append (first : News known calls) (second : News (heard known calls) more) :
    News known (calls ++ more : List (Call L)) := by
  intro before call after same
  rcases List.append_eq_append_iff.mp same with ⟨middle, rfl, rest⟩ | ⟨middle, rfl, rest⟩
  · rw [heard_append]
    exact second middle call after rest
  · cases middle with
    | nil =>
      rw [List.append_nil] at second
      exact second [] call after (by simpa using rest.symm)
    | cons head tail =>
      obtain ⟨rfl, rfl⟩ := List.cons.inj rest
      exact first before call tail rfl

theorem news_cons (here : call.IsNews known) (later : News (call.hear known) calls) :
    News known (call :: calls : List (Call L)) := by
  show News known ([call] ++ calls)
  refine News.append ?_ later
  intro before other after same
  cases before with
  | nil =>
    obtain ⟨rfl, -⟩ := List.cons.inj same
    exact here
  | cons head tail => simp at same

/-! What a listener sees. -/

theorem mem_distinct (rpcs : List Identifier) (rpc : Identifier) :
    rpc ∈ distinct rpcs ↔ rpc ∈ rpcs := by
  have collect (rest seen : List Identifier) :
      rpc ∈ rest.foldl (fun seen rpc => if rpc ∈ seen then seen else seen ++ [rpc]) seen ↔
        rpc ∈ seen ∨ rpc ∈ rest := by
    induction rest generalizing seen with
    | nil => simp
    | cons head tail ih =>
      rw [List.foldl_cons, ih, List.mem_cons]
      by_cases present : head ∈ seen
      · rw [if_pos present]
        constructor
        · tauto
        · rintro (known | rfl | later)
          · exact .inl known
          · exact .inl present
          · exact .inr later
      · rw [if_neg present, List.mem_append, List.mem_singleton, or_assoc]
  simpa [distinct] using collect rpcs []

theorem nodup_distinct (rpcs : List Identifier) : (distinct rpcs).Nodup := by
  have collect (rest seen : List Identifier) (unique : seen.Nodup) :
      (rest.foldl (fun seen rpc => if rpc ∈ seen then seen else seen ++ [rpc]) seen).Nodup := by
    induction rest generalizing seen with
    | nil => exact unique
    | cons head tail ih =>
      refine ih (if head ∈ seen then seen else seen ++ [head]) ?_
      by_cases present : head ∈ seen
      · rwa [if_pos present]
      · rw [if_neg present]
        exact List.nodup_append.mpr ⟨unique, List.nodup_singleton _, by
          rintro rpc known _ last rfl
          exact present (List.mem_singleton.mp last ▸ known)⟩
  exact collect rpcs [] List.nodup_nil

theorem mem_visible (accepts : Acceptance I L) (offers : List (Offer I)) (listener : L)
    (rpc : Identifier) : rpc ∈ visible accepts offers listener ↔
      ∃ offer ∈ offers, accepts listener offer.implementation = true ∧ rpc ∈ offer.rpcs := by
  simp only [visible, mem_distinct, List.mem_flatMap, List.mem_filter, and_assoc]

theorem nodup_visible (accepts : Acceptance I L) (offers : List (Offer I)) (listener : L) :
    (visible accepts offers listener).Nodup := nodup_distinct _

theorem visible_congr {accepts other : Acceptance I L} {offers : List (Offer I)} {listener : L}
    (same : ∀ offer ∈ offers,
      accepts listener offer.implementation = other listener offer.implementation) :
    visible accepts offers listener = visible other offers listener := by
  rw [visible, List.filter_congr same, visible]

/-! What a delivery does. -/

/-- Without a difference what was told is what is seen. -/
theorem told_of_no_difference {subscription : Subscription L} {view : List Identifier}
    (same : (subscription.difference view).isEmpty = true) :
    subscription.told.toFinset = view.toFinset := by
  simp only [Delivery.isEmpty, Subscription.difference, Bool.and_eq_true, List.isEmpty_iff,
    List.filter_eq_nil_iff, decide_eq_true_eq, not_not] at same
  ext rpc
  rw [List.mem_toFinset, List.mem_toFinset]
  exact ⟨same.1 rpc, same.2 rpc⟩

theorem told_refresh (subscription : Subscription L) (view : List Identifier) :
    (subscription.refresh view).told.toFinset = view.toFinset := by
  unfold Subscription.refresh
  split
  · exact told_of_no_difference ‹_›
  · rfl

theorem nodup_told_refresh {subscription : Subscription L} {view : List Identifier}
    (told : subscription.told.Nodup) (seen : view.Nodup) :
    (subscription.refresh view).told.Nodup := by
  unfold Subscription.refresh
  split
  · exact told
  · exact seen

@[simp]
theorem registration_refresh (subscription : Subscription L) (view : List Identifier) :
    (subscription.refresh view).registration = subscription.registration := by
  unfold Subscription.refresh
  split <;> rfl

@[simp]
theorem listener_refresh (subscription : Subscription L) (view : List Identifier) :
    (subscription.refresh view).listener = subscription.listener := by
  unfold Subscription.refresh
  split <;> rfl

theorem heard_calls (known : Finset Identifier) (delivery : Delivery L) :
    heard known delivery.calls =
      known \ delivery.removed.toFinset ∪ delivery.added.toFinset := by
  obtain ⟨registration, listener, removed, added⟩ := delivery
  cases removed <;> cases added <;> simp [Delivery.calls, Call.hear]

/-- A delivery tells news if it takes back what is known and adds what is not. -/
theorem news_calls {known : Finset Identifier} {delivery : Delivery L}
    (removed : delivery.removed.Nodup) (added : delivery.added.Nodup)
    (old : ∀ rpc ∈ delivery.removed, rpc ∈ known)
    (new : ∀ rpc ∈ delivery.added, rpc ∉ known) : News known delivery.calls := by
  have vanish (some : delivery.removed ≠ []) : Call.IsNews known
      (⟨delivery.registration, delivery.listener, false, delivery.removed⟩ : Call L) :=
    ⟨some, removed, nofun, fun _ => old⟩
  -- What is added was not known, so it does not matter that what is removed has gone before.
  have appear (some : delivery.added ≠ []) {known' : Finset Identifier} (fewer : known' ⊆ known) :
      Call.IsNews known' (⟨delivery.registration, delivery.listener, true, delivery.added⟩ : Call L) :=
    ⟨some, added, fun _ rpc member still => new rpc member (fewer still), nofun⟩
  unfold Delivery.calls
  by_cases gone : delivery.removed = [] <;> by_cases come : delivery.added = [] <;>
    simp only [List.filter_cons, List.filter_nil, gone, come, List.isEmpty_nil, Bool.not_true,
      Bool.false_eq_true, if_false]
  · exact News.nil known
  · simpa [come] using news_cons (appear come (Finset.Subset.refl _)) (News.nil _)
  · simpa [gone] using news_cons (vanish gone) (News.nil _)
  · simpa [gone, come] using news_cons (vanish gone)
      (news_cons (appear come (by simp [Call.hear])) (News.nil _))

/-- A listener that hears a difference knows what it sees. -/
theorem heard_difference (subscription : Subscription L) (view : List Identifier) :
    heard subscription.told.toFinset (subscription.difference view).calls = view.toFinset := by
  rw [heard_calls]
  ext rpc
  simp only [Subscription.difference, Finset.mem_union, Finset.mem_sdiff, List.mem_toFinset,
    List.mem_filter, decide_eq_true_eq]
  tauto

theorem news_difference {subscription : Subscription L} {view : List Identifier}
    (told : subscription.told.Nodup) (seen : view.Nodup) :
    News subscription.told.toFinset (subscription.difference view).calls := by
  refine news_calls (told.filter _) (seen.filter _) ?_ ?_
  · intro rpc member
    exact List.mem_toFinset.mpr (List.mem_of_mem_filter member)
  · intro rpc member known
    have untold := of_decide_eq_true (List.mem_filter.mp member).2
    exact untold (List.mem_toFinset.mp known)

end RpcRouting
