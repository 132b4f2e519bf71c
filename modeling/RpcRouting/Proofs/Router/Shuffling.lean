import Mathlib.Data.List.Forall2
import RpcRouting.Proofs.Router.Ranking
/-! Routers that are the same but for the order in which identifiers stand: in what was registered,
in what listeners have been told, and in what they are still to be told. Every decision that a
router takes depends on such lists as sets only, so that whatever is done to both of them leaves
them the same. -/
namespace RpcRouting
open Current (Identifier)

section Pointwise
variable {α β : Type} {R : α → β → Prop} {first : List α} {second : List β}

theorem rel_cases {found : Option α} {found' : Option β} (related : Option.Rel R found found') :
    found = none ∧ found' = none ∨ ∃ a b, found = some a ∧ found' = some b ∧ R a b := by
  cases related with
  | none => exact .inl ⟨rfl, rfl⟩
  | some here => exact .inr ⟨_, _, rfl, rfl, here⟩

theorem forall₂_getElem? (related : List.Forall₂ R first second) (index : Nat) :
    Option.Rel R first[index]? second[index]? := by
  induction related generalizing index with
  | nil => exact .none
  | cons here _ ih =>
    cases index with
    | zero => exact .some here
    | succ index => simpa using ih index

theorem forall₂_modify {f : α → α} {g : β → β} (related : List.Forall₂ R first second)
    (kept : ∀ {a b}, R a b → R (f a) (g b)) (index : Nat) :
    List.Forall₂ R (first.modify index f) (second.modify index g) := by
  induction related generalizing index with
  | nil => simp
  | cons here rest ih =>
    cases index with
    | zero => simpa using ⟨kept here, rest⟩
    | succ index => simpa using ⟨here, ih index⟩

theorem forall₂_map {γ δ : Type} {P : γ → δ → Prop} {f : α → γ} {g : β → δ}
    (related : List.Forall₂ R first second) (kept : ∀ {a b}, R a b → P (f a) (g b)) :
    List.Forall₂ P (first.map f) (second.map g) :=
  List.rel_map (fun _ _ here => kept here) related

theorem forall₂_filter {p : α → Bool} {q : β → Bool} (related : List.Forall₂ R first second)
    (same : ∀ {a b}, R a b → q b = p a) :
    List.Forall₂ R (first.filter p) (second.filter q) := by
  refine List.rel_filter (p := p) (q := q) (fun a b here => ?_) related
  show p a = true ↔ q b = true
  rw [same here]

theorem exists_mem_iff_of_forall₂ {p : α → Prop} {q : β → Prop}
    (related : List.Forall₂ R first second) (same : ∀ {a b}, R a b → (p a ↔ q b)) :
    (∃ a ∈ first, p a) ↔ ∃ b ∈ second, q b := by
  induction related with
  | nil => simp
  | cons here _ ih => simp only [List.exists_mem_cons_iff, same here, ih]

theorem any_eq_of_forall₂ {p : α → Bool} {q : β → Bool} (related : List.Forall₂ R first second)
    (same : ∀ {a b}, R a b → q b = p a) : second.any q = first.any p := by
  induction related with
  | nil => rfl
  | cons here _ ih => rw [List.any_cons, List.any_cons, same here, ih]

theorem isEmpty_eq_of_forall₂ (related : List.Forall₂ R first second) :
    second.isEmpty = first.isEmpty := by
  cases related <;> rfl

theorem map_eq_of_forall₂ {γ : Type} {f : α → γ} {g : β → γ}
    (related : List.Forall₂ R first second) (same : ∀ {a b}, R a b → g b = f a) :
    second.map g = first.map f := by
  induction related with
  | nil => rfl
  | cons here _ ih => rw [List.map_cons, List.map_cons, same here, ih]

end Pointwise

variable {I L : Type}

theorem perm_without {known known' view view' : List Identifier} (knew : known.Perm known')
    (sees : view.Perm view') : (known.filter (· ∉ view)).Perm (known'.filter (· ∉ view')) := by
  have same : known'.filter (· ∉ view) = known'.filter (· ∉ view') :=
    List.filter_congr fun rpc _ => by simp only [sees.mem_iff]
  exact same ▸ knew.filter _

/-! The parts of a router. -/

structure Offer.Shuffled (offer other : Offer I) : Prop where
  registration : other.registration = offer.registration
  cost : other.cost = offer.cost
  implementation : other.implementation = offer.implementation
  rpcs : offer.rpcs.Perm other.rpcs

structure Subscription.Shuffled (subscription other : Subscription L) : Prop where
  registration : other.registration = subscription.registration
  listener : other.listener = subscription.listener
  told : subscription.told.Perm other.told

structure Delivery.Shuffled (delivery other : Delivery L) : Prop where
  registration : other.registration = delivery.registration
  listener : other.listener = delivery.listener
  removed : delivery.removed.Perm other.removed
  added : delivery.added.Perm other.added

structure Call.Shuffled (call other : Call L) : Prop where
  registration : other.registration = call.registration
  listener : other.listener = call.listener
  available : other.available = call.available
  rpcs : call.rpcs.Perm other.rpcs

inductive Change.Shuffled : Change I L → Change I L → Prop
  | register (implementation : I) (cost : Nat) {rpcs rpcs' : List Identifier}
      (order : rpcs.Perm rpcs') :
    Shuffled (.register implementation cost rpcs) (.register implementation cost rpcs')
  | same (change : Change I L) : Shuffled change change

structure Directory.Shuffled (directory other : Directory I) : Prop where
  candidates : ∀ rpc, other.candidates rpc = directory.candidates rpc
  serves : ∀ type, other.serves type = directory.serves type
  available : directory.available.Perm other.available

/-- The other router is this one with identifiers in another order. -/
structure Router.Shuffled (router other : Router I L) : Prop where
  settings : other.settings = router.settings
  schema : other.schema = router.schema
  generation : other.generation = router.generation
  nextNumber : other.nextNumber = router.nextNumber
  offers : List.Forall₂ Offer.Shuffled router.offers other.offers
  subscriptions : List.Forall₂ Subscription.Shuffled router.subscriptions other.subscriptions
  directory : router.directory.Shuffled other.directory
  pending : List.Forall₂ Delivery.Shuffled router.pending other.pending
  delivering : other.delivering = router.delivering

/-- Routers between which nobody can tell by what they answer. -/
structure Router.AnswersAlike (router other : Router I L) : Prop where
  choose : ∀ type input, other.choose type input = router.choose type input
  isAvailable : ∀ rpc, other.isAvailable rpc = router.isAvailable rpc
  available : router.available.Perm other.available

namespace Directory
variable {directory other : Directory I}

theorem Shuffled.best? (shuffled : directory.Shuffled other) (rpc : Identifier) :
    other.best? rpc = directory.best? rpc := by
  rw [Directory.best?, shuffled.candidates, Directory.best?]

theorem Shuffled.isAvailable (shuffled : directory.Shuffled other) (rpc : Identifier) :
    other.isAvailable rpc = directory.isAvailable rpc := by
  rw [Directory.isAvailable, shuffled.best?, Directory.isAvailable]

theorem candidates_foldl {offers offers' : List (Offer I)}
    (shuffled : List.Forall₂ Offer.Shuffled offers offers')
    (same : ∀ rpc, other.candidates rpc = directory.candidates rpc) (rpc : Identifier) :
    (offers'.foldl addOffer other).candidates rpc =
      (offers.foldl addOffer directory).candidates rpc := by
  induction shuffled generalizing directory other with
  | nil => exact same rpc
  | @cons offer offer' _ _ here _ ih =>
    refine ih fun rpc => ?_
    have candidate : offer'.candidate = offer.candidate := by
      rw [Offer.candidate, here.registration, here.cost, here.implementation, Offer.candidate]
    rw [candidates_addOffer, candidates_addOffer, same, candidate]
    simp only [here.rpcs.mem_iff]

/-- A directory does not depend on the order in which registrations enumerate what they declare, but
for the order in which it lists it. -/
theorem shuffled_ofOffers {offers offers' : List (Offer I)}
    (shuffled : List.Forall₂ Offer.Shuffled offers offers') :
    (ofOffers offers).Shuffled (ofOffers offers') := by
  refine ⟨fun rpc => ?_, fun type => ?_, ?_⟩
  · rw [ofOffers, candidates_rank, collect, candidates_foldl shuffled fun _ => rfl, ofOffers,
      candidates_rank, collect]
  · rw [Bool.eq_iff_iff, serves_ofOffers, serves_ofOffers]
    refine (exists_mem_iff_of_forall₂ shuffled fun here => ?_).symm
    exact exists_congr fun rpc => and_congr_left fun _ => here.rpcs.mem_iff
  · rw [List.perm_ext_iff_of_nodup (nodup_available_ofOffers _) (nodup_available_ofOffers _)]
    intro rpc
    rw [mem_available_ofOffers, mem_available_ofOffers]
    exact exists_mem_iff_of_forall₂ shuffled fun here => here.rpcs.mem_iff

end Directory

theorem perm_visible (accepts : Acceptance I L) {offers offers' : List (Offer I)}
    (shuffled : List.Forall₂ Offer.Shuffled offers offers') (listener : L) :
    (visible accepts offers listener).Perm (visible accepts offers' listener) := by
  rw [List.perm_ext_iff_of_nodup (nodup_visible _ _ _) (nodup_visible _ _ _)]
  intro rpc
  rw [mem_visible, mem_visible]
  refine exists_mem_iff_of_forall₂ shuffled fun here => ?_
  rw [here.implementation, here.rpcs.mem_iff]

theorem Delivery.Shuffled.isEmpty {delivery other : Delivery L}
    (shuffled : delivery.Shuffled other) : other.isEmpty = delivery.isEmpty := by
  rw [Delivery.isEmpty, Delivery.isEmpty, shuffled.removed.isEmpty_eq, shuffled.added.isEmpty_eq]

theorem Delivery.Shuffled.calls {delivery other : Delivery L}
    (shuffled : delivery.Shuffled other) :
    List.Forall₂ Call.Shuffled delivery.calls other.calls := by
  refine forall₂_filter (.cons ?_ (.cons ?_ .nil)) fun same => ?_
  · exact ⟨shuffled.registration, shuffled.listener, rfl, shuffled.removed⟩
  · exact ⟨shuffled.registration, shuffled.listener, rfl, shuffled.added⟩
  · rw [same.rpcs.isEmpty_eq]

namespace Subscription.Shuffled
variable {subscription other : Subscription L} {view view' : List Identifier}

theorem difference (shuffled : subscription.Shuffled other) (sees : view.Perm view') :
    (subscription.difference view).Shuffled (other.difference view') :=
  ⟨shuffled.registration, shuffled.listener, perm_without shuffled.told sees,
    perm_without sees shuffled.told⟩

theorem refresh (shuffled : subscription.Shuffled other) (sees : view.Perm view') :
    (subscription.refresh view).Shuffled (other.refresh view') := by
  unfold Subscription.refresh
  -- Without a difference what has been told stays, in an order of its own.
  rw [(shuffled.difference sees).isEmpty]
  split
  · exact shuffled
  · exact ⟨shuffled.registration, shuffled.listener, sees⟩

end Subscription.Shuffled

namespace Router

theorem Shuffled.refl (router : Router I L) : router.Shuffled router where
  settings := rfl
  schema := rfl
  generation := rfl
  nextNumber := rfl
  offers := List.forall₂_same.mpr fun _ _ => ⟨rfl, rfl, rfl, .refl _⟩
  subscriptions := List.forall₂_same.mpr fun _ _ => ⟨rfl, rfl, .refl _⟩
  directory := ⟨fun _ => rfl, fun _ => rfl, .refl _⟩
  pending := List.forall₂_same.mpr fun _ _ => ⟨rfl, rfl, .refl _, .refl _⟩
  delivering := rfl

namespace Shuffled
variable {router other : Router I L} {change change' : Change I L}

/-! What a router answers. -/

theorem isAvailable (shuffled : router.Shuffled other) (rpc : Identifier) :
    other.isAvailable rpc = router.isAvailable rpc := shuffled.directory.isAvailable rpc

theorem contextOf (shuffled : router.Shuffled other) (type : SchemaPath)
    (input : Option Payload) : other.contextOf type input = router.contextOf type input := by
  rw [Router.contextOf, shuffled.schema, Router.contextOf]

theorem fallsBack (shuffled : router.Shuffled other) (type : SchemaPath)
    (context : InstancePath) : other.fallsBack type context = router.fallsBack type context := by
  rw [Router.fallsBack, shuffled.settings, shuffled.isAvailable, Router.fallsBack]

theorem dispatch (shuffled : router.Shuffled other) (rpc : Identifier) :
    other.dispatch rpc = router.dispatch rpc := by
  rw [Router.dispatch, shuffled.directory.best?, Router.dispatch]

theorem choose (shuffled : router.Shuffled other) (type : SchemaPath) (input : Option Payload) :
    other.choose type input = router.choose type input := by
  unfold Router.choose
  simp only [shuffled.contextOf, shuffled.fallsBack, shuffled.dispatch]

theorem describe (shuffled : router.Shuffled other) : other.describe = router.describe := by
  unfold Router.describe
  rw [shuffled.settings, shuffled.generation]

theorem answersAlike (shuffled : router.Shuffled other) : router.AnswersAlike other :=
  ⟨shuffled.choose, shuffled.isAvailable, shuffled.directory.available⟩

/-! What is done to a router. -/

theorem visible (shuffled : router.Shuffled other) (accepts : Acceptance I L) (listener : L) :
    (router.visible accepts listener).Perm (other.visible accepts listener) :=
  perm_visible accepts shuffled.offers listener

theorem differences (shuffled : router.Shuffled other) (accepts : Acceptance I L) :
    List.Forall₂ Delivery.Shuffled (router.differences accepts) (other.differences accepts) := by
  refine forall₂_filter (forall₂_map shuffled.subscriptions fun same => ?_) fun same => ?_
  · rw [same.listener]
    exact same.difference (shuffled.visible accepts _)
  · rw [same.isEmpty]

theorem publish (shuffled : router.Shuffled other) (accepts : Acceptance I L) :
    (router.publish accepts).Shuffled (other.publish accepts) where
  settings := shuffled.settings
  schema := shuffled.schema
  generation := shuffled.generation
  nextNumber := shuffled.nextNumber
  offers := shuffled.offers
  subscriptions := by
    refine forall₂_map shuffled.subscriptions fun same => ?_
    rw [same.listener]
    exact same.refresh (shuffled.visible accepts _)
  directory := Directory.shuffled_ofOffers shuffled.offers
  pending := List.rel_append shuffled.pending (shuffled.differences accepts)
  delivering := shuffled.delivering

theorem toldAtFirst (shuffled : router.Shuffled other) (accepts : Acceptance I L) (listener : L) :
    (router.toldAtFirst accepts listener).Perm (other.toldAtFirst accepts listener) := by
  unfold Router.toldAtFirst
  rw [shuffled.settings]
  split
  · exact .refl _
  · exact shuffled.visible accepts listener

theorem amend (shuffled : router.Shuffled other) (accepts : Acceptance I L)
    (same : change.Shuffled change') :
    (router.amend accepts change).Shuffled (other.amend accepts change') := by
  have register (implementation : I) (cost : Nat) {rpcs rpcs' : List Identifier}
      (order : rpcs.Perm rpcs') :
      (router.amend accepts (.register implementation cost rpcs)).Shuffled
        (other.amend accepts (.register implementation cost rpcs')) :=
    { shuffled with
      nextNumber := congrArg (· + 1) shuffled.nextNumber
      offers := List.rel_append shuffled.offers
        (.cons ⟨shuffled.nextNumber, rfl, rfl, order⟩ .nil) }
  cases same with
  | register implementation cost order => exact register implementation cost order
  | same =>
    cases change with
    | register implementation cost rpcs => exact register implementation cost (.refl rpcs)
    | unregister registration =>
      refine { shuffled with
        offers := forall₂_filter shuffled.offers fun same => ?_ }
      rw [same.registration]
    | listen listener =>
      exact { shuffled with
        nextNumber := congrArg (· + 1) shuffled.nextNumber
        subscriptions := List.rel_append shuffled.subscriptions
          (.cons ⟨shuffled.nextNumber, rfl, shuffled.toldAtFirst accepts listener⟩ .nil) }
    | unlisten registration =>
      refine { shuffled with
        subscriptions := forall₂_filter shuffled.subscriptions fun same => ?_ }
      rw [same.registration]

theorem apply (shuffled : router.Shuffled other) (accepts : Acceptance I L)
    (same : change.Shuffled change') :
    (router.apply accepts change).Shuffled (other.apply accepts change') :=
  (shuffled.amend accepts same).publish accepts

theorem updateSchema (shuffled : router.Shuffled other) (schema : Schema) :
    (router.updateSchema schema).Shuffled (other.updateSchema schema) :=
  { shuffled with
    schema := rfl
    generation := congrArg (· + 1) shuffled.generation }

theorem startDelivering? (shuffled : router.Shuffled other) :
    Option.Rel Router.Shuffled router.startDelivering? other.startDelivering? := by
  unfold Router.startDelivering?
  rw [shuffled.delivering, isEmpty_eq_of_forall₂ shuffled.pending]
  split
  · exact .none
  · exact .some { shuffled with delivering := rfl }

theorem nextDelivery? (shuffled : router.Shuffled other) :
    Option.Rel (fun taken taken' => taken.1.Shuffled taken'.1 ∧ taken.2.Shuffled taken'.2)
      router.nextDelivery? other.nextDelivery? := by
  unfold Router.nextDelivery?
  have pending := shuffled.pending
  cases first : router.pending with
  | nil =>
    rw [first, List.forall₂_nil_left_iff] at pending
    rw [pending]
    exact .none
  | cons delivery rest =>
    rw [first, List.forall₂_cons_left_iff] at pending
    obtain ⟨delivery', rest', same, later, first'⟩ := pending
    rw [first']
    exact .some ⟨same, { shuffled with pending := later }⟩

theorem stopDelivering (shuffled : router.Shuffled other) :
    router.stopDelivering.Shuffled other.stopDelivering :=
  { shuffled with delivering := rfl }

/-- Both ask the same listeners about the same implementations. -/
theorem consultations (shuffled : router.Shuffled other) :
    other.consultations = router.consultations := by
  have offers := map_eq_of_forall₂ shuffled.offers Offer.Shuffled.implementation
  have listeners := map_eq_of_forall₂ shuffled.subscriptions Subscription.Shuffled.listener
  have spread (router : Router I L) : router.consultations =
      (router.subscriptions.map (·.listener)).flatMap fun listener =>
        (router.offers.map (·.implementation)).map (listener, ·) := by
    rw [List.flatMap_map]
    simp only [List.map_map]
    rfl
  rw [spread, spread, offers, listeners]

theorem consultationsFor (shuffled : router.Shuffled other) (same : change.Shuffled change') :
    other.consultationsFor change' = router.consultationsFor change := by
  cases same with
  | register => rfl
  | same =>
    cases change with
    | listen listener =>
      have offers := map_eq_of_forall₂ shuffled.offers fun same =>
        congrArg (listener, ·) same.implementation
      rw [Router.consultationsFor, shuffled.settings, offers, Router.consultationsFor]
    | register | unregister | unlisten => rfl

end Shuffled
end Router
end RpcRouting
