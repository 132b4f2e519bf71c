import RpcRouting.Proofs.Run
import RpcRouting.Proofs.Router.Numbering
/-! A router at work: changes that come at any time, from anybody, and the calls by which its
deliveries are made, one delivery after the other. What is queued, what is begun and what is called
are three views of the same sequence. -/
namespace RpcRouting

variable {I L : Type}

inductive Act (I L : Type)
  /-- Its registrations are changed, while listeners accept as they say then. -/
  | changed (before : Router I L) (accepts : Acceptance I L) (change : Change I L)
  | adopted (schema : Schema)
  | begun (delivery : Delivery L)
  | called (call : Call L)

namespace Act

def queued : Act I L → List (Delivery L)
  | .changed before accepts change => before.queuedBy accepts change
  | _ => []

def begun? : Act I L → Option (Delivery L)
  | .begun delivery => some delivery
  | _ => none

def called? : Act I L → Option (Call L)
  | .called call => some call
  | _ => none

def acceptance? : Act I L → Option (Acceptance I L)
  | .changed _ accepts _ => some accepts
  | _ => none

def schema? : Act I L → Option Schema
  | .adopted schema => some schema
  | _ => none

end Act

/-- The deliveries that changes have queued, in the order of the changes. -/
def enqueued (acts : List (Act I L)) : List (Delivery L) := acts.flatMap Act.queued

def begun (acts : List (Act I L)) : List (Delivery L) := acts.filterMap Act.begun?

def called (acts : List (Act I L)) : List (Call L) := acts.filterMap Act.called?

/-- How listeners accepted implementations at the latest change. -/
def latestAcceptance (acts : List (Act I L)) : Option (Acceptance I L) :=
  (acts.filterMap Act.acceptance?).getLast?

def latestSchema (acts : List (Act I L)) : Option Schema := (acts.filterMap Act.schema?).getLast?

@[simp]
theorem enqueued_append (first second : List (Act I L)) :
    enqueued (first ++ second) = enqueued first ++ enqueued second := List.flatMap_append

@[simp]
theorem begun_append (first second : List (Act I L)) :
    begun (first ++ second) = begun first ++ begun second := List.filterMap_append

@[simp]
theorem called_append (first second : List (Act I L)) :
    called (first ++ second) = called first ++ called second := List.filterMap_append

theorem latestAcceptance_append_changed (acts : List (Act I L)) (before : Router I L)
    (accepts : Acceptance I L) (change : Change I L) :
    latestAcceptance (acts ++ [.changed before accepts change]) = some accepts := by
  simp [latestAcceptance, List.filterMap_append, Act.acceptance?]

theorem latestAcceptance_of_changed (before : Router I L) (accepts : Acceptance I L)
    (change : Change I L) (later : List (Act I L)) :
    ∃ latest, latestAcceptance (.changed before accepts change :: later) = some latest := by
  simp [latestAcceptance, Act.acceptance?, List.getLast?_cons]

theorem latestAcceptance_append {acts now : List (Act I L)}
    (none : now.filterMap Act.acceptance? = []) :
    latestAcceptance (acts ++ now) = latestAcceptance acts := by
  rw [latestAcceptance, List.filterMap_append, none, List.append_nil, latestAcceptance]

/-- What is done to make deliveries. -/
def tellings (deliveries : List (Delivery L)) : List (Act I L) :=
  deliveries.flatMap fun delivery => .begun delivery :: delivery.calls.map .called

@[simp]
theorem called_tellings (deliveries : List (Delivery L)) :
    called (tellings deliveries : List (Act I L)) = deliveries.flatMap Delivery.calls := by
  induction deliveries with
  | nil => rfl
  | cons first rest ih =>
    rw [tellings, List.flatMap_cons, called_append]
    refine congr_arg₂ (· ++ ·) ?_ ih
    rw [called, List.filterMap_cons_none rfl, List.filterMap_map]
    exact List.filterMap_some

namespace Router

/-- The router with somebody to make its deliveries, if there are any. -/
def onDuty (router : Router I L) : Router I L := router.startDelivering?.getD router

theorem onDuty_eq (router : Router I L) :
    router.onDuty = { router with delivering := router.delivering || !router.pending.isEmpty } := by
  obtain ⟨settings, schema, generation, nextNumber, offers, subscriptions, directory, pending,
    delivering⟩ := router
  cases delivering <;> cases pending <;> simp [onDuty, startDelivering?]

@[simp]
theorem pending_onDuty (router : Router I L) : router.onDuty.pending = router.pending := by
  rw [onDuty_eq]

@[simp]
theorem offers_onDuty (router : Router I L) : router.onDuty.offers = router.offers := by
  rw [onDuty_eq]

@[simp]
theorem subscriptions_onDuty (router : Router I L) :
    router.onDuty.subscriptions = router.subscriptions := by
  rw [onDuty_eq]

@[simp]
theorem nextNumber_onDuty (router : Router I L) :
    router.onDuty.nextNumber = router.nextNumber := by
  rw [onDuty_eq]

@[simp]
theorem directory_onDuty (router : Router I L) : router.onDuty.directory = router.directory := by
  rw [onDuty_eq]

@[simp]
theorem settings_onDuty (router : Router I L) : router.onDuty.settings = router.settings := by
  rw [onDuty_eq]

@[simp]
theorem schema_onDuty (router : Router I L) : router.onDuty.schema = router.schema := by
  rw [onDuty_eq]

/-- Whoever is registered after a change counts as told what it sees then. -/
theorem exists_of_mem_apply {router : Router I L} {accepts : Acceptance I L} {change : Change I L}
    {subscription : Subscription L}
    (member : subscription ∈ (router.apply accepts change).onDuty.subscriptions) :
    ∃ before ∈ (router.amend accepts change).subscriptions,
      before.refresh ((router.amend accepts change).visible accepts before.listener) =
        subscription := by
  rw [subscriptions_onDuty, subscriptions_apply] at member
  exact List.mem_map.mp member

theorem nextDelivery?_eq_none (router : Router I L) :
    router.nextDelivery? = none ↔ router.pending = [] := by
  unfold nextDelivery?
  cases router.pending <;> simp

theorem nextDelivery?_eq_some (router : Router I L) (delivery : Delivery L) (rest : Router I L) :
    router.nextDelivery? = some (delivery, rest) ↔
      router.pending = delivery :: rest.pending ∧ rest = { router with pending := rest.pending } := by
  unfold nextDelivery?
  cases router.pending with
  | nil => simp
  | cons first later =>
    simp only [Option.some.injEq, Prod.mk.injEq, List.cons.injEq]
    constructor
    · rintro ⟨rfl, rfl⟩
      exact ⟨⟨rfl, rfl⟩, rfl⟩
    · rintro ⟨⟨rfl, rfl⟩, same⟩
      exact ⟨rfl, same.symm⟩

end Router

/-- A router, with the calls still to be made of the delivery under way. -/
structure Desk (I L : Type) where
  router : Router I L
  inHand : List (Call L)

namespace Desk

/-- One step of the work. A change may come at any time, also between the calls of a delivery. -/
inductive Step : Desk I L → List (Act I L) → Desk I L → Prop
  | idle : Step desk [] desk
  | change {desk : Desk I L} (accepts change) : Step desk [.changed desk.router accepts change]
      ⟨(desk.router.apply accepts change).onDuty, desk.inHand⟩
  | adopt {desk : Desk I L} (schema) : Step desk [.adopted schema]
      ⟨desk.router.updateSchema schema, desk.inHand⟩
  | begin {router rest : Router I L} (taken : router.nextDelivery? = some (delivery, rest))
      (duty : router.delivering = true) : Step ⟨router, []⟩ [.begun delivery] ⟨rest, delivery.calls⟩
  | finish {router : Router I L} (none : router.nextDelivery? = none) :
      Step ⟨router, []⟩ [] ⟨router.stopDelivering, []⟩
  | call {router : Router I L} : Step ⟨router, call :: rest⟩ [.called call] ⟨router, rest⟩

/-- What a panic makes of the work: calls are given up, and the duty to make deliveries is handed
back. -/
inductive Loss : Desk I L → Desk I L → Prop
  | call {router : Router I L} : Loss ⟨router, call :: rest⟩ ⟨router, rest⟩
  | duty {router : Router I L} : Loss ⟨router, []⟩ ⟨router.stopDelivering, []⟩

/-- What happens to the work when panics may pass. -/
inductive Turn : Desk I L → List (Act I L) → Desk I L → Prop
  | step (step : Step desk acts next) : Turn desk acts next
  | loss (loss : Loss desk next) : Turn desk [] next

/-- The calls to come for what is queued or under way. -/
def waiting (desk : Desk I L) : List (Call L) :=
  desk.inHand ++ desk.router.pending.flatMap Delivery.calls

/-- A desk where nothing waits unless somebody makes the deliveries. -/
structure Settled (desk : Desk I L) : Prop where
  pending : desk.router.delivering = false → desk.router.pending = []
  inHand : desk.router.delivering = false → desk.inHand = []

theorem Settled.waiting {desk : Desk I L} (settled : desk.Settled)
    (free : desk.router.delivering = false) : desk.waiting = [] := by
  simp [Desk.waiting, settled.pending free, settled.inHand free]

/-- A change takes up what has been left behind. -/
theorem settled_change (router : Router I L) (accepts : Acceptance I L) (change : Change I L)
    {inHand : List (Call L)} (free : router.delivering = false → inHand = []) :
    Settled ⟨(router.apply accepts change).onDuty, inHand⟩ := by
  rw [Router.onDuty_eq]
  constructor
  · intro idle
    simpa using (Bool.or_eq_false_iff.mp idle).2
  · intro idle
    exact free (by simpa using (Bool.or_eq_false_iff.mp idle).1)

/-- Deliveries are for registrations that have been made. -/
def Numbered (desk : Desk I L) : Prop :=
  ∀ call ∈ desk.waiting, call.registration < desk.router.nextNumber

theorem registration_of_mem_calls {delivery : Delivery L} {call : Call L}
    (member : call ∈ delivery.calls) :
    call.registration = delivery.registration ∧ call.listener = delivery.listener := by
  simp only [Delivery.calls, List.mem_filter, List.mem_cons, List.not_mem_nil, or_false] at member
  rcases member.1 with rfl | rfl <;> exact ⟨rfl, rfl⟩

/-- What becomes of the router, whatever happens. -/
theorem Turn.router {desk next : Desk I L} (turn : Turn desk acts next) :
    (∃ accepts change, acts = [.changed desk.router accepts change] ∧
      next.router = (desk.router.apply accepts change).onDuty) ∨
    (∃ schema, acts = [.adopted schema] ∧ next.router = desk.router.updateSchema schema) ∨
    (acts = [] ∨ (∃ delivery, acts = [.begun delivery]) ∨ ∃ call, acts = [.called call]) ∧
      ∃ pending delivering,
        next.router = { desk.router with pending := pending, delivering := delivering } := by
  cases turn with
  | step step =>
    cases step with
    | change accepts change => exact .inl ⟨accepts, change, rfl, rfl⟩
    | adopt schema => exact .inr (.inl ⟨schema, rfl, rfl⟩)
    | idle => exact .inr (.inr ⟨.inl rfl, _, _, rfl⟩)
    | begin taken =>
      exact .inr (.inr ⟨.inr (.inl ⟨_, rfl⟩), _, _,
        ((Router.nextDelivery?_eq_some _ _ _).mp taken).2⟩)
    | finish none => exact .inr (.inr ⟨.inl rfl, _, _, rfl⟩)
    | call => exact .inr (.inr ⟨.inr (.inr ⟨_, rfl⟩), _, _, rfl⟩)
  | loss loss =>
    cases loss with
    | call | duty => exact .inr (.inr ⟨.inl rfl, _, _, rfl⟩)

theorem Turn.orderly {desk next : Desk I L} (turn : Turn desk acts next)
    (orderly : desk.router.Orderly) : next.router.Orderly := by
  rcases turn.router with ⟨accepts, change, -, same⟩ | ⟨schema, -, same⟩ | ⟨-, _, _, same⟩
  · rw [same]
    exact (orderly.apply accepts change).congr (Router.offers_onDuty _)
      (Router.subscriptions_onDuty _) (Router.nextNumber_onDuty _) (Router.directory_onDuty _)
  · rw [same]
    exact orderly.congr rfl rfl rfl rfl
  · rw [same]
    exact orderly.congr rfl rfl rfl rfl

theorem Turn.nextNumber_le {desk next : Desk I L} (turn : Turn desk acts next) :
    desk.router.nextNumber ≤ next.router.nextNumber := by
  rcases turn.router with ⟨accepts, change, -, same⟩ | ⟨schema, -, same⟩ | ⟨-, _, _, same⟩
  · rw [same, Router.nextNumber_onDuty, Router.nextNumber_apply]
    exact Router.nextNumber_le_amend accepts desk.router change
  · rw [same]
    exact Nat.le_refl _
  · rw [same]

theorem Loss.waiting {desk next : Desk I L} (loss : Loss desk next) :
    next.waiting.Sublist desk.waiting := by
  cases loss with
  | call => exact List.sublist_cons_self _ _
  | duty => exact List.Sublist.refl _

theorem Loss.numbered {desk next : Desk I L} (loss : Loss desk next) (numbered : desk.Numbered) :
    next.Numbered := by
  cases loss with
  | call => exact fun call member => numbered call (List.mem_cons_of_mem _ member)
  | duty => exact numbered

namespace Step
variable {desk next : Desk I L} {acts : List (Act I L)}

theorem orderly (step : Step desk acts next) (orderly : desk.router.Orderly) :
    next.router.Orderly :=
  (Turn.step step).orderly orderly

theorem nextNumber_le (step : Step desk acts next) :
    desk.router.nextNumber ≤ next.router.nextNumber :=
  (Turn.step step).nextNumber_le

theorem settled (step : Step desk acts next) (settled : desk.Settled) : next.Settled := by
  cases step with
  | idle => exact settled
  | change accepts change => exact settled_change _ accepts change settled.inHand
  | adopt schema => exact ⟨settled.pending, settled.inHand⟩
  | begin taken duty =>
    rw [((Router.nextDelivery?_eq_some _ _ _).mp taken).2]
    constructor <;> intro free <;> simp [duty] at free
  | @finish router none =>
    exact ⟨fun _ => (Router.nextDelivery?_eq_none router).mp none, fun _ => rfl⟩
  | call =>
    refine ⟨settled.pending, fun free => ?_⟩
    have empty := settled.inHand free
    cases empty

/-- What waits and what is queued is what is called and what waits afterwards. -/
theorem waiting (step : Step desk acts next) :
    desk.waiting ++ (enqueued acts).flatMap Delivery.calls = called acts ++ next.waiting := by
  cases step with
  | idle => simp [enqueued, called]
  | change accepts change =>
    simp [Desk.waiting, enqueued, called, Act.queued, Act.called?]
  | adopt schema => simp [Desk.waiting, enqueued, called, Act.queued, Act.called?, Router.updateSchema]
  | begin taken =>
    obtain ⟨first, -⟩ := (Router.nextDelivery?_eq_some _ _ _).mp taken
    simp [Desk.waiting, enqueued, called, Act.queued, Act.called?, first]
  | finish none =>
    simp [Desk.waiting, enqueued, called, Router.stopDelivering]
  | call => simp [Desk.waiting, enqueued, called, Act.queued, Act.called?]

/-- What is pending and what is queued is what is begun and what is pending afterwards. -/
theorem pending (step : Step desk acts next) :
    desk.router.pending ++ enqueued acts = begun acts ++ next.router.pending := by
  cases step with
  | idle => simp [enqueued, begun]
  | change accepts change => simp [enqueued, begun, Act.queued, Act.begun?]
  | adopt schema => simp [enqueued, begun, Act.queued, Act.begun?, Router.updateSchema]
  | begin taken =>
    obtain ⟨first, -⟩ := (Router.nextDelivery?_eq_some _ _ _).mp taken
    simp [enqueued, begun, Act.queued, Act.begun?, first]
  | finish none => simp [enqueued, begun, Router.stopDelivering]
  | call => simp [enqueued, begun, Act.queued, Act.begun?]

theorem enqueued_lt (step : Step desk acts next) (orderly : desk.router.Orderly) :
    ∀ delivery ∈ enqueued acts, delivery.registration < next.router.nextNumber := by
  cases step with
  | change accepts change =>
    simpa [enqueued, Act.queued, Router.nextNumber_apply] using orderly.queuedBy_lt accepts change
  | idle | finish => simp [enqueued]
  | adopt | begin | call => simp [enqueued, Act.queued]

theorem numbered (step : Step desk acts next) (orderly : desk.router.Orderly)
    (numbered : desk.Numbered) : next.Numbered := by
  intro call member
  have source : call ∈ desk.waiting ++ (enqueued acts).flatMap Delivery.calls :=
    step.waiting ▸ List.mem_append_right _ member
  rcases List.mem_append.mp source with old | new
  · exact Nat.lt_of_lt_of_le (numbered call old) step.nextNumber_le
  · obtain ⟨delivery, queued, inside⟩ := List.mem_flatMap.mp new
    rw [(registration_of_mem_calls inside).1]
    exact step.enqueued_lt orderly delivery queued

end Step

/-! Whole runs. -/

variable {desk last : Desk I L} {acts : List (Act I L)}

theorem run_orderly (run : Run Step desk acts last) (orderly : desk.router.Orderly) :
    last.router.Orderly :=
  run.invariant (P := fun desk => desk.router.Orderly) orderly fun kept step => step.orderly kept

/-- A run up to a change, and from then on. -/
theorem split_of_changed (run : Run Step desk acts last) {before : Router I L}
    {accepts : Acceptance I L} {change : Change I L}
    (made : .changed before accepts change ∈ acts) :
    ∃ earlier later inHand, acts = earlier ++ .changed before accepts change :: later ∧
      Run Step desk earlier ⟨before, inHand⟩ ∧
      Run Step ⟨(before.apply accepts change).onDuty, inHand⟩ later last := by
  induction run with
  | still => cases made
  | onward path step ih =>
    rcases List.mem_append.mp made with early | late
    · obtain ⟨earlier, later, inHand, rfl, first, rest⟩ := ih early
      exact ⟨earlier, _, inHand, List.append_assoc .., first, rest.onward step⟩
    · cases step with
      | change =>
        cases List.mem_singleton.mp late
        exact ⟨_, [], _, rfl, path, .still⟩
      | idle | finish => cases late
      | adopt | begin | call => cases List.mem_singleton.mp late

theorem orderly_of_changed (run : Run Step desk acts last) (orderly : desk.router.Orderly)
    {before : Router I L} {accepts : Acceptance I L} {change : Change I L}
    (made : .changed before accepts change ∈ acts) : before.Orderly := by
  obtain ⟨_, _, _, _, earlier, _⟩ := split_of_changed run made
  exact run_orderly earlier orderly

theorem run_settled (run : Run Step desk acts last) (settled : desk.Settled) : last.Settled :=
  run.invariant (P := Settled) settled fun kept step => step.settled kept

theorem turns_orderly (run : Run Turn desk acts last) (orderly : desk.router.Orderly) :
    last.router.Orderly :=
  run.invariant (P := fun desk => desk.router.Orderly) orderly fun kept turn => turn.orderly kept

theorem turns_numbered (run : Run Turn desk acts last) (orderly : desk.router.Orderly)
    (numbered : desk.Numbered) : last.Numbered := by
  induction run with
  | still => exact numbered
  | onward path turn ih =>
    cases turn with
    | step step => exact step.numbered (turns_orderly path orderly) ih
    | loss loss => exact loss.numbered ih

theorem turns_nextNumber_le (run : Run Turn desk acts last) :
    desk.router.nextNumber ≤ last.router.nextNumber := by
  induction run with
  | still => exact Nat.le_refl _
  | onward path turn ih => exact Nat.le_trans ih turn.nextNumber_le

/-- Every delivery that was queued is begun once, in the order of the queue, but for those that are
still pending. -/
theorem run_pending (run : Run Step desk acts last) :
    desk.router.pending ++ enqueued acts = begun acts ++ last.router.pending := by
  induction run with
  | still => simp [enqueued, begun]
  | onward path step ih =>
    rw [enqueued_append, ← List.append_assoc, ih, List.append_assoc, step.pending, begun_append,
      List.append_assoc]

/-- Every call that was queued is made once, in the order of the queue, but for those that still
wait. -/
theorem run_waiting (run : Run Step desk acts last) :
    desk.waiting ++ (enqueued acts).flatMap Delivery.calls = called acts ++ last.waiting := by
  induction run with
  | still => simp [enqueued, called]
  | onward path step ih =>
    rw [enqueued_append, List.flatMap_append, ← List.append_assoc, ih, List.append_assoc,
      step.waiting, called_append, List.append_assoc]

/-- Whatever happens, no other calls are made than those that were queued, each at most once and in
the order of the queue. -/
theorem turns_waiting (run : Run Turn desk acts last) :
    (called acts ++ last.waiting).Sublist
      (desk.waiting ++ (enqueued acts).flatMap Delivery.calls) := by
  induction run with
  | still => simp [enqueued, called]
  | @onward before middle now last path turn ih =>
    have onwards : (called now ++ last.waiting).Sublist
        (middle.waiting ++ (enqueued now).flatMap Delivery.calls) := by
      cases turn with
      | step step => rw [step.waiting]
      | loss loss => simpa [enqueued, called] using loss.waiting
    rw [called_append, enqueued_append, List.flatMap_append, List.append_assoc,
      ← List.append_assoc desk.waiting]
    refine (onwards.append_left (called before)).trans ?_
    rw [← List.append_assoc]
    exact ih.append_right _

end Desk
end RpcRouting
