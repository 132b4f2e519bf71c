import RpcRouting.Proofs.Session.Runs
/-! The order of deliveries. However deep the changes are nested that listeners make while they are
called, what is queued is delivered once, in the order of the queue, by whoever has the duty. -/
namespace RpcRouting.Session.State
variable {s : State} {router : Nat} {acts : List (Act Server Watcher)}

/-- How a router has delivered in a run so far, and what comes next. -/
structure DeliversInOrder (router : Nat) (acts : List (Act Server Watcher)) (s : State)
    (found : Router Server Watcher) : Prop extends s.Announces router where
  /-- What the changes have queued is begun once, in their order, as far as it is not pending. -/
  begun : enqueued acts = begun acts ++ found.pending
  /-- The calls of what has been begun are made once, in that order, as far as they do not wait on
  the stack. -/
  called : (RpcRouting.begun acts).flatMap Delivery.calls = called acts ++ s.inHand router
  /-- One change queues in the order in which the listeners were registered. -/
  sorted : ∀ before accepts change, Act.changed before accepts change ∈ acts →
    ((before.queuedBy accepts change).map (·.registration)).Pairwise (· < ·)
  /-- In one delivery a listener loses first and gains afterwards. -/
  halves : ∀ delivery ∈ RpcRouting.begun acts, delivery.calls.Pairwise fun first second =>
    first.available = false ∧ second.available = true
  /-- A change made while deliveries are under way is public at once, and tells nobody anything by
  itself. -/
  nested : ∀ change rest, s.panic = none → s.frames = .change router change :: rest →
    .deliver router ∈ rest → s.advance.frames = rest ∧
      s.advance.notifications = s.notifications ∧
      ∃ after, s.advance.router? router = some after ∧
        after.offers = (found.amend s.accepts change).offers ∧
        after.directory = .ofOffers after.offers
  /-- With all work done nothing is left over. -/
  settled : s.frames = [] → found.pending = [] ∧ found.delivering = false ∧
    RpcRouting.called acts = (enqueued acts).flatMap Delivery.calls

theorem pairwise_calls (delivery : Delivery Watcher) :
    delivery.calls.Pairwise fun first second =>
      first.available = false ∧ second.available = true :=
  List.Pairwise.filter _ (by simp)

/-- A change made while deliveries are under way leaves the stack as it is. -/
theorem advance_nested {found : Router Server Watcher} {change : Change Server Watcher}
    {rest : List Frame} (calm : s.panic = none) (there : s.router? router = some found)
    (busy : found.delivering = true) (top : s.frames = .change router change :: rest) :
    s.advance.frames = rest ∧ s.advance.notifications = s.notifications ∧
      s.advance.router? router = some (found.apply s.accepts change).onDuty := by
  obtain ⟨below, rfl, rfl⟩ := eq_push_of_top top
  rw [advance_push (s := below) calm]
  have changes := change_changes (s := below) there change
  have idle : dutyAfter router found (found.apply below.accepts change).onDuty = [] := by
    refine if_pos ?_
    rw [Router.onDuty_eq, Router.delivering_apply, busy, Bool.true_or]
  refine ⟨?_, changes.notifications, changes.router?_eq ?_⟩
  · rw [enter, changes.frames, idle, List.nil_append]
  · exact (List.getElem?_eq_some_iff.mp there).1

/-- In every run in which no panic passes through its deliveries, a router delivers in order. -/
theorem delivers_in_order {settings : RouterSettings} {wiring : Wiring}
    (run : Run (CalmMove router) (start settings wiring) acts s) (there : router < 2) :
    ∃ found, s.router? router = some found ∧ DeliversInOrder router acts s found := by
  obtain ⟨known, attends, path⟩ := steps_of_start there run
  have queue := Desk.run_pending path
  have waiting := Desk.run_waiting path
  have found := router?_desk attends.there
  refine ⟨(s.desk router).router, found, ?_⟩
  have begun : enqueued acts = begun acts ++ (s.desk router).router.pending := queue
  have called : (RpcRouting.begun acts).flatMap Delivery.calls =
      called acts ++ s.inHand router := by
    rw [begun, List.flatMap_append] at waiting
    have same : (RpcRouting.begun acts).flatMap Delivery.calls ++
        (s.desk router).router.pending.flatMap Delivery.calls =
          called acts ++ s.inHand router ++ (s.desk router).router.pending.flatMap Delivery.calls := by
      rw [List.append_assoc]
      exact waiting
    exact List.append_cancel_right same
  refine ⟨known.announces attends, begun, called, ?_, fun delivery _ => pairwise_calls delivery, ?_,
    ?_⟩
  · intro before accepts change member
    exact (Desk.orderly_of_changed path (.ofSettings _) member).queuedBy_sorted accepts change
  · intro change rest calm top duty
    have busy := attends.staffed.delivering (top ▸ List.mem_cons_of_mem _ duty)
    obtain ⟨frames, silent, after⟩ := advance_nested calm found busy top
    refine ⟨frames, silent, _, after, ?_, ?_⟩
    · rw [Router.offers_onDuty, Router.offers_apply]
    · rw [Router.directory_onDuty, Router.offers_onDuty]
      rfl
  · intro rest
    have free := attends.staffed.rest rest
    have settled := Desk.run_settled path ⟨fun _ => rfl, fun _ => rfl⟩
    have empty := settled.pending free
    refine ⟨empty, free, ?_⟩
    rw [begun, empty, List.append_nil, called, State.inHand, rest, List.filterMap_nil,
      List.append_nil]

/-- A listener that registers an implementation as soon as it hears of another one. -/
def reentrant : List Step :=
  [.listen .router "handle" "listener" (some ⟨none,
      [[.register .router "second" "late" (some ⟨1, .echo, []⟩) [⟨"b", none⟩]]], []⟩),
    .register .router "first" "early" (some ⟨1, .echo, []⟩) [⟨"a", none⟩]]

theorem delivers_in_order_reentrant :
    ∃ found, ((start .default .single).after 40 reentrant).router? 0 = some found ∧
      DeliversInOrder 0 ((start .default .single).actsAfter 0 40 reentrant)
        ((start .default .single).after 40 reentrant) found ∧
      (RpcRouting.called ((start .default .single).actsAfter 0 40 reentrant)).map
        (fun call => call.rpcs.map (·.render)) = [["a"], ["b"]] := by
  have run : Run (CalmMove 0) (start .default .single)
      ((start .default .single).actsAfter 0 40 reentrant)
      ((start .default .single).after 40 reentrant) := run_after (by decide)
  obtain ⟨found, there, order⟩ := delivers_in_order run (by decide)
  exact ⟨found, there, order, by decide⟩

end RpcRouting.Session.State
