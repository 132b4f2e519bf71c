import RpcRouting.Proofs.Router.History
import RpcRouting.Proofs.Router.Ranking
import RpcRouting.Proofs.Session.Runs
/-! What can be seen of a router while a session runs. The directory is made afresh by the change
itself, however many deliveries are still to come, so that it is never behind what is open. -/
namespace RpcRouting.Session.State
variable {s : State} {router : Nat} {acts : List (Act Server Watcher)}

/-- A step that asks whether an identifier is available answers what the directory says. -/
theorem answer_isAvailable {found : Router Server Watcher} {target : Target}
    (direct : s.targets.facade? target = none) (aimed : s.targets.router? target = some router)
    (there : s.router? router = some found) {text : IdentifierText} {rpc : Current.Identifier}
    (read : text.readCurrent = .ok rpc) :
    (s.take (.isAvailable target text)).answer = .truth (found.isAvailable rpc) := by
  simp only [take, withTarget, direct, aimed, there, withRead, read, reply]

/-- At any time in any run, also while listeners are called and change something, a router publishes
what its history says is open, and answers accordingly. -/
theorem publishes_open_offers {settings : RouterSettings} {wiring : Wiring} (there : router < 2)
    (run : Run (Move router) (start settings wiring) acts s) :
    ∃ found, s.router? router = some found ∧ found.Publishes (openOffers acts) ∧
      ∀ target text rpc, s.targets.facade? target = none →
        s.targets.router? target = some router → text.readCurrent = .ok rpc →
          (s.take (.isAvailable target text)).answer =
            .truth (decide (∃ offer ∈ openOffers acts, rpc ∈ offer.rpcs)) := by
  obtain ⟨-, attends, turns⟩ := turns_of_start there run
  have found := router?_desk attends.there
  have publishes := (Desk.turns_orderly turns (.ofSettings _)).publishes
  rw [Desk.turns_offers _ turns] at publishes
  refine ⟨(s.desk router).router, found, publishes, ?_⟩
  intro target text rpc direct aimed read
  have listed : (s.desk router).router.isAvailable rpc =
      decide (∃ offer ∈ openOffers acts, rpc ∈ offer.rpcs) := by
    rw [Bool.eq_iff_iff, publishes.isAvailable, decide_eq_true_eq]
  rw [answer_isAvailable direct aimed found read, listed]

/-- A listener that, as soon as it hears of one implementation, registers others, closes one of them
again and registers it anew. -/
def bustling : List Step :=
  [.register .router "first" "dear" (some ⟨5, .echo, []⟩) [⟨"a", none⟩, ⟨"b", none⟩],
    .setCost "dear" 0,
    .listen .router "handle" "listener" (some ⟨none,
      [[.register .router "second" "cheap" (some ⟨1, .echo, []⟩) [⟨"a", none⟩, ⟨"c", none⟩],
        .register .router "third" "late" (some ⟨5, .echo, []⟩) [⟨"b", none⟩],
        .close "second",
        .register .router "fourth" "cheap" none [⟨"b", none⟩]]], []⟩)]

/-- The listener is still being called, and two deliveries are still to come. -/
theorem publishes_open_offers_bustling :
    let acts := (start .default .single).actsAfter 0 24 bustling
    let now := (start .default .single).after 24 bustling
    (∃ found, now.router? 0 = some found ∧ found.Publishes (openOffers acts) ∧
      ∀ target text rpc, now.targets.facade? target = none →
        now.targets.router? target = some 0 → text.readCurrent = .ok rpc →
          (now.take (.isAvailable target text)).answer =
            .truth (decide (∃ offer ∈ openOffers acts, rpc ∈ offer.rpcs))) ∧
      now.frames ≠ [] ∧ (now.router? 0).map (·.pending.length) = some 2 ∧
      (now.router? 0).map (fun found => found.directory.pages.map fun (type, page) =>
        (type.render, page.global.map fun candidate => (candidate.cost, candidate.registration))) =
          some [("a", [(5, 1)]), ("b", [(1, 5), (5, 1), (5, 4)])] := by
  have run : Run (CalmMove 0) (start .default .single)
      ((start .default .single).actsAfter 0 24 bustling)
      ((start .default .single).after 24 bustling) := run_after (by decide)
  exact ⟨publishes_open_offers (by decide) (run.mono And.left),
    List.ne_nil_of_length_pos (by decide), by decide, by decide⟩

end RpcRouting.Session.State
