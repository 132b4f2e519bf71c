import Mathlib
import RpcRouting.Proofs.Router.Remembering
import RpcRouting.Proofs.Session.Listening
/-! The list that is kept for a registered listener, and the order in which it hears that identifiers
have become unavailable. -/
namespace RpcRouting.Session.State
open Current (Identifier)

variable {s t : State} {router : Nat} {earlier acts : List (Act Server Watcher)} {watcher : Watcher}

/-- From its registration on, whatever happens, the router keeps for a listener what it has told it
and not withdrawn, in the order of telling as long as what is seen follows on what has been told. -/
theorem listener_remembered {settings : RouterSettings} {wiring : Wiring} (there : router < 2)
    (before : Run (Move router) (start settings wiring) earlier s) (calm : s.panic = none)
    {rest : List Frame} (top : s.frames = .change router (.listen watcher) :: rest)
    (run : Run (Move router) s.advance acts t) :
    ∃ found after, s.router? router = some found ∧ t.router? router = some after ∧
      let first := found.toldAtFirst s.accepts watcher
      let history := .changed found s.accepts (.listen watcher) :: acts
      Remembers first found.nextNumber history after ∧
      (callsTo found.nextNumber (called acts)).Sublist (queuedFor found.nextNumber history) ∧
      (Run (CalmMove router) s.advance acts t →
        callsTo found.nextNumber (called acts) ++
            callsTo found.nextNumber (t.desk router).waiting =
          queuedFor found.nextNumber history ∧
        (InOrder first (viewsOf found.nextNumber history) → WithdrawsInOrder first
          ((callsTo found.nextNumber (called acts)).map Call.content))) := by
  obtain ⟨known, attends, path⟩ := turns_of_start there before
  obtain ⟨known', attends', entered⟩ := advance_change known attends calm top
  obtain ⟨attended, later⟩ := run_turns run known' attends'
  rw [entered] at later
  have orderly := Desk.turns_orderly path (.ofSettings _)
  have numbered := Desk.turns_numbered path (.ofSettings _) nofun
  obtain ⟨remembers, fewer⟩ := Desk.remembers_of_turns orderly numbered later
  refine ⟨(s.desk router).router, (t.desk router).router, router?_desk attends.there,
    router?_desk attended.there, remembers, fewer, fun calmly => ?_⟩
  obtain ⟨-, -, steps⟩ := run_steps calmly known' attends'
  rw [entered] at steps
  exact Desk.withdraws_of_run numbered remembers steps

/-! Implementations that come and go. -/

/-- Three implementations come, of which no two serve one identifier, and the first two leave. -/
def passers : List Step :=
  [.register .router "first" "single" (some ⟨1, .echo, []⟩) [⟨"b", none⟩],
    .register .router "second" "double" (some ⟨1, .echo, []⟩) [⟨"c", none⟩, ⟨"a", none⟩],
    .register .router "third" "last" (some ⟨1, .echo, []⟩) [⟨"d", none⟩],
    .close "first", .close "second"]

theorem listener_remembered_passers :
    let acts := aboutToListen.advance.actsFor 0 40 ++
      (State.run 40 aboutToListen.advance).actsAfter 0 40 passers
    ∃ found after, aboutToListen.router? 0 = some found ∧
      ((State.run 40 aboutToListen.advance).after 40 passers).router? 0 = some after ∧
      let first := found.toldAtFirst aboutToListen.accepts (.native 0)
      let history := .changed found aboutToListen.accepts (.listen (.native 0)) :: acts
      Remembers first found.nextNumber history after ∧
      InOrder first (viewsOf found.nextNumber history) ∧
      WithdrawsInOrder first ((callsTo found.nextNumber (called acts)).map Call.content) ∧
      (called acts).map (fun call => (call.registration, call.available,
        call.rpcs.map (·.render))) = [(1, true, ["b"]), (1, true, ["c", "a"]), (1, true, ["d"]),
          (1, false, ["b"]), (1, false, ["c", "a"])] := by
  have before : Run (CalmMove 0) (start .default .single) [] aboutToListen :=
    .single ⟨.take rfl rfl _, rfl⟩
  have top : aboutToListen.frames =
      .change 0 (.listen (.native 0)) :: aboutToListen.frames.tail := by cbv
  have work : Run (CalmMove 0) aboutToListen.advance (aboutToListen.advance.actsFor 0 40)
      (State.run 40 aboutToListen.advance) := run_calm_work (by decide)
  have steps : Run (CalmMove 0) (State.run 40 aboutToListen.advance) _
      ((State.run 40 aboutToListen.advance).after 40 passers) := run_after (by decide)
  have run := work.append steps
  obtain ⟨found, after, there, stands, remembers, -, calmly⟩ :=
    listener_remembered (by decide) (before.mono And.left) rfl top (run.mono And.left)
  obtain rfl : (aboutToListen.desk 0).router = found :=
    Option.some.inj there
  have ordered := remembers.steady ⟨fun _ => true, by decide⟩
  exact ⟨_, after, there, stands, remembers, ordered, (calmly run).2 ordered, by decide⟩

/-- What two implementations serve a third one serves as well. The one registered first leaves
before there is other news, and the third one leaves last. -/
def overlapping : List Step :=
  [.register .router "first" "early" (some ⟨1, .echo, []⟩) [⟨"b", none⟩],
    .register .router "second" "later" (some ⟨1, .echo, []⟩) [⟨"a", none⟩],
    .register .router "third" "double" (some ⟨1, .echo, []⟩) [⟨"a", none⟩, ⟨"b", none⟩],
    .close "first",
    .register .router "fourth" "other" (some ⟨1, .echo, []⟩) [⟨"c", none⟩],
    .close "second", .close "third"]

/-- The identifier that a name by itself stands for. -/
def plainly (name : QualifiedName) : Identifier := .global (.create false [name])

/-- What is withdrawn may be withdrawn in another order than it was told in. -/
theorem withdrawn_out_of_order :
    ¬ ∀ settings wiring router earlier s watcher rest acts t found,
      Run (CalmMove router) (start settings wiring) earlier s → s.panic = none →
      s.frames = .change router (.listen watcher) :: rest →
      Run (CalmMove router) s.advance acts t → s.router? router = some found →
      WithdrawsInOrder (found.toldAtFirst s.accepts watcher)
        ((callsTo found.nextNumber (called acts)).map Call.content) := by
  intro always
  have before : Run (CalmMove 0) (start .default .single) [] aboutToListen :=
    .single ⟨.take rfl rfl _, rfl⟩
  have work : Run (CalmMove 0) aboutToListen.advance (aboutToListen.advance.actsFor 0 40)
      (State.run 40 aboutToListen.advance) := run_calm_work (by decide)
  have steps : Run (CalmMove 0) (State.run 40 aboutToListen.advance) _
      ((State.run 40 aboutToListen.advance).after 40 overlapping) := run_after (by decide)
  have ordered := always .default .single 0 [] aboutToListen (.native 0) aboutToListen.frames.tail _
    _ (aboutToListen.desk 0).router before rfl (by cbv) (work.append steps) rfl
  let a := plainly ⟨"a", by decide⟩
  let b := plainly ⟨"b", by decide⟩
  let c := plainly ⟨"c", by decide⟩
  have withdrawn : [a, b].Sublist [b, a, c] :=
    ordered [(true, [b]), (true, [a]), (true, [c])] [a, b] [] (by decide)
  exact absurd withdrawn (by decide)

end RpcRouting.Session.State
