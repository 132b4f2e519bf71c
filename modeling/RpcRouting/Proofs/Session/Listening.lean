import RpcRouting.Proofs.Router.Telling
import RpcRouting.Proofs.Session.Runs
/-! What a registered listener hears. Whatever happens to the router meanwhile, its calls never tell
it what it knows already, and whenever all work is done it knows what it could see at the latest
change. -/
namespace RpcRouting.Session.State
open Current (Identifier)

variable {s t : State} {router : Nat} {earlier acts : List (Act Server Watcher)} {watcher : Watcher}

/-- What the calls on account of a registration tell its listener, from what it knew at first. -/
structure Hears (router : Nat) (known : Finset Identifier) (registration : Nat) (watcher : Watcher)
    (accepts : Acceptance Server Watcher) (calls : List (Call Watcher)) (t : State)
    (found : Router Server Watcher) : Prop extends t.Announces router where
  own : ∀ call ∈ calls, call.listener = watcher
  news : News known calls
  /-- With all work done the listener knows what the implementations serve that it accepted at the
  latest change. -/
  current : t.frames = [] → registration ∈ found.subscriptions.map (·.registration) →
    ∀ rpc, rpc ∈ heard known calls ↔
      ∃ offer ∈ found.offers, accepts watcher offer.implementation = true ∧ rpc ∈ offer.rpcs

/-- From its registration on a listener hears rightly, in every run in which no panic passes through
the deliveries of its router. -/
theorem listener_hears {settings : RouterSettings} {wiring : Wiring} (there : router < 2)
    (before : Run (Move router) (start settings wiring) earlier s) (calm : s.panic = none)
    {rest : List Frame} (top : s.frames = .change router (.listen watcher) :: rest)
    (run : Run (CalmMove router) s.advance acts t) :
    ∃ found after accepts, s.router? router = some found ∧ t.router? router = some after ∧
      latestAcceptance (.changed found s.accepts (.listen watcher) :: acts) = some accepts ∧
      Hears router
        (if found.settings.replayOnListen then ∅ else (found.visible s.accepts watcher).toFinset)
        found.nextNumber watcher accepts (callsTo found.nextNumber (called acts)) t after := by
  obtain ⟨known, attends, path⟩ := turns_of_start there before
  obtain ⟨known', attends', entered⟩ := advance_change known attends calm top
  obtain ⟨known'', attended, later⟩ := run_steps run known' attends'
  rw [entered] at later
  have orderly := Desk.turns_orderly path (.ofSettings _)
  have numbered := Desk.turns_numbered path (.ofSettings _) nofun
  have listened : Desk.Step (s.desk router)
      [.changed (s.desk router).router s.accepts (.listen watcher)]
      ⟨((s.desk router).router.apply s.accepts (.listen watcher)).onDuty,
        (s.desk router).inHand⟩ := .change s.accepts (.listen watcher)
  have whole := (Run.single listened).append later
  -- A panic before may have left deliveries behind, but the registration takes them up.
  have resumed := Desk.settled_change (s.desk router).router s.accepts (.listen watcher)
    attends.staffed.inHand
  have settled := Desk.run_settled later resumed
  have calls := Desk.callsTo_of_run whole numbered
  have tells := (Tells.start orderly s.accepts watcher).run
    (listened.orderly orderly) later
  have atFirst : ((s.desk router).router.toldAtFirst s.accepts watcher).toFinset =
      if (s.desk router).router.settings.replayOnListen then ∅
      else ((s.desk router).router.visible s.accepts watcher).toFinset := by
    unfold Router.toldAtFirst
    split <;> rfl
  rw [atFirst] at tells
  obtain ⟨-, own, news, told⟩ := tells
  rw [← calls] at own news
  obtain ⟨accepts, latest⟩ := latestAcceptance_of_changed (s.desk router).router s.accepts
    (.listen watcher) acts
  refine ⟨(s.desk router).router, (t.desk router).router, accepts, router?_desk attends.there,
    router?_desk attended.there, latest, known''.announces attended, ?_, ?_, ?_⟩
  · exact fun call member => own call (List.mem_append_left _ member)
  · exact news.left
  · intro rest opened rpc
    obtain ⟨subscription, member, same⟩ := List.mem_map.mp opened
    have nothing := settled.waiting (attended.staffed.rest rest)
    obtain ⟨listens, knows⟩ := told subscription member same
    have seen := Desk.told_of_latest whole latest subscription member
    rw [listens] at seen
    rw [← calls, nothing, show callsTo _ ([] : List (Call Watcher)) = [] from rfl,
      List.append_nil] at knows
    rw [← mem_visible, ← List.mem_toFinset, ← seen, knows]
    rfl

/-! A listener that changes its mind. -/

/-- A session about to register a listener. -/
def aboutToListen : State :=
  (start .default .single).take
    (.listen .router "handle" "listener" (some ⟨some (.rejecting []), [], []⟩))

/-- Two implementations come, then the listener rejects the dear one, then another one comes. -/
def changedMind : List Step :=
  [.register .router "first" "early" (some ⟨1, .echo, []⟩) [⟨"a", none⟩],
    .register .router "second" "dear" (some ⟨5, .echo, []⟩) [⟨"b", none⟩],
    .setRejected "listener" (Preference.rejecting [5]),
    .register .router "third" "late" (some ⟨1, .echo, []⟩) [⟨"c", none⟩]]

theorem listener_hears_changed_mind :
    let acts := aboutToListen.advance.actsFor 0 40 ++
      (State.run 40 aboutToListen.advance).actsAfter 0 40 changedMind
    ∃ found after accepts, aboutToListen.router? 0 = some found ∧
      ((State.run 40 aboutToListen.advance).after 40 changedMind).router? 0 = some after ∧
      latestAcceptance (.changed found aboutToListen.accepts (.listen (.native 0)) :: acts) =
        some accepts ∧
      Hears 0 (if found.settings.replayOnListen then ∅
          else (found.visible aboutToListen.accepts (.native 0)).toFinset)
        found.nextNumber (.native 0) accepts (callsTo found.nextNumber (called acts))
        ((State.run 40 aboutToListen.advance).after 40 changedMind) after ∧
      (called acts).map (fun call => (call.registration, call.available,
        call.rpcs.map (·.render))) =
          [(1, true, ["a"]), (1, true, ["b"]), (1, false, ["b"]), (1, true, ["c"])] := by
  have before : Run (CalmMove 0) (start .default .single) [] aboutToListen :=
    .single ⟨.take rfl rfl _, rfl⟩
  have top : aboutToListen.frames =
      .change 0 (.listen (.native 0)) :: aboutToListen.frames.tail := by cbv
  have work : Run (CalmMove 0) aboutToListen.advance (aboutToListen.advance.actsFor 0 40)
      (State.run 40 aboutToListen.advance) := run_calm_work (by decide)
  have steps : Run (CalmMove 0) (State.run 40 aboutToListen.advance) _
      ((State.run 40 aboutToListen.advance).after 40 changedMind) := run_after (by decide)
  obtain ⟨found, after, accepts, there, stands, latest, hears⟩ :=
    listener_hears (by decide) (before.mono And.left) rfl top (work.append steps)
  exact ⟨found, after, accepts, there, stands, latest, hears, by decide⟩

end RpcRouting.Session.State
