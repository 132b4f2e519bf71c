import RpcRouting.Proofs.Router.Leaving
import RpcRouting.Proofs.Session.Runs
/-! What a listener hears after its handle has been closed. Closing takes the registration out of the
router before it returns, but leaves in the queue what has been queued for it. -/
namespace RpcRouting.Session.State
variable {s t u : State} {router registration handle : Nat} {rest : List Frame}
  {acts : List (Act Server Watcher)}

/-- The registration with a router that a release takes back, as long as everything on the way is
alive. -/
def subscription? (s : State) : Release → Option (Nat × Nat)
  | .subscription router registration =>
    if s.routerAlive router then some (router, registration) else none
  | .facadeListener facade id =>
    match ((s.facade? facade).bind (·.roster.listener? id)).bind (·.release) with
    | some (.subscription router registration) =>
      if s.rosterAlive facade ∧ s.routerAlive router then some (router, registration) else none
    | _ => none
  | _ => none

/-- The registration of a listener with a router that an open handle stands for. -/
def listening? (s : State) (handle : Nat) : Option (Nat × Nat) :=
  ((s.handles[handle]?).bind (·.release)).bind s.subscription?

/-- A session that is about to take a registration out of a router, after other work perhaps, and
with more work to do before it goes on with the rest. -/
inductive Closing (router registration : Nat) (rest : List Frame) : State → Prop
  | change {s : State} (above : List Frame) (calm : s.panic = none)
      (top : s.frames = .change router (.unlisten registration) :: (above ++ rest)) :
      Closing router registration rest s
  | work {s : State} {frame : Frame} (above : List Frame) (calm : s.panic = none)
      (top : s.frames = frame :: (above ++ rest)) (quiet : frame.isQuiet = true)
      (next : Closing router registration rest s.advance) : Closing router registration rest s

theorem Closing.deeper (closing : Closing router registration rest s) : s.frames ≠ rest := by
  have deeper : rest.length < s.frames.length := by
    cases closing with
    | change above calm top | work above calm top =>
      rw [top, List.length_cons, List.length_append]
      omega
  intro same
  rw [same] at deeper
  exact Nat.lt_irrefl _ deeper

/-! How closing proceeds. -/

theorem any_modify {α : Type} {p : α → Bool} {f : α → α} (same : ∀ item, p (f item) = p item)
    (items : List α) (index : Nat) : (items.modify index f).any p = items.any p := by
  induction items generalizing index with
  | nil => simp
  | cons head tail ih =>
    cases index with
    | zero => simp [same]
    | succ index => simp [ih]

/-- Frames on top of the stack take nothing from what keeps a router alive. -/
theorem routerAlive_push (frames : List Frame) (alive : s.routerAlive router = true) :
    (s.push frames).routerAlive router = true := by
  unfold routerAlive isKeptAlive at alive ⊢
  simp only [push, List.any_append, Bool.or_eq_true] at alive ⊢
  tauto

theorem routerAlive_below {frame : Frame} (alive : (s.push [frame]).routerAlive router = true)
    (idle : frame.keepsAlive (.router router) = false) : s.routerAlive router = true := by
  unfold routerAlive isKeptAlive at alive ⊢
  simpa [push, idle] using alive

theorem routerAlive_modifyRoster (facade : Nat)
    (f : Roster Nat Server Handle → Roster Nat Server Handle) (router : Nat) :
    (s.modifyRoster facade f).routerAlive router = s.routerAlive router := by
  have same := any_modify
    (p := fun facade : Facade => facade.life == .alive && facade.uses router)
    (f := fun facade => { facade with roster := f facade.roster }) (fun _ => rfl) s.facades facade
  unfold routerAlive
  simp only [modifyRoster, modifyFacade, same]
  rfl

theorem enter_close {underlying : Handle}
    (release : underlying.release = some (.subscription router registration))
    (alive : s.routerAlive router = true) :
    s.enter (.close underlying) = s.push [.change router (.unlisten registration)] := by
  simp only [enter, State.close, release, State.release, alive, if_true]

theorem Closing.close {underlying : Handle} (above : List Frame) (calm : s.panic = none)
    (release : underlying.release = some (.subscription router registration))
    (alive : s.routerAlive router = true) (top : s.frames = .close underlying :: (above ++ rest)) :
    Closing router registration rest s := by
  obtain ⟨below, rfl, frames⟩ := eq_push_of_top top
  refine .work above calm top rfl ?_
  rw [advance_push (s := below) calm, enter_close release (routerAlive_below alive rfl)]
  exact .change above calm (congrArg _ frames)

theorem Closing.releaseListener {facade id : Nat} (above : List Frame) (calm : s.panic = none)
    {underlying : Handle} (held : (s.facade? facade).bind (·.roster.listener? id) = some underlying)
    (release : underlying.release = some (.subscription router registration))
    (alive : s.routerAlive router = true)
    (top : s.frames = .releaseListener facade id :: (above ++ rest)) :
    Closing router registration rest s := by
  obtain ⟨below, rfl, frames⟩ := eq_push_of_top top
  have entered : below.enter (.releaseListener facade id) =
      (below.modifyRoster facade (·.removeListener id)).push
        [.close underlying, .finishListenerRelease id] := by
    simp only [enter, beginListenerRelease,
      show (below.facade? facade).bind (·.roster.listener? id) = some underlying from held]
  refine .work above calm top rfl ?_
  rw [advance_push (s := below) calm, entered]
  refine .close (.finishListenerRelease id :: above) calm release ?_ ?_
  · refine routerAlive_push _ ?_
    rw [routerAlive_modifyRoster]
    exact routerAlive_below alive rfl
  · exact congrArg (fun frames => .close underlying :: .finishListenerRelease id :: frames) frames

/-- A handle that is closed takes its registration out of the router before it returns. -/
theorem Closing.closeKept (calm : s.panic = none) (top : s.frames = .closeKept handle :: rest)
    (stands : s.listening? handle = some (router, registration)) :
    Closing router registration rest s := by
  obtain ⟨release, held, stands⟩ := Option.bind_eq_some_iff.mp stands
  obtain ⟨found, kept, releases⟩ := Option.bind_eq_some_iff.mp held
  obtain ⟨below, rfl, frames⟩ := eq_push_of_top top
  have entered : below.enter (.closeKept handle) =
      State.release { below with handles := below.handles.modify handle (·.close) } release := by
    simp only [enter, State.closeKept, show below.handles[handle]? = some found from kept,
      State.close, releases]
  refine .work [] calm top rfl ?_
  rw [advance_push (s := below) calm, entered]
  cases release with
  | offer | facadeImplementation => cases stands
  | subscription direct id =>
    simp only [subscription?, Option.ite_none_right_eq_some, Option.some.injEq,
      Prod.mk.injEq] at stands
    obtain ⟨alive, rfl, rfl⟩ := stands
    have there : State.routerAlive { below with handles := below.handles.modify handle (·.close) }
        direct = true := routerAlive_below alive rfl
    rw [State.release, if_pos there]
    exact .change [] calm (congrArg _ frames)
  | facadeListener facade id =>
    simp only [subscription?] at stands
    split at stands
    · rename_i found number underlies
      simp only [Option.ite_none_right_eq_some, Option.some.injEq, Prod.mk.injEq] at stands
      obtain ⟨⟨roster, alive⟩, rfl, rfl⟩ := stands
      obtain ⟨underlying, entry, release⟩ := Option.bind_eq_some_iff.mp underlies
      have there : State.rosterAlive
          { below with handles := below.handles.modify handle (·.close) } facade = true := roster
      rw [State.release, if_pos there]
      refine .releaseListener [.letGo (.roster facade)] calm entry release ?_ ?_
      · exact routerAlive_push _ (routerAlive_below alive rfl)
      · exact congrArg (fun frames => .releaseListener facade id ::
          .letGo (.roster facade) :: frames) frames
    · cases stands

theorem left_of_unlisten (known : s.Known) (attends : s.Attends router) (calm : s.panic = none)
    {below : List Frame} (top : s.frames = .change router (.unlisten registration) :: below)
    (older : registration < (s.desk router).router.nextNumber) :
    (s.advance.desk router).Left registration := by
  rw [(advance_change known attends calm top).2.2]
  constructor
  · rw [Router.nextNumber_onDuty, Router.nextNumber_apply]
    exact Nat.lt_of_lt_of_le older (Router.nextNumber_le_amend _ _ _)
  · intro subscription member
    obtain ⟨before, kept, rfl⟩ := Router.exists_of_mem_apply member
    rw [registration_refresh]
    simpa using (List.mem_filter.mp kept).2

/-- While a session closes a registration it either is still about to take it out of the router, or
has done so. -/
theorem Closing.run (closing : Closing router registration rest s) (known : s.Known)
    (attends : s.Attends router) (older : registration < (s.desk router).router.nextNumber)
    (run : Run (Move router) s acts t) :
    Closing router registration rest t ∨ (t.desk router).Left registration := by
  induction run with
  | still => exact .inl closing
  | onward path move ih =>
    obtain ⟨attended, turns⟩ := run_turns path known attends
    have known' := run_known path known
    have older' := Nat.lt_of_lt_of_le older (Desk.turns_nextNumber_le turns)
    rcases ih with closing | left
    · cases closing with
      | change above calm top =>
        cases move with
        | work => exact .inr (left_of_unlisten known' attended calm top older')
        | take idle | land idle => cases top.symm.trans idle
      | work above calm top quiet next =>
        cases move with
        | work => exact .inl next
        | take idle | land idle => cases top.symm.trans idle
    · exact .inr (left.turns (.single (Move.turn move known' attended).2.1)).1

/-- When a listener's handle has been closed, its registration has left the router; and from then on
it hears what waited for it at that moment and nothing else. -/
theorem closed_listener_hears_what_waits {settings : RouterSettings} {wiring : Wiring}
    {earlier : List (Act Server Watcher)} {watcher : Watcher} (there : router < 2)
    (before : Run (Move router) (start settings wiring) earlier s) (calm : s.panic = none)
    (top : s.frames = .change router (.listen watcher) :: rest) :
    ∃ found, s.router? router = some found ∧
      (∀ between closing handle rest during u, Run (Move router) s.advance between closing →
        closing.panic = none → closing.frames = .closeKept handle :: rest →
        closing.listening? handle = some (router, found.nextNumber) →
        Run (Move router) closing during u → u.frames = rest →
        (u.desk router).Left found.nextNumber) ∧
      (∀ between u acts t, Run (Move router) s.advance between u →
        (u.desk router).Left found.nextNumber →
        (Run (Move router) u acts t → (callsTo found.nextNumber (called acts)).Sublist
          (callsTo found.nextNumber (u.desk router).waiting)) ∧
        (Run (CalmMove router) u acts t → callsTo found.nextNumber (called acts) ++
          callsTo found.nextNumber (t.desk router).waiting =
            callsTo found.nextNumber (u.desk router).waiting)) := by
  obtain ⟨known, attends, -⟩ := turns_of_start there before
  obtain ⟨known', attends', entered⟩ := advance_change known attends calm top
  refine ⟨(s.desk router).router, router?_desk attends.there, ?_, ?_⟩
  · intro between closing handle rest during u path calm top stands ends returned
    obtain ⟨attended, turns⟩ := run_turns path known' attends'
    have older := Desk.turns_nextNumber_le turns
    rw [entered, Router.nextNumber_onDuty, Router.nextNumber_apply] at older
    rcases (Closing.closeKept calm top stands).run (run_known path known') attended older ends with
      still | left
    · exact absurd returned still.deeper
    · exact left
  · intro between u acts t path left
    have attended := (run_turns path known' attends').1
    constructor
    · intro later
      exact (List.sublist_append_left _ _).trans
        (left.turns (run_turns later (run_known path known') attended).2).2
    · intro later
      exact (left.run (run_steps later (run_known path known') attended).2.2).2

/-! A listener that closes the handle of another as soon as it hears of something. -/

def closer : Step :=
  .listen .router "first" "closer" (some ⟨none, [[.close "second"]], []⟩)

/-- A session whose second listener is about to be registered. -/
def aboutToJoin : State :=
  State.take { (start .default .single).after 40 [closer] with log := [] }
    (.listen .router "second" "closed" (some ⟨none, [], []⟩))

/-- A session whose first listener is about to close the handle of the second one, while both are to
be told of an implementation. -/
def aboutToClose : State :=
  State.run 4 (State.take { State.run 40 aboutToJoin.advance with log := [] }
    (.register .router "served" "server" (some ⟨1, .echo, []⟩) [⟨"a", none⟩]))

theorem run_aboutToJoin :
    Run (CalmMove 0) (start .default .single) ((start .default .single).actsAfter 0 40 [closer] ++ [])
      aboutToJoin :=
  (run_after (by decide)).onward ⟨.take (by cbv) (by cbv) _, by decide⟩

theorem run_aboutToClose :
    ∃ between, Run (CalmMove 0) aboutToJoin.advance between aboutToClose := by
  have joined : Run (CalmMove 0) aboutToJoin.advance (aboutToJoin.advance.actsFor 0 40)
      (State.run 40 aboutToJoin.advance) := run_calm_work (by decide)
  exact ⟨_, (joined.onward ⟨.take (by cbv) (by cbv) _, by decide⟩).append
    (run_calm_work (by decide))⟩

theorem closed_listener_hears_what_waits_in_turn :
    ∃ found, aboutToJoin.router? 0 = some found ∧
      ((State.run 2 aboutToClose).desk 0).Left found.nextNumber ∧
      callsTo found.nextNumber (called ((State.run 2 aboutToClose).actsFor 0 40)) ++
          callsTo found.nextNumber ((State.run 40 (State.run 2 aboutToClose)).desk 0).waiting =
        callsTo found.nextNumber ((State.run 2 aboutToClose).desk 0).waiting := by
  obtain ⟨between, joined⟩ := run_aboutToClose
  have top : aboutToJoin.frames =
      .change 0 (.listen (.native 1)) :: aboutToJoin.frames.tail := by cbv
  obtain ⟨found, there, leaves, hears⟩ := closed_listener_hears_what_waits (by decide)
    (run_aboutToJoin.mono And.left) (by cbv) top
  have second : (aboutToJoin.router? 0).map (·.nextNumber) = some 2 := by decide
  rw [there, Option.map_some, Option.some.injEq] at second
  have left := leaves between aboutToClose 1 aboutToClose.frames.tail
    (aboutToClose.actsFor 0 2) (State.run 2 aboutToClose) (joined.mono And.left) (by cbv) (by cbv)
    (by rw [second]; decide) (run_work 0 2 aboutToClose) (by cbv)
  have path := (joined.mono And.left).append (run_work 0 2 aboutToClose)
  exact ⟨found, there, left, (hears _ _ _ _ path left).2 (run_calm_work (by decide))⟩

/-- A listener may be called when its handle has been closed. -/
theorem closed_listener_still_called :
    ¬ ∀ settings wiring router earlier closing handle rest registration during u acts t,
      Run (CalmMove router) (start settings wiring) earlier closing → closing.panic = none →
      closing.frames = .closeKept handle :: rest →
      closing.listening? handle = some (router, registration) →
      Run (CalmMove router) closing during u → u.frames = rest →
      Run (CalmMove router) u acts t → callsTo registration (called acts) = [] := by
  intro never
  obtain ⟨between, joined⟩ := run_aboutToClose
  have first : Run (CalmMove 0) aboutToJoin (aboutToJoin.acts 0) aboutToJoin.advance :=
    .single ⟨.work (by decide), by decide⟩
  have none := never .default .single 0 _ aboutToClose 1 aboutToClose.frames.tail 2
    (aboutToClose.actsFor 0 2) (State.run 2 aboutToClose)
    ((State.run 2 aboutToClose).actsFor 0 40) (State.run 40 (State.run 2 aboutToClose))
    ((run_aboutToJoin.append first).append joined) (by cbv) (by cbv) (by decide)
    (run_calm_work (by decide)) (by cbv) (run_calm_work (by decide))
  have some : (callsTo 2 (called ((State.run 2 aboutToClose).actsFor 0 40))).length = 1 := by
    decide
  rw [none] at some
  cases some

end RpcRouting.Session.State
