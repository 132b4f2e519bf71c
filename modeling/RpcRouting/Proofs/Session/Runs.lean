import Mathlib
import RpcRouting.Proofs.Session.Moves
import RpcRouting.Scenario
/-! Runs of a session. Whatever the session does, each of its routers goes through a run of its own;
and unless a panic passes through the deliveries, nothing is lost on the way. -/
namespace RpcRouting.Session.State
variable {s t : State} {router : Nat} {frame : Frame} {acts : List (Act Server Watcher)}

/-! Panics. -/

theorem modifyRouter_missing (missing : s.router? router = none)
    (f : Router Server Watcher → Router Server Watcher) : s.modifyRouter router f = s := by
  rw [modifyRouter, List.modify_eq_self (List.getElem?_eq_none_iff.mp missing)]

/-- A panic that passes through other work than deliveries lets go what nothing keeps. -/
theorem giveUp_grows (message : String) (others : ∀ router, frame ≠ .deliver router) :
    Grows s (s.giveUp message frame) := by
  have calmed : Grows s (State.mk s.targets s.routers s.facades s.implementations s.listeners
      s.handles s.implementationNames s.listenerNames s.handleNames s.frames s.log s.answer none) :=
    .of_eq rfl rfl rfl rfl rfl rfl rfl
  cases frame with
  | deliver router => exact absurd rfl (others router)
  | letGo resource =>
    refine (calmed.trans (.push _ ?_)).trans (.letGo _ resource)
    simp [Frame.isPlain, KnowsFrame]
  | closeAll handles =>
    refine calmed.trans (.push _ ?_)
    simp [Frame.isPlain, KnowsFrame]
  | _ => exact .refl s

theorem giveUp_known (known : (s.push [frame]).Known) (message : String) :
    (s.giveUp message frame).Known := by
  by_cases others : ∀ router, frame ≠ .deliver router
  · exact (giveUp_grows message others).known known.below.1
  · obtain ⟨router, rfl⟩ := not_forall_not.mp others
    cases there : s.router? router with
    | none =>
      show (s.modifyRouter router _).Known
      rw [modifyRouter_missing there]
      exact known.below.1
    | some found =>
      have knows := known.below.1.router? there
      exact (stop_changes there).known known.below.1
        ⟨knows.offers, knows.subscriptions, knows.pending⟩ nofun

theorem giveUp_turn (attends : (s.push [frame]).Attends router) (message : String) :
    (s.giveUp message frame).Attends router ∧
      Desk.Turn ((s.push [frame]).desk router) [] ((s.giveUp message frame).desk router) ∧
        (frame.concerns router = false →
          (s.giveUp message frame).desk router = (s.push [frame]).desk router) := by
  have quiet (free : frame.concerns router = false)
      (shown : (s.giveUp message frame).Attends router ∧
        (s.giveUp message frame).desk router = s.desk router) :
      (s.giveUp message frame).Attends router ∧
        Desk.Turn ((s.push [frame]).desk router) [] ((s.giveUp message frame).desk router) ∧
          (frame.concerns router = false →
            (s.giveUp message frame).desk router = (s.push [frame]).desk router) := by
    rw [shown.2, (attends.below free).2]
    exact ⟨shown.1, .step .idle, fun _ => rfl⟩
  cases frame with
  | deliver other =>
    by_cases same : other = router
    · subst other
      obtain ⟨-, idle, free⟩ := attends.staffed.deliver
      have there : s.router? router = some (s.desk router).router := router?_desk attends.there
      have changes := stop_changes there
      have view : (s.push [.deliver router]).desk router = ⟨(s.desk router).router, []⟩ := by
        rw [← idle]
        rfl
      have shown : (s.giveUp message (.deliver router)).desk router =
          ⟨(s.desk router).router.stopDelivering, []⟩ := by
        rw [← idle, desk, giveUp, changes.router?_eq attends.there]
        rfl
      refine ⟨⟨changes.length ▸ attends.there, ?_⟩, ?_, ?_⟩
      · unfold Staffed
        rw [shown]
        exact free
      · rw [shown, view]
        exact .loss .duty
      · simp [Frame.concerns]
    · have free : (Frame.deliver other).concerns router = false := by simpa [Frame.concerns]
      refine quiet free ?_
      cases there : s.router? other with
      | none =>
        rw [giveUp, modifyRouter_missing there]
        exact ⟨(attends.below free).1, rfl⟩
      | some found =>
        exact (stop_changes there).attends_ne same (List.forall_mem_nil _) (attends.below free).1
  | call other call =>
    by_cases same : other = router
    · subst other
      obtain ⟨view, staffed⟩ := attends.staffed.call
      refine ⟨⟨attends.there, staffed⟩, ?_, ?_⟩
      · rw [view]
        exact .loss .call
      · simp [Frame.concerns]
    · have free : (Frame.call other call).concerns router = false := by simpa [Frame.concerns]
      exact quiet free ⟨(attends.below free).1, rfl⟩
  | script | report | answer | answerClosed | change | adopt | keep | close | closeKept | complete
  | completeListener | release | finishRelease | releaseListener | finishListenerRelease
  | releaseListeners | letGo | closeAll | resume =>
    exact quiet rfl ((giveUp_grows message (by simp)).attends (attends.below rfl).1)

/-! Moves. -/

theorem take_known (known : s.Known) (step : Step) :
    (State.take { s with log := [] } step).Known := by
  have cleared : State.Known { s with log := [] } :=
    ⟨⟨known.implementations, known.listeners⟩,
      fun router member => (known.routers router member).mono (Nat.le_refl _) (Nat.le_refl _),
      fun frame member => (known.frames frame member).mono (Nat.le_refl _) (Nat.le_refl _)⟩
  exact (take_grows cleared.toNamesKnown step).known cleared

theorem Move.known (move : Move router s acts t) (known : s.Known) : t.Known := by
  cases move with
  | take rest calm step => exact take_known known step
  | work busy =>
    obtain ⟨below, frame, rfl⟩ := eq_push_of_busy busy
    cases panicked : below.panic with
    | none =>
      rw [advance_push panicked]
      exact enter_known known
    | some message =>
      rw [advance_push_of_panic panicked]
      exact giveUp_known known message
  | land rest panicked =>
    exact Grows.known (s := s) (.of_eq rfl rfl rfl rfl rfl rfl rfl) known

theorem Move.turn (move : Move router s acts t) (known : s.Known) (attends : s.Attends router) :
    t.Attends router ∧ Desk.Turn (s.desk router) acts (t.desk router) ∧
      (s.disturbed router = false → Desk.Step (s.desk router) acts (t.desk router)) := by
  have still {other : State} (shown : other.Attends router ∧ other.desk router = s.desk router) :
      other.Attends router ∧ Desk.Turn (s.desk router) [] (other.desk router) ∧
        (s.disturbed router = false → Desk.Step (s.desk router) [] (other.desk router)) := by
    rw [shown.2]
    exact ⟨shown.1, .step .idle, fun _ => .idle⟩
  cases move with
  | take rest calm step =>
    have grows := take_grows (s := { s with log := [] }) ⟨known.implementations, known.listeners⟩ step
    exact still (grows.attends ⟨attends.there, attends.staffed⟩)
  | work busy =>
    obtain ⟨below, frame, rfl⟩ := eq_push_of_busy busy
    cases panicked : below.panic with
    | none =>
      rw [advance_push panicked, acts_push panicked attends.there]
      obtain ⟨kept, step⟩ := enter_step known attends
      exact ⟨kept, .step step, fun _ => step⟩
    | some message =>
      have nothing : (below.push [frame]).acts router = [] := by
        rw [State.acts, show (below.push [frame]).panic = some message from panicked]
      rw [advance_push_of_panic panicked, nothing]
      obtain ⟨kept, turn, free⟩ := giveUp_turn attends message
      refine ⟨kept, turn, fun calm => ?_⟩
      have same := free (by simpa [disturbed, push, panicked] using calm)
      rw [same]
      exact .idle
  | land rest panicked => exact still ⟨⟨attends.there, attends.staffed⟩, rfl⟩

/-! Runs. -/

theorem run_known (run : Run (Move router) s acts t) (known : s.Known) : t.Known :=
  run.invariant (P := Known) known fun kept move => Move.known move kept

/-- A session, seen from a router, is a run of the router. -/
theorem run_turns (run : Run (Move router) s acts t) (known : s.Known)
    (attends : s.Attends router) :
    t.Attends router ∧ Run Desk.Turn (s.desk router) acts (t.desk router) := by
  induction run with
  | still => exact ⟨attends, .still⟩
  | onward path move ih =>
    obtain ⟨kept, turn, -⟩ := Move.turn move (run_known path known) ih.1
    exact ⟨kept, .onward ih.2 turn⟩

/-- Unless a panic passes through the deliveries, nothing is lost on the way. -/
theorem run_steps (run : Run (CalmMove router) s acts t) (known : s.Known)
    (attends : s.Attends router) :
    t.Known ∧ t.Attends router ∧ Run Desk.Step (s.desk router) acts (t.desk router) := by
  induction run with
  | still => exact ⟨known, attends, .still⟩
  | onward path move ih =>
    obtain ⟨kept, -, step⟩ := Move.turn move.1 ih.1 ih.2.1
    exact ⟨Move.known move.1 ih.1, kept, .onward ih.2.2 (step move.2)⟩

/-- What so many pieces of work do to a router, or on its behalf. -/
def actsFor (router : Nat) : Nat → State → List (Act Server Watcher)
  | 0, _ => []
  | fuel + 1, s => if s.frames.isEmpty then [] else s.acts router ++ actsFor router fuel s.advance

/-- Whether no panic passes through the deliveries of a router in so many pieces of work. -/
def calmFor (router : Nat) : Nat → State → Bool
  | 0, _ => true
  | fuel + 1, s => s.frames.isEmpty || !s.disturbed router && calmFor router fuel s.advance

/-- Work is a run with the labels that are collected, where each piece of it is a step while a test
goes on to pass. -/
theorem run_of_work {E : Type} {R : State → List E → State → Prop} {label : State → List E}
    (labels : Nat → State → List E) (passes : Nat → State → Prop) (none : ∀ s, labels 0 s = [])
    (next : ∀ fuel s, labels (fuel + 1) s =
      if s.frames.isEmpty then [] else label s ++ labels fuel s.advance)
    (goes : ∀ fuel s, s.frames ≠ [] → passes (fuel + 1) s →
      R s (label s) s.advance ∧ passes fuel s.advance)
    {fuel : Nat} {s : State} (fine : passes fuel s) :
    Run R s (labels fuel s) (State.run fuel s) := by
  induction fuel generalizing s with
  | zero =>
    rw [none]
    exact .still
  | succ fuel ih =>
    rw [next, State.run]
    split
    · exact .still
    · have busy : s.frames ≠ [] := by simpa using ‹¬s.frames.isEmpty = true›
      obtain ⟨step, later⟩ := goes fuel s busy fine
      exact (Run.single step).append (ih later)

theorem run_work (router fuel : Nat) (s : State) :
    Run (Move router) s (s.actsFor router fuel) (State.run fuel s) :=
  run_of_work (actsFor router) (fun _ _ => True) (fun _ => rfl) (fun _ _ => rfl)
    (fun _ _ busy _ => ⟨.work busy, trivial⟩) trivial

theorem run_calm_work (calm : s.calmFor router fuel = true) :
    Run (CalmMove router) s (s.actsFor router fuel) (State.run fuel s) := by
  refine run_of_work (actsFor router) (calmFor router · · = true) (fun _ => rfl) (fun _ _ => rfl)
    ?_ calm
  intro fuel s busy calm
  obtain ⟨undisturbed, later⟩ :
      s.disturbed router = false ∧ calmFor router fuel s.advance = true := by
    simpa [calmFor, busy] using calm
  exact ⟨⟨.work busy, undisturbed⟩, later⟩

/-- A session after steps taken one after the other, with so many pieces of work for each. -/
def after (fuel : Nat) (s : State) : List Step → State
  | [] => s
  | step :: rest => after fuel (State.run fuel (State.take { s with log := [] } step)) rest

def actsAfter (router fuel : Nat) (s : State) : List Step → List (Act Server Watcher)
  | [] => []
  | step :: rest => State.actsFor router fuel (State.take { s with log := [] } step) ++
      actsAfter router fuel (State.run fuel (State.take { s with log := [] } step)) rest

/-- Whether the work for each step is done before the next one is taken, without a panic on its way
through the deliveries of a router. -/
def calmAfter (router fuel : Nat) (s : State) : List Step → Bool
  | [] => true
  | step :: rest => s.frames.isEmpty && s.panic.isNone &&
      State.calmFor router fuel (State.take { s with log := [] } step) &&
      calmAfter router fuel (State.run fuel (State.take { s with log := [] } step)) rest

theorem run_after {fuel : Nat} {steps : List Step} (calm : s.calmAfter router fuel steps = true) :
    Run (CalmMove router) s (s.actsAfter router fuel steps) (s.after fuel steps) := by
  induction steps generalizing s with
  | nil => exact .still
  | cons step rest ih =>
    simp only [calmAfter, Bool.and_eq_true, List.isEmpty_iff, Option.isNone_iff_eq_none] at calm
    obtain ⟨⟨⟨idle, quiet⟩, worked⟩, later⟩ := calm
    have taken : CalmMove router s [] (State.take { s with log := [] } step) :=
      ⟨.take idle quiet step, by simp [disturbed, quiet]⟩
    exact (Run.single taken).append ((run_calm_work worked).append (ih later))

/-- A step with all that follows from it is a run. -/
theorem perform_run (fuel : Nat) (step : Step) (rest : s.frames = []) (calm : s.panic = none)
    (done : (State.run fuel (State.take { s with log := [] } step)).frames = []) :
    ∃ acts, Run (Move router) s acts (s.perform fuel step) := by
  have taken : Run (Move router) s [] (State.take { s with log := [] } step) :=
    .single (.take rest calm step)
  have worked := taken.append (run_work router fuel _)
  simp only [perform]
  split
  · exact ⟨_, worked⟩
  · exact ⟨_, worked.onward (.land done ‹_›)⟩

theorem advance_change (known : s.Known) (attends : s.Attends router) (calm : s.panic = none)
    {change : Change Server Watcher} {rest : List Frame}
    (top : s.frames = .change router change :: rest) :
    s.advance.Known ∧ s.advance.Attends router ∧ s.advance.desk router =
      ⟨((s.desk router).router.apply s.accepts change).onDuty,
        (s.desk router).inHand⟩ := by
  obtain ⟨below, rfl, rfl⟩ := eq_push_of_top top
  have there : below.router? router = some (below.desk router).router := router?_desk attends.there
  rw [advance_push (s := below) calm]
  obtain ⟨under, view⟩ := attends.below rfl
  obtain ⟨kept, shown⟩ := (change_changes there change).attends
    (fun duty => by rw [Router.onDuty_eq, Router.delivering_apply, duty, Bool.true_or]) under
  rw [view]
  exact ⟨enter_known known, kept, shown⟩

/-! The start. -/

theorem start_known (settings : RouterSettings) (wiring : Wiring) :
    (start settings wiring).Known := by
  refine ⟨⟨nofun, nofun⟩, fun router member => ?_, nofun⟩
  simp only [start, List.mem_cons, List.not_mem_nil, or_false] at member
  rcases member with rfl | rfl <;> exact ⟨nofun, nofun, nofun⟩

/-- The settings with which each router starts. -/
def configured (settings : RouterSettings) (router : Nat) : RouterSettings :=
  if router = 0 then settings else .default

theorem start_desk (settings : RouterSettings) (wiring : Wiring) (there : router < 2) :
    (start settings wiring).desk router = ⟨.ofSettings (configured settings router), []⟩ := by
  obtain rfl | rfl : router = 0 ∨ router = 1 := by omega
  · rfl
  · rfl

theorem start_attends (settings : RouterSettings) (wiring : Wiring) (there : router < 2) :
    (start settings wiring).Attends router := by
  refine ⟨there, ?_⟩
  unfold Staffed
  rw [start_desk settings wiring there]
  rfl

/-- From the start on the desk of a router goes on from where a new router begins. -/
theorem turns_of_start {settings : RouterSettings} {wiring : Wiring} (there : router < 2)
    (run : Run (Move router) (start settings wiring) acts t) :
    t.Known ∧ t.Attends router ∧
      Run Desk.Turn ⟨.ofSettings (configured settings router), []⟩ acts (t.desk router) := by
  have known := start_known settings wiring
  obtain ⟨attends, turns⟩ := run_turns run known (start_attends settings wiring there)
  rw [start_desk settings wiring there] at turns
  exact ⟨run_known run known, attends, turns⟩

theorem steps_of_start {settings : RouterSettings} {wiring : Wiring} (there : router < 2)
    (run : Run (CalmMove router) (start settings wiring) acts t) :
    t.Known ∧ t.Attends router ∧
      Run Desk.Step ⟨.ofSettings (configured settings router), []⟩ acts (t.desk router) := by
  obtain ⟨known, attends, steps⟩ :=
    run_steps run (start_known settings wiring) (start_attends settings wiring there)
  rw [start_desk settings wiring there] at steps
  exact ⟨known, attends, steps⟩

/-! What listeners are told, as the log has it. -/

def notice (s : State) (call : Call Watcher) : List Event :=
  ((s.listeners[call.listener.listener]?).map fun found =>
    .notified call.available found.name _ (call.listener.bring call.rpcs)).toList

/-- Nobody is told anything but by a call, and each call tells its listener once. -/
theorem advance_notifications (calm : s.panic = none) (known : (s.push [frame]).Known) :
    (s.push [frame]).advance.notifications = s.notifications ++
      match frame with
      | .call _ call => s.notice call
      | _ => [] := by
  rw [advance_push calm]
  cases frame with
  | call router call =>
    obtain ⟨found, there⟩ := known.listener
    rw [enter, (Grows.callListener there).notifications]
    simp [notifications, emit, notice, there, Event.isNotification]
  | change router change =>
    rw [List.append_nil]
    cases there : s.router? router with
    | none => rw [(enter_missing there).1]
    | some found => exact (change_changes there change).notifications
  | adopt router schema =>
    rw [List.append_nil]
    cases there : s.router? router with
    | none => rw [(enter_missing there).2.1]
    | some found => exact (adopt_changes there schema).notifications
  | deliver router =>
    rw [List.append_nil]
    cases there : s.router? router with
    | none => rw [(enter_missing there).2.2]
    | some found =>
      cases next : found.nextDelivery? with
      | none => exact (deliverNext_changes_of_none there next).notifications
      | some taken => exact (deliverNext_changes_of_some there next).notifications
  | script | report | answer | answerClosed | keep | close | closeKept | complete
  | completeListener | release | finishRelease | releaseListener | finishListenerRelease
  | releaseListeners | letGo | closeAll | resume =>
    rw [List.append_nil]
    exact (enter_grows known.below.1.toNamesKnown rfl).notifications

/-- What the log has to do with calls. -/
structure Announces (router : Nat) (s : State) : Prop where
  /-- A call for the router counts as made when it tells its listener what it is about, once. -/
  told : ∀ call rest, s.panic = none → s.frames = .call router call :: rest →
    s.acts router = [.called call] ∧ ∃ listener,
      s.listeners[call.listener.listener]? = some listener ∧
      s.advance.notifications = s.notifications ++
        [.notified call.available listener.name _ (call.listener.bring call.rpcs)]
  /-- Nobody is told anything but by calls. -/
  silent : s.panic = none → (∀ other call rest, s.frames ≠ .call other call :: rest) →
    s.advance.notifications = s.notifications

theorem Known.announces (known : s.Known) (attends : s.Attends router) : s.Announces router := by
  constructor
  · intro call rest calm top
    obtain ⟨below, rfl, rfl⟩ := eq_push_of_top top
    obtain ⟨listener, named⟩ := known.listener
    have said : below.notice call =
        [.notified call.available listener.name _ (call.listener.bring call.rpcs)] := by
      rw [notice, named, Option.map_some, Option.toList_some]
    refine ⟨?_, listener, named, ?_⟩
    · rw [acts_push (s := below) calm attends.there]
      exact if_pos rfl
    · rw [advance_notifications (s := below) calm known]
      exact congrArg (below.notifications ++ ·) said
  · intro calm others
    cases top : s.frames with
    | nil => rw [advance, top]
    | cons frame rest =>
      obtain ⟨below, rfl, rfl⟩ := eq_push_of_top top
      rw [advance_notifications (s := below) calm known]
      cases frame with
      | call other call => exact absurd top (others other call _)
      | _ => exact List.append_nil _

end RpcRouting.Session.State
