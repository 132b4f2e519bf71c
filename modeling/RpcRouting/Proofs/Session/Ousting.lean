import RpcRouting.Proofs.Facade.Whereabouts
import RpcRouting.Proofs.Session.Closing
import RpcRouting.Proofs.Session.Releasing
/-! What becomes of the listeners of a facade that is closed. A listener whose registration is
complete is taken out of its router and out of the roster before closing returns. One whose
registration is still being made is not in the roster then, and is entered afterwards. -/
namespace RpcRouting.Session

/-- What a facade is given for a listener. -/
def subscribed (router registration : Nat) : Handle := .opened () (.subscription router registration)

namespace State
variable {s t : State} {facade id router registration : Nat} {earlier deals now : List (Deal Handle)}
  {services : List (Option Nat)} {found : Facade} {rest : List Frame}

/-- A registration has left its router, or does so next. -/
def Departs (router registration : Nat) (s : State) : Prop :=
  (s.desk router).Left registration ∨
    s.panic = none ∧ ∃ below, s.frames = .change router (.unlisten registration) :: below

/-- All that is known of a session after a router has registered a listener for a facade. What has
passed since then stands apart from what has passed before. -/
structure Tracked (facade id router registration : Nat) (earlier deals : List (Deal Handle))
    (s : State) : Prop where
  known : s.Known
  attends : s.Attends router
  older : registration < (s.desk router).router.nextNumber
  tidy : ∃ services, s.Tidy services ∧ services[facade]? = some (some router)
  sound : Sound (earlier ++ deals) s.custody
  places : .handedListener facade id (subscribed router registration) ∈ deals →
    s.custody.Places facade id (subscribed router registration) deals
  departs : .released (subscribed router registration) ∈ deals → s.custody.Alive facade →
    s.Departs router registration

/-- While a facade is closed one of its listeners is about to be released or has no entry any more,
and when closing has returned its registration has left the router. -/
inductive Ousting (facade id router registration : Nat) (rest : List Frame) (s : State) : Prop
  | under (above : List Frame) (frames : s.frames = above ++ .letGo (.facade facade) :: rest)
      (doomed : .releaseListener facade id ∈ above ∨ .releaseListeners facade ∈ above ∨
        s.custody.Without facade id)
  | done (without : s.custody.Without facade id) (left : (s.desk router).Left registration)

/-! Registrations that are closed. -/

theorem Departs.move {acts : List (Act Server Watcher)} (departs : s.Departs router registration)
    (known : s.Known) (attends : s.Attends router)
    (older : registration < (s.desk router).router.nextNumber) (move : Move router s acts t) :
    t.Departs router registration := by
  rcases departs with left | ⟨calm, below, top⟩
  · exact .inl (left.turns (.single (Move.turn move known attends).2.1)).1
  · cases move with
    | work => exact .inl (left_of_unlisten known attends calm top older)
    | take idle | land idle => cases top.symm.trans idle

theorem Secure.service (secure : s.Secure services) (there : s.facade? facade = some found) :
    services[facade]? = some found.service := by
  rw [← secure.2, List.getElem?_map, show s.facades[facade]? = some found from there]
  rfl

/-- A facade that is alive keeps its router alive. -/
theorem routerAlive_of_facade (alive : s.custody.Alive facade) (secure : s.Secure services)
    (service : services[facade]? = some (some router)) : s.routerAlive router = true := by
  obtain ⟨holding, held, alive⟩ := alive
  rw [custody_facade?] at held
  obtain ⟨found, there, rfl⟩ := Option.map_eq_some_iff.mp held
  have uses : found.service = some router :=
    Option.some.inj ((secure.service there).symm.trans service)
  have member : found ∈ s.facades := List.mem_of_getElem? there
  simp only [routerAlive, Bool.or_eq_true, List.any_eq_true]
  refine .inl (.inr ⟨found, member, ?_⟩)
  simp [Facade.uses, uses, show found.life = .alive from alive]

theorem departs_of_released (alive : s.custody.Alive facade) (secure : s.Secure services)
    (service : services[facade]? = some (some router))
    (released : .released (subscribed router registration) ∈ s.dealings t)
    {acts : List (Act Server Watcher)} (move : Move router s acts t) :
    t.Departs router registration := by
  obtain ⟨calm, below, rfl⟩ := top_of_released released
  have there : below.routerAlive router = true := routerAlive_of_facade alive secure service
  cases move with
  | work =>
    rw [advance_push (s := below) calm, enter_close rfl there]
    exact .inr ⟨calm, below.frames, rfl⟩
  | take idle | land idle => cases idle

theorem Tracked.onward (tracked : s.Tracked facade id router registration earlier deals)
    (dealing : Dealing s now t) :
    t.Tracked facade id router registration earlier (deals ++ now) := by
  obtain ⟨known, attends, older, ⟨services, tidy, service⟩, sound, places, departs⟩ := tracked
  obtain ⟨path, tidy'⟩ := run_dealings (.single dealing) tidy sound
  obtain ⟨acts, move⟩ := Dealing.move dealing router
  obtain ⟨attends', turn, -⟩ := Move.turn move known attends
  refine ⟨Move.known move known, attends',
    Nat.lt_of_lt_of_le older (Desk.turns_nextNumber_le (.single turn)), ⟨services, tidy', service⟩,
    List.append_assoc .. ▸ sound.run path, Custody.run_places sound path places, ?_⟩
  intro released alive
  have alive' := Custody.run_alive path alive
  rcases List.mem_append.mp released with early | late
  · exact (departs early alive').move known attends older move
  · exact departs_of_released alive' tidy.secure service (dealing.1 ▸ late) move

theorem Tracked.run (tracked : s.Tracked facade id router registration earlier deals)
    (run : Run Dealing s now t) :
    t.Tracked facade id router registration earlier (deals ++ now) := by
  induction run with
  | still => exact (List.append_nil deals).symm ▸ tracked
  | onward _ dealing ih => exact List.append_assoc .. ▸ ih.onward dealing

/-! How closing a facade proceeds. -/

/-- A facade that somebody calls is alive. -/
theorem Tracked.alive (tracked : s.Tracked facade id router registration earlier deals)
    (called : .letGo (.facade facade) ∈ s.frames) : s.custody.Alive facade := by
  have called : .call facade ∈ s.custody.duties := List.mem_filterMap.mpr ⟨_, called, rfl⟩
  have length := tracked.sound.there (.inl called)
  have there := List.getElem?_eq_getElem length
  exact ⟨_, there, (tracked.sound.accounts there).lasting.called called⟩

theorem close_mem_of_duties {handle : Handle} (waiting : .close handle ∈ s.custody.duties) :
    .close handle ∈ s.frames := by
  obtain ⟨frame, member, duty⟩ := List.mem_filterMap.mp waiting
  cases frame with
  | close other =>
    cases duty
    exact member
  | letGo resource => cases resource <;> cases duty
  | _ => cases duty

/-- A listener that has no entry any more has left its router, as soon as nothing is to be closed
and no change is to be made. -/
theorem Tracked.left (tracked : s.Tracked facade id router registration earlier deals)
    (handed : .handedListener facade id (subscribed router registration) ∈ deals)
    (top : s.frames = .letGo (.facade facade) :: rest) (without : s.custody.Without facade id) :
    (s.desk router).Left registration := by
  obtain ⟨holding, there, alive⟩ := tracked.alive (top ▸ List.mem_cons_self)
  cases tracked.places handed holding there with
  | entered entry => exact absurd (List.mem_map.mpr ⟨_, entry, rfl⟩) (without holding there)
  | gone gone => cases alive.symm.trans gone
  | leaving _ closes =>
    rcases closes with waiting | released
    · obtain ⟨services, tidy, -⟩ := tracked.tidy
      have member := close_mem_of_duties waiting
      have below := tidy.prompt.below (subscribed router registration)
      rw [top] at member below
      exact absurd ((List.mem_cons.mp member).resolve_left nofun) below
    · rcases tracked.departs released ⟨holding, there, alive⟩ with left | ⟨-, below, change⟩
      · exact left
      · cases top.symm.trans change

theorem without_iff : s.custody.Without facade id ↔
    ∀ found, s.facade? facade = some found → id ∉ found.roster.listenerNumbers := by
  unfold Custody.Without
  rw [custody_facade?]
  constructor
  · intro without found there
    exact without found.holding (by rw [there, Option.map_some])
  · intro without holding held
    obtain ⟨found, there, rfl⟩ := Option.map_eq_some_iff.mp held
    exact without found there

theorem without_enter_releaseListener (s : State) (facade id : Nat) :
    (s.enter (.releaseListener facade id)).custody.Without facade id := by
  refine without_iff.mpr fun found there => ?_
  simp only [enter, beginListenerRelease] at there
  cases before : s.facade? facade with
  | none =>
    rw [before] at there
    cases there.symm.trans before
  | some old =>
    simp only [before, Option.bind_some] at there
    cases held : old.roster.listener? id with
    | none =>
      rw [held] at there
      cases there.symm.trans before
      exact Roster.listener?_eq_none.mp held
    | some underlying =>
      rw [held] at there
      cases there.symm.trans (facade?_modifyFacade before _)
      rw [Roster.listenerNumbers_removeListener]
      simp

theorem Dealing.enters {frame : Frame} (dealing : Dealing (s.push [frame]) now t)
    (calm : s.panic = none) : t = s.enter frame := by
  obtain ⟨-, router, acts, move⟩ := dealing
  cases move with
  | work => exact advance_push calm frame
  | take idle | land idle => cases idle

theorem Ousting.releaseListeners {above : List Frame}
    (frames : s.frames = above ++ .letGo (.facade facade) :: rest) :
    Ousting facade id router registration rest (s.enter (.releaseListeners facade)) := by
  simp only [enter, State.releaseListeners]
  cases there : s.facade? facade with
  | none =>
    refine .under above frames (.inr (.inr (without_iff.mpr fun found same => ?_)))
    cases same.symm.trans there
  | some found =>
    let releases := found.arranged.listeners.map fun entry => Frame.releaseListener facade entry.1
    have grown : (s.push releases).frames =
        (releases ++ above) ++ .letGo (.facade facade) :: rest := by
      rw [push, frames, List.append_assoc]
    by_cases entered : id ∈ found.roster.listenerNumbers
    · have arranged := (found.roster.perm_listenerNumbers_arranged found.order).mem_iff.mpr entered
      obtain ⟨⟨number, underlying⟩, entry, rfl⟩ := List.mem_map.mp arranged
      refine .under _ grown (.inl (List.mem_append_left _ ?_))
      exact List.mem_map.mpr ⟨_, entry, rfl⟩
    · refine .under _ grown (.inr (.inr (without_iff.mpr fun other same => ?_)))
      cases there.symm.trans same
      exact entered

theorem Ousting.onward (ousting : Ousting facade id router registration rest s)
    (tracked : s.Tracked facade id router registration earlier deals)
    (handed : .handedListener facade id (subscribed router registration) ∈ deals)
    (calm : s.panic = none) (dealing : Dealing s now t) :
    Ousting facade id router registration rest t := by
  obtain ⟨services, tidy, -⟩ := tracked.tidy
  obtain ⟨path, -⟩ := run_dealings (.single dealing) tidy tracked.sound
  have stays (without : s.custody.Without facade id) : t.custody.Without facade id :=
    Custody.run_without tracked.sound path (List.mem_append_right _ handed) without
  have finished (without : s.custody.Without facade id) (left : (s.desk router).Left registration) :
      Ousting facade id router registration rest t := by
    obtain ⟨acts, move⟩ := Dealing.move dealing router
    exact .done (stays without)
      (left.turns (.single (Move.turn move tracked.known tracked.attends).2.1)).1
  cases ousting with
  | done without left => exact finished without left
  | under above frames doomed =>
    cases above with
    | nil =>
      have without : s.custody.Without facade id := by simpa using doomed
      exact finished without (tracked.left handed frames without)
    | cons frame above =>
      obtain ⟨below, rfl, under⟩ := eq_push_of_top
        (show s.frames = frame :: (above ++ .letGo (.facade facade) :: rest) from frames)
      obtain rfl := Dealing.enters dealing calm
      have secure : below.Secure services := tidy.secure
      obtain ⟨pushed, grown, -⟩ := (enter_works tracked.sound secure calm).steps
      rw [under, ← List.append_assoc] at grown
      rcases doomed with releasing | closing | without
      · refine .under _ grown ?_
        rcases List.mem_cons.mp releasing with rfl | waiting
        · exact .inr (.inr (without_enter_releaseListener below facade id))
        · exact .inl (List.mem_append_right _ waiting)
      · rcases List.mem_cons.mp closing with rfl | waiting
        · exact .releaseListeners under
        · exact .under _ grown (.inr (.inl (List.mem_append_right _ waiting)))
      · exact .under _ grown (.inr (.inr (stays without)))

/-- A piece of a session's work, taken up without a panic on its way. -/
def CalmDealing (s : State) (deals : List (Deal Handle)) (t : State) : Prop :=
  Dealing s deals t ∧ s.panic = none

theorem Ousting.run (ousting : Ousting facade id router registration rest s)
    (tracked : s.Tracked facade id router registration earlier deals)
    (handed : .handedListener facade id (subscribed router registration) ∈ deals)
    (run : Run CalmDealing s now t) : Ousting facade id router registration rest t := by
  induction run with
  | still => exact ousting
  | onward path dealing ih =>
    exact ih.onward (tracked.run (path.mono And.left)) (List.mem_append_left _ handed) dealing.2
      dealing.1

theorem ousting_closeFacade (s : State) (facade id router registration : Nat) (found : Facade) :
    Ousting facade id router registration s.frames (s.closeFacade facade found) := by
  refine .under (found.arranged.records.map (fun entry => .release facade entry.1) ++
    [.releaseListeners facade, .answer (.text "closed")]) ?_ (.inr (.inl (by simp)))
  simp [closeFacade, push, note, emit]

/-! From the registration of a listener on. -/

theorem start_service {settings : RouterSettings} {wiring : Wiring}
    (service : ((start settings wiring).facades.map (·.service))[facade]? = some (some router)) :
    router < 2 := by
  have member := List.mem_of_getElem? service
  obtain ⟨layout, order⟩ := wiring
  cases layout <;> simp [start, Facade.connecting] at member <;> omega

theorem tracked_listenThrough {settings : RouterSettings} {wiring : Wiring} {listener : Nat}
    {handle : String} (there : s.facade? facade = some found) (service : found.service = some router)
    (calm : s.panic = none)
    (before : Run Dealing (start settings wiring) earlier
      (s.listenThrough facade found handle listener)) :
    ∃ delegate earlier, s.router? router = some delegate ∧
      (s.listenThrough facade found handle listener).advance.Tracked facade found.roster.nextNumber
        router delegate.nextNumber earlier [] := by
  let listens (pushed : List Frame) : State := (s.modifyRoster facade (·.takeNumber)).push
    (.change router (.listen (.wrapped facade listener)) :: pushed)
  obtain ⟨pushed, same⟩ : ∃ pushed, s.listenThrough facade found handle listener =
      listens pushed := by
    simp only [listenThrough, service]
    exact ⟨_, rfl⟩
  rw [same] at before ⊢
  have sound := start_sound settings wiring
  obtain ⟨path, tidy⟩ := run_dealings before (start_tidy settings wiring) sound
  have connected : (s.modifyRoster facade (·.takeNumber)).facade? facade =
      some { found with roster := found.roster.takeNumber } := facade?_modifyFacade there _
  have served := (Secure.service tidy.secure connected).trans (congrArg some service)
  obtain ⟨acts, moves⟩ := run_moves before router
  obtain ⟨known, attends, -⟩ := turns_of_start (start_service served) moves
  obtain ⟨known', attends', entered⟩ := advance_change known attends calm rfl
  have dealing : Dealing (listens pushed) _ (listens pushed).advance :=
    ⟨rfl, router, _, .work (List.cons_ne_nil _ _)⟩
  obtain ⟨further, tidy'⟩ := run_dealings (.single dealing) tidy (sound.run path)
  have sound' := (sound.run path).run further
  rw [← List.append_nil ([] ++ earlier ++ _)] at sound'
  refine ⟨_, _, router?_desk attends.there, known', attends', ?_, ⟨_, tidy', served⟩, sound',
    (absurd · List.not_mem_nil), (absurd · List.not_mem_nil)⟩
  rw [entered, Router.nextNumber_onDuty, Router.nextNumber_apply]
  exact Nat.lt_succ_self _

/-- A facade that is closed has no entry any more for a listener whose registration was complete, and
its router has no registration. -/
theorem closed_facade_drops_listeners {settings : RouterSettings} {wiring : Wiring}
    {listener : Nat} {handle : String} (there : s.facade? facade = some found)
    (service : found.service = some router) (calm : s.panic = none)
    (before : Run Dealing (start settings wiring) earlier
      (s.listenThrough facade found handle listener)) :
    ∃ delegate, s.router? router = some delegate ∧
      ∀ between closer closing during closed later t,
        Run Dealing (s.listenThrough facade found handle listener).advance between
          (State.closeFacade closer facade closing) →
        .handedListener facade found.roster.nextNumber (s.subscriptionHandle router) ∈ between →
        Run CalmDealing (State.closeFacade closer facade closing) during closed →
        closed.frames = closer.frames → Run Dealing closed later t →
        (t.desk router).Left delegate.nextNumber ∧
          t.custody.LacksListener facade found.roster.nextNumber := by
  obtain ⟨delegate, passed, served, tracked⟩ := tracked_listenThrough there service calm before
  refine ⟨delegate, served, ?_⟩
  intro between closer closing during closed later t path handed closes returned onward
  have given : s.subscriptionHandle router = subscribed router delegate.nextNumber := by
    simp only [subscriptionHandle, served]
    rfl
  rw [given] at handed
  have tracked := tracked.run path
  rw [List.nil_append] at tracked
  have ousted := (ousting_closeFacade closer facade _ router delegate.nextNumber closing).run
    tracked handed closes
  have tracked := tracked.run (closes.mono And.left)
  cases ousted with
  | under above frames =>
    have deeper := congrArg List.length (frames.symm.trans returned)
    rw [List.length_append, List.length_cons] at deeper
    omega
  | done without left =>
    obtain ⟨acts, moves⟩ := run_moves onward router
    obtain ⟨services, tidy, -⟩ := tracked.tidy
    obtain ⟨turns, -⟩ := run_dealings onward tidy tracked.sound
    have given := List.mem_append_right passed (List.mem_append_left during handed)
    constructor
    · exact (left.turns (run_turns moves tracked.known tracked.attends).2).1
    · intro holding held _
      refine Roster.listener?_eq_none.mpr ?_
      exact Custody.run_without tracked.sound turns given without holding held

/-! A listener that is registered through a facade, and told at once of what is available. -/

/-- Whether no panic comes up in so many pieces of work. -/
def quietFor : Nat → State → Bool
  | 0, _ => true
  | fuel + 1, s => s.frames.isEmpty || s.panic.isNone && quietFor fuel s.advance

theorem run_quiet_work {fuel : Nat} (quiet : s.quietFor fuel = true) :
    Run CalmDealing s (dealingsFor fuel s) (State.run fuel s) := by
  refine run_of_work dealingsFor (quietFor · · = true) (fun _ => rfl) (fun _ _ => rfl) ?_ quiet
  intro fuel s busy quiet
  obtain ⟨calm, later⟩ : s.panic = none ∧ quietFor fuel s.advance = true := by
    simpa [quietFor, busy] using quiet
  exact ⟨⟨⟨rfl, 0, _, .work busy⟩, calm⟩, later⟩

theorem calm_take (idle : s.frames = []) (calm : s.panic = none) (step : Step) :
    CalmDealing s (s.dealings (State.take { s with log := [] } step))
      (State.take { s with log := [] } step) :=
  ⟨⟨rfl, 0, _, .take idle calm step⟩, calm⟩

/-- A session in which something is available. -/
def offering : State :=
  (start .default .single).after 40
    [.register .router "served" "server" (some ⟨1, .echo, []⟩) [⟨"a", none⟩]]

/-- It has a listener that takes some steps when it is told. -/
def listening (onAvailable : List (List Step)) : State :=
  { offering with
    log := []
    listeners := [⟨"hearer", none, false, onAvailable, []⟩]
    listenerNames := [("hearer", 0)] }

/-- The listener is being registered through the facade. -/
def joining (onAvailable : List (List Step)) : State :=
  (listening onAvailable).listenThrough 0 (.connecting (some 0) 0 .asEntered) "heard" 0

theorem run_joining (onAvailable : List (List Step)) :
    ∃ deals, Run CalmDealing (start .default .single) deals (joining onAvailable) := by
  let registers : State := State.take { start .default .single with log := [] }
    (.register .router "served" "server" (some ⟨1, .echo, []⟩) [⟨"a", none⟩])
  have registered : Run CalmDealing registers (dealingsFor 40 registers) offering :=
    run_quiet_work (by decide +kernel)
  have first : CalmDealing (start .default .single) _ registers := calm_take rfl rfl _
  have second : CalmDealing offering _ (joining onAvailable) := calm_take (by cbv) (by cbv)
    (.listen .facade "heard" "hearer" (some ⟨none, onAvailable, []⟩))
  exact ⟨_, ((Run.single first).append registered).onward second⟩

/-- The session when the listener has been registered, and nothing is under way. -/
def joined : State := { State.run 40 (joining []).advance with log := [] }

/-- The facade with the listener entered. -/
def holder : Facade :=
  { Facade.connecting (some 0) 0 .asEntered with
    roster := (Roster.takeNumber .empty).enterListener 1 (subscribed 0 2) }

theorem closed_facade_drops_listeners_told :
    ∃ delegate, (listening []).router? 0 = some delegate ∧
      ((State.run 40 (joined.closeFacade 0 holder)).desk 0).Left delegate.nextNumber ∧
        (State.run 40 (joined.closeFacade 0 holder)).custody.LacksListener 0 1 := by
  obtain ⟨deals, before⟩ := run_joining []
  obtain ⟨delegate, there, drops⟩ := closed_facade_drops_listeners (s := listening []) rfl rfl
    (by cbv) (before.mono And.left)
  have completed : Run Dealing (joining []).advance _ (State.run 40 (joining []).advance) :=
    run_dealing_work 40 _
  have closes : CalmDealing (State.run 40 (joining []).advance) _ (joined.closeFacade 0 holder) :=
    calm_take (by cbv) (by cbv) (.closeFacade .facade)
  have closed : Run CalmDealing (joined.closeFacade 0 holder) _
      (State.run 40 (joined.closeFacade 0 holder)) := run_quiet_work (by decide +kernel)
  refine ⟨delegate, there, drops _ joined holder _ _ _ _ (completed.onward closes.1) ?_ closed
    (by cbv) .still⟩
  decide +kernel

def closesTheFacade : List (List Step) := [[.closeFacade .facade]]

/-- The listener has been told while it is being registered, and closes the facade. -/
def told : State := State.run 2 (joining closesTheFacade).advance

def shutting : State :=
  { told with frames := [.report "close_facade", .script []] ++ told.frames.tail }

/-- The facade while its first listener is being registered. -/
def waiter : Facade :=
  { Facade.connecting (some 0) 0 .asEntered with roster := Roster.takeNumber .empty }

/-- Closing the facade has returned to the listener. -/
def shut : State := State.run 3 (shutting.closeFacade 0 waiter)

/-- When a facade is closed while one of its listeners is being registered, the listener may be
registered after both have returned. -/
theorem interrupted_listener_stays :
    ¬ ∀ settings wiring earlier s facade router listener handle found delegate between closer closing
      during closed after t,
      State.facade? s facade = some found → found.service = some router →
      s.router? router = some delegate →
      Run CalmDealing (start settings wiring) earlier
        (s.listenThrough facade found handle listener) →
      Run CalmDealing (s.listenThrough facade found handle listener).advance between
        (State.closeFacade closer facade closing) → closer.facade? facade = some closing →
      Run CalmDealing (State.closeFacade closer facade closing) during closed →
      closed.frames = closer.frames → Run CalmDealing closed after t → t.frames = s.frames →
      (t.desk router).Left delegate.nextNumber ∧
        t.custody.LacksListener facade found.roster.nextNumber := by
  intro always
  obtain ⟨earlier, before⟩ := run_joining closesTheFacade
  have between : Run CalmDealing (joining closesTheFacade).advance _
      (State.run 3 (joining closesTheFacade).advance) := run_quiet_work (by decide +kernel)
  have called : State.run 3 (joining closesTheFacade).advance = shutting.closeFacade 0 waiter := by
    cbv
  rw [called] at between
  have during : Run CalmDealing (shutting.closeFacade 0 waiter) _ shut :=
    run_quiet_work (by decide +kernel)
  have after : Run CalmDealing shut _ (State.run 40 shut) := run_quiet_work (by decide +kernel)
  have there : ∃ delegate, (listening closesTheFacade).router? 0 = some delegate := ⟨_, rfl⟩
  obtain ⟨delegate, there⟩ := there
  obtain ⟨-, lacks⟩ := always .default .single earlier (listening closesTheFacade) 0 0 0 "heard"
    (.connecting (some 0) 0 .asEntered) delegate _ shutting waiter _ shut _ (State.run 40 shut)
    rfl rfl there before between rfl during (by cbv) after (by cbv)
  have counted : ((State.run 40 shut).custody.facades[0]?).any (fun holding =>
      holding.life != .gone && (holding.roster.listener? 1).isSome) = true := by decide +kernel
  obtain ⟨holding, held, entered⟩ := (Option.any_eq_true _ _).mp counted
  rw [Bool.and_eq_true, bne_iff_ne, Option.isSome_iff_ne_none] at entered
  exact entered.2 (lacks holding held entered.1)

end State
end RpcRouting.Session
