import RpcRouting.Proofs.Session.Pushing
import RpcRouting.Proofs.Session.Releasing
/-! What facades hold. Whatever it is, and whatever is still to be closed for them, comes from the
routers behind them; so what is true of the registrations that these routers make is true of it. -/
namespace RpcRouting.Session

/-- A registration with a router, or one that is closed already. -/
def RoutedTo (router : Nat) (handle : Handle) : Prop :=
  handle.release = none ∨ ∃ registration,
    handle.release = some (.offer router registration) ∨
      handle.release = some (.subscription router registration)

/-- The registrations behind a facade that a frame brings to it or is to close. -/
def Frame.underlyings : Frame → List Handle
  | .complete _ _ underlying | .completeListener _ _ underlying | .close underlying => [underlying]
  | .closeAll underlyings => underlyings
  | _ => []

/-- A facade that holds registrations of a kind, and is given no others. -/
structure Facade.Holds (P : Handle → Prop) (facade : Facade) : Prop where
  offers : ∀ (s : State) (rpcs : List Current.Identifier), P (s.offerHandle facade.provider rpcs)
  subscriptions : ∀ s : State, P (facade.service.elim (.inert ()) s.subscriptionHandle)
  holds : ∀ underlying ∈ facade.roster.underlyings, P underlying

namespace State

/-- A session with registrations of a kind behind all its facades. -/
structure Behind (P : Handle → Prop) (s : State) : Prop where
  facades : ∀ facade ∈ s.facades, facade.Holds P
  frames : ∀ frame ∈ s.frames, ∀ underlying ∈ frame.underlyings, P underlying

variable {s t : State} {router id : Nat} {frame : Frame} {pushed : List Frame} {found : Facade}
  {services : List (Option Nat)} {acts : List (Act Server Watcher)} {P : Handle → Prop}

theorem underlyings_of_duty? (free : frame.duty? = none) : frame.underlyings = [] := by
  cases frame <;> first | rfl | cases free

theorem underlyings_of_idle (idle : frame.isIdle = true) : frame.underlyings = [] := by
  cases frame <;> first | rfl | cases idle

theorem routedTo_offerHandle (s : State) (router : Nat) (rpcs : List Current.Identifier) :
    RoutedTo router (s.offerHandle router rpcs) := by
  unfold offerHandle
  split
  · split
    · exact .inl rfl
    · exact .inr ⟨_, .inl rfl⟩
  · exact .inl rfl

theorem routedTo_subscriptionHandle (s : State) (router : Nat) :
    RoutedTo router (s.subscriptionHandle router) := by
  unfold subscriptionHandle
  split
  · exact .inr ⟨_, .inr rfl⟩
  · exact .inl rfl

namespace Behind

theorem append (behind : s.Behind P) (facades : ∀ facade ∈ t.facades, facade.Holds P)
    (frames : t.frames = pushed ++ s.frames)
    (routed : ∀ frame ∈ pushed, ∀ underlying ∈ frame.underlyings, P underlying) :
    t.Behind P := by
  refine ⟨facades, fun frame member => ?_⟩
  rw [frames] at member
  rcases List.mem_append.mp member with new | old
  · exact routed frame new
  · exact behind.frames frame old

theorem leaves (behind : s.Behind P) (leaves : s.Leaves t pushed)
    (routed : ∀ frame ∈ pushed, ∀ underlying ∈ frame.underlyings, P underlying) :
    t.Behind P :=
  behind.append (leaves.facades ▸ behind.facades) leaves.frames routed

theorem aside (behind : s.Behind P) (aside : Aside s t) : t.Behind P := by
  obtain ⟨pushed, frames, free⟩ := aside.frames
  refine behind.append (aside.facades ▸ behind.facades) frames fun frame member => ?_
  rw [underlyings_of_duty? (free frame member)]
  exact nofun

theorem modifyFacade (behind : s.Behind P) {f : Facade → Facade}
    (kept : ∀ facade, s.facade? id = some facade → facade.Holds P → (f facade).Holds P) :
    (s.modifyFacade id f).Behind P := by
  refine ⟨fun facade member => ?_, behind.frames⟩
  rcases mem_of_modify member with ⟨before, there, rfl⟩ | old
  · exact kept before there (behind.facades before (List.mem_of_getElem? there))
  · exact behind.facades facade old

theorem facade (behind : s.Behind P) (there : s.facade? id = some found) : found.Holds P :=
  behind.facades found (List.mem_of_getElem? there)

theorem modifyRoster (behind : s.Behind P)
    {f : Roster Nat Server Handle → Roster Nat Server Handle}
    (kept : ∀ facade, s.facade? id = some facade → facade.Holds P →
      ∀ underlying ∈ (f facade.roster).underlyings, P underlying) :
    (s.modifyRoster id f).Behind P :=
  behind.modifyFacade fun facade there known =>
    ⟨known.offers, known.subscriptions, kept facade there known⟩

/-- A roster is replaced by one that holds no more, but for a registration with the router. -/
theorem replaceRoster (behind : s.Behind P) (there : s.facade? id = some found)
    {roster : Roster Nat Server Handle}
    (fewer : ∀ underlying ∈ roster.underlyings,
      underlying ∈ found.roster.underlyings ∨ P underlying) :
    (s.modifyRoster id fun _ => roster).Behind P := by
  refine behind.modifyRoster fun facade same known underlying member => ?_
  cases there.symm.trans same
  exact (fewer underlying member).elim (known.holds underlying) fun routed => routed

theorem letsGo (behind : s.Behind P) (goes : s.LetsGo id t) : t.Behind P := by
  cases goes with
  | kept => exact behind
  | leaving there alive =>
    exact behind.modifyFacade fun facade _ known => ⟨known.offers, known.subscriptions, known.holds⟩
  | @gone found t there before leaves =>
    have turned : (s.modifyFacade id ({ · with life := .gone })).Behind P :=
      behind.modifyFacade fun facade _ known => ⟨known.offers, known.subscriptions, known.holds⟩
    have holds : ∀ underlying ∈ found.arranged.underlyings, P underlying := by
      intro underlying member
      have all := found.roster.perm_underlyings_arranged found.order
      exact (behind.facade there).holds underlying (all.mem_iff.mp member)
    refine turned.leaves leaves ?_
    simpa [Frame.underlyings] using holds

theorem taken (behind : s.Behind P) (taken : s.Taken t) : t.Behind P := by
  have idle {frames : List Frame} (idle : ∀ frame ∈ frames, frame.isIdle = true) :
      ∀ frame ∈ frames, ∀ underlying ∈ frame.underlyings, P underlying := by
    intro frame member
    rw [underlyings_of_idle (idle frame member)]
    exact nofun
  have offered (home : Nat) (server : Server) (cost : Nat) (rpcs : List Current.Identifier) :
      ∀ frame ∈ offerFrames home server cost rpcs, ∀ underlying ∈ frame.underlyings,
        P underlying := by
    unfold offerFrames
    split <;> simp [Frame.underlyings]
  cases taken with
  | idle leaves free => exact behind.leaves leaves (idle free)
  | panic routers facades frames _ => exact ⟨facades ▸ behind.facades, frames ▸ behind.frames⟩
  | offer home implementation cost rpcs leaves free =>
    exact behind.leaves leaves (List.forall_mem_append.mpr ⟨offered _ _ _ _, idle free⟩)
  | listen home listener leaves free =>
    exact behind.leaves leaves (List.forall_mem_cons.mpr ⟨by simp [Frame.underlyings], idle free⟩)
  | offerThrough name rpcs there alive leaves =>
    refine Behind.leaves (behind.modifyRoster fun facade _ known underlying member => ?_) leaves
      (List.forall_mem_append.mpr ⟨offered _ _ _ _, ?_⟩)
    · refine known.holds underlying ?_
      simpa using member
    · have given := (behind.facade there).offers s rpcs
      simpa [Frame.underlyings] using given
  | listenThrough name there alive leaves =>
    refine Behind.leaves (behind.modifyRoster fun facade _ known => known.holds) leaves
      (List.forall_mem_append.mpr ⟨?_, ?_⟩)
    · simp [Frame.underlyings]
    · have given := (behind.facade there).subscriptions s
      simpa [Frame.underlyings] using given
  | callThrough there alive leaves => exact behind.leaves leaves (by simp [Frame.underlyings])
  | closeFacade there alive leaves =>
    refine behind.leaves leaves ?_
    simp only [List.forall_mem_append, List.forall_mem_map]
    simp [Frame.underlyings]
  | abandon leaves goes => exact (behind.leaves leaves (by simp [Frame.underlyings])).letsGo goes

theorem close (behind : s.Behind P) (handle : Handle) : (s.close handle).Behind P := by
  unfold State.close State.release
  split
  · split <;> split <;>
      first
      | exact behind
      | exact behind.leaves (.push s _) (by simp [Frame.underlyings])
  · exact behind

end Behind

theorem enter_behind (behind : (s.push [frame]).Behind P) (secure : s.Secure services) :
    (s.enter frame).Behind P := by
  have below : s.Behind P :=
    ⟨behind.facades, fun other member => behind.frames other (List.mem_cons_of_mem _ member)⟩
  have routed := behind.frames frame List.mem_cons_self
  cases frame with
  | script steps =>
    cases steps with
    | nil => exact below
    | cons step rest =>
      have aside : Aside s (s.push [.report step.name, .script rest]) :=
        .push s (by simp [Frame.duty?])
      exact (below.aside aside).taken (take_taken (aside.secure secure) step)
  | report name => exact below.aside (t := s.enter (.report name)) (.of_eq rfl rfl rfl)
  | answer answer => exact below.aside (t := s.enter (.answer answer)) (.of_eq rfl rfl rfl)
  | answerClosed handle =>
    exact below.aside (t := s.enter (.answerClosed handle)) (.of_eq rfl rfl rfl)
  | change home change => exact below.aside (.change s home change)
  | adopt home schema => exact below.aside (.adopt s home schema)
  | deliver home => exact below.aside (.deliverNext s home)
  | call home call => exact below.aside (.callListener s call)
  | keep name handle answer => exact below.aside (.keep s name handle answer)
  | close handle => exact below.close handle
  | closeKept handle =>
    simp only [enter, State.closeKept]
    split
    · have aside : Aside s { s with handles := s.handles.modify handle (·.close) } :=
        .of_eq rfl rfl rfl
      exact (below.aside aside).close _
    · exact below
  | complete facade id underlying =>
    simp only [enter, State.complete]
    split
    · exact below
    · rename_i found there
      simp only [Roster.complete]
      cases found.roster.record? id with
      | some record =>
        refine below.replaceRoster there fun u member => ?_
        refine (Roster.mem_underlyings_setUnderlying member).imp_right fun same => ?_
        exact routed u (by simp [Frame.underlyings, Option.some.inj same])
      | none =>
        refine Behind.leaves (below.replaceRoster there fun u member => .inl member)
          (.trans (.note _ _ _ _) (.push _ _)) ?_
        simpa [Frame.underlyings] using routed
  | completeListener facade id underlying =>
    refine Behind.leaves (below.modifyRoster fun found _ known u member => ?_) (.note _ _ _ _)
      (List.forall_mem_nil _)
    rcases Roster.mem_underlyings_enterListener.mp member with old | rfl
    · exact known.holds u old
    · exact routed u (by simp [Frame.underlyings])
  | release facade id =>
    simp only [enter, State.beginRelease]
    split
    · exact below
    · rename_i roster underlying begun
      obtain ⟨found, there, detached⟩ := Option.bind_eq_some_iff.mp begun
      obtain ⟨record, entered, rfl, rfl⟩ := Roster.detach?_eq_some.mp detached
      refine Behind.leaves (below.replaceRoster there fun u member => ?_) (.push _ _) ?_
      · rcases Roster.mem_underlyings_setUnderlying member with old | new
        · exact .inl old
        · cases new
      · have known := (below.facade there).holds
        simp only [List.forall_mem_append, List.forall_mem_map, Option.mem_toList]
        refine ⟨fun u holds => ?_, by simp [Frame.underlyings]⟩
        simp only [Frame.underlyings, List.mem_singleton, forall_eq]
        exact known u (Roster.mem_underlyings_of_record? entered holds)
  | finishRelease facade id =>
    refine Behind.leaves (below.modifyRoster fun found _ known u member => ?_) (.note _ _ _ _)
      (List.forall_mem_nil _)
    exact known.holds u (Roster.mem_underlyings_remove member)
  | releaseListener facade id =>
    simp only [enter, State.beginListenerRelease]
    split
    · exact below
    · rename_i underlying begun
      obtain ⟨found, there, entered⟩ := Option.bind_eq_some_iff.mp begun
      refine Behind.leaves (below.modifyRoster fun other _ known u member => ?_) (.push _ _) ?_
      · exact known.holds u (Roster.mem_underlyings_removeListener member)
      · have known := (below.facade there).holds underlying
          (Roster.mem_underlyings_of_listener? entered)
        simpa [Frame.underlyings] using known
  | finishListenerRelease id => exact below.aside (.note s _ _ _)
  | releaseListeners facade =>
    simp only [enter, State.releaseListeners]
    split
    · exact below
    · refine below.leaves (.push s _) ?_
      simp only [List.forall_mem_map]
      simp [Frame.underlyings]
  | letGo resource =>
    cases resource with
    | facade facade => exact below.letsGo (.of_letFacadeGo s facade)
    | roster facade => exact below.letsGo (.of_letRosterGo s facade)
    | router home => exact below
  | closeAll handles =>
    cases handles with
    | nil => exact below
    | cons handle rest =>
      refine below.leaves (.push s _) ?_
      simpa [Frame.underlyings] using routed
  | resume message => exact ⟨below.facades, below.frames⟩

theorem giveUp_behind (behind : (s.push [frame]).Behind P) (message : String) :
    (s.giveUp message frame).Behind P := by
  have below : s.Behind P :=
    ⟨behind.facades, fun other member => behind.frames other (List.mem_cons_of_mem _ member)⟩
  have routed := behind.frames frame List.mem_cons_self
  have calmed : State.Behind P { s with panic := none } := ⟨below.facades, below.frames⟩
  cases frame with
  | letGo resource =>
    have resumed := calmed.leaves (.push _ [.resume message]) (by simp [Frame.underlyings])
    cases resource with
    | facade facade => exact resumed.letsGo (.of_letFacadeGo _ facade)
    | roster facade => exact resumed.letsGo (.of_letRosterGo _ facade)
    | router home => exact resumed
  | closeAll handles =>
    refine calmed.leaves (.push _ [.closeAll handles, .resume message]) ?_
    simpa [Frame.underlyings] using routed
  | deliver home => exact ⟨below.facades, below.frames⟩
  | _ => exact below

theorem Move.behind {other : Nat} (move : Move other s acts t) (behind : s.Behind P)
    (secure : s.Secure services) : t.Behind P := by
  cases move with
  | take rest calm step =>
    have cleared : Aside s { s with log := [] } := .of_eq rfl rfl rfl
    exact (behind.aside cleared).taken (take_taken (cleared.secure secure) step)
  | land rest panicked => exact ⟨behind.facades, behind.frames⟩
  | work busy =>
    obtain ⟨below, frame, rfl⟩ := eq_push_of_busy busy
    cases panicked : below.panic with
    | none =>
      rw [advance_push panicked]
      exact enter_behind behind secure
    | some message =>
      rw [advance_push_of_panic panicked]
      exact giveUp_behind behind message

/-- Whatever happens, what facades hold stays of the kind that the routers behind them make. -/
theorem run_behind {passed : List (Deal Handle)} {other : Nat} (run : Run (Move other) s acts t)
    (behind : s.Behind P) (tidy : s.Tidy services) (sound : Sound passed s.custody) :
    t.Behind P ∧ t.Tidy services ∧ ∃ later, Sound later t.custody := by
  induction run with
  | still => exact ⟨behind, tidy, passed, sound⟩
  | onward _ move ih =>
    obtain ⟨behind', tidy', later, sound'⟩ := ih
    obtain ⟨path, tidy''⟩ := move_dealings move tidy' sound'
    exact ⟨Move.behind move behind' tidy'.secure, tidy'', _, sound'.run path⟩

/-- The router that all facades of a wiring are over, if they are over one. -/
def only? (wiring : Wiring) : Option Nat :=
  match wiring.layout with
  | .single | .two => some 0
  | .own => some 1
  | .stub | .split => none

theorem only?_lt {wiring : Wiring} (only : only? wiring = some router) : router < 2 := by
  obtain ⟨layout, order⟩ := wiring
  cases layout <;> cases only <;> omega

theorem start_behind (settings : RouterSettings) {wiring : Wiring}
    (only : only? wiring = some router) : (start settings wiring).Behind (RoutedTo router) := by
  have connecting (order : Order) :
      (Facade.connecting (some router) router order).Holds (RoutedTo router) :=
    ⟨fun s => routedTo_offerHandle s router, fun s => routedTo_subscriptionHandle s router, nofun⟩
  refine ⟨fun facade member => ?_, nofun⟩
  obtain ⟨layout, order⟩ := wiring
  cases layout with
  | single | own =>
    obtain rfl := Option.some.inj only
    exact List.mem_singleton.mp member ▸ connecting _
  | two =>
    obtain rfl := Option.some.inj only
    exact (List.mem_pair.mp member).elim (· ▸ connecting _) (· ▸ connecting _)
  | stub | split => contradiction

theorem eq_connecting_of_mem_start {settings : RouterSettings} {wiring : Wiring} {facade : Facade}
    (member : facade ∈ (start settings wiring).facades) :
    ∃ service provider order, facade = .connecting service provider order := by
  obtain ⟨layout, order⟩ := wiring
  cases layout with
  | two => exact (List.mem_pair.mp member).elim (⟨_, _, _, ·⟩) (⟨_, _, _, ·⟩)
  | single | own | stub | split => exact ⟨_, _, _, List.mem_singleton.mp member⟩

/-- Whatever is behind a facade, it is a router that has made what the facade holds. -/
theorem start_routed (settings : RouterSettings) (wiring : Wiring) :
    (start settings wiring).Behind fun handle => ∃ router, RoutedTo router handle := by
  refine ⟨fun facade member => ?_, nofun⟩
  obtain ⟨service, provider, order, rfl⟩ := eq_connecting_of_mem_start member
  refine ⟨fun s rpcs => ⟨provider, routedTo_offerHandle s provider rpcs⟩, fun s => ?_, nofun⟩
  cases service with
  | none => exact ⟨0, .inl rfl⟩
  | some router => exact ⟨router, routedTo_subscriptionHandle s router⟩

end State
end RpcRouting.Session
