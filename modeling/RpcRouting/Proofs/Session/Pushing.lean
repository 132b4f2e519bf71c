import RpcRouting.Proofs.Session.Dealing
/-! What a step puts on the stack, said once for all steps. Most steps leave routers and facades as
they are and push frames that do so too; the others begin a registration, call a facade, close it or
give it up. -/
namespace RpcRouting.Session

/-- A handle that no facade has made. -/
def isOfRouter (handle : Handle) : Bool :=
  match handle.release with
  | some (.facadeImplementation _ _) | some (.facadeListener _ _) => false
  | _ => true

/-- A frame that leaves the registrations with routers and facades as they are, unless it goes on
to push other frames. -/
def Frame.isIdle : Frame → Bool
  | .script _ | .report _ | .answer _ | .answerClosed _ | .adopt _ _ | .closeKept _
  | .letGo (.router _) | .finishListenerRelease _ | .resume _ => true
  | .keep _ handle _ => isOfRouter handle
  | _ => false

namespace State

/-- Work that leaves routers, facades and handles as they are, and puts frames on the stack. -/
structure Leaves (s t : State) (pushed : List Frame) : Prop where
  routers : t.routers = s.routers
  facades : t.facades = s.facades
  frames : t.frames = pushed ++ s.frames
  handles : t.handles = s.handles
  panic : t.panic = s.panic

/-- The change by which a router gets to know an implementation, if there is anything to know. -/
def offerFrames (router : Nat) (server : Server) (cost : Nat) (rpcs : List Current.Identifier) :
    List Frame :=
  if rpcs.isEmpty then [] else [.change router (.register server cost rpcs)]

/-- What becomes of a facade that somebody need not have any longer. -/
inductive LetsGo (id : Nat) (s : State) : State → Prop
  | kept : LetsGo id s s
  | leaving {found : Facade} (there : s.facade? id = some found) (alive : found.life = .alive) :
      LetsGo id s (s.modifyFacade id ({ · with life := .leaving }))
  | gone {found : Facade} {t : State} (there : s.facade? id = some found)
      (before : found.life ≠ .gone)
      (leaves : (s.modifyFacade id ({ · with life := .gone })).Leaves t
        [.closeAll found.arranged.underlyings, .answer s.answer]) : LetsGo id s t

/-- What a step can do. -/
inductive Taken (s : State) : State → Prop
  | idle {t : State} {pushed : List Frame} (leaves : s.Leaves t pushed)
      (idle : ∀ frame ∈ pushed, frame.isIdle = true) : Taken s t
  | panic {t : State} (routers : t.routers = s.routers) (facades : t.facades = s.facades)
      (frames : t.frames = s.frames) (handles : t.handles = s.handles) : Taken s t
  | offer {t : State} {below : List Frame} (router implementation cost : Nat)
      (rpcs : List Current.Identifier)
      (leaves : s.Leaves t (offerFrames router (.native implementation) cost rpcs ++ below))
      (idle : ∀ frame ∈ below, frame.isIdle = true) : Taken s t
  | listen {t : State} {below : List Frame} (router listener : Nat)
      (leaves : s.Leaves t (.change router (.listen (.native listener)) :: below))
      (idle : ∀ frame ∈ below, frame.isIdle = true) : Taken s t
  -- Through a facade.
  | offerThrough {t : State} {id implementation cost : Nat} {found : Facade} (name : String)
      (rpcs : List Current.Identifier) (there : s.facade? id = some found) (alive : found.life = .alive)
      (leaves : (s.modifyRoster id (·.takeNumber.enter found.roster.nextNumber implementation
          (.adapted id found.roster.nextNumber implementation))).Leaves t
        (offerFrames found.provider (.adapted id found.roster.nextNumber implementation) cost rpcs ++
          [.complete id found.roster.nextNumber (s.offerHandle found.provider rpcs),
            .keep name (.opened () (.facadeImplementation id found.roster.nextNumber))
              (.registered false),
            .letGo (.facade id)])) : Taken s t
  | listenThrough {t : State} {id listener : Nat} {found : Facade} (name : String)
      (there : s.facade? id = some found) (alive : found.life = .alive)
      (leaves : (s.modifyRoster id (·.takeNumber)).Leaves t
        ((found.service.map fun router => .change router (.listen (.wrapped id listener))).toList ++
          [.completeListener id found.roster.nextNumber
              (found.service.elim (.inert ()) s.subscriptionHandle),
            .keep name (.opened () (.facadeListener id found.roster.nextNumber)) (.listening false),
            .letGo (.facade id)])) : Taken s t
  | callThrough {t : State} {id : Nat} {found : Facade} {script : List Step} {answer : Answer}
      (there : s.facade? id = some found) (alive : found.life = .alive)
      (leaves : s.Leaves t [.script script, .answer answer, .letGo (.facade id)]) : Taken s t
  | closeFacade {t : State} {id : Nat} {found : Facade} {answer : Answer}
      (there : s.facade? id = some found) (alive : found.life = .alive)
      (leaves : s.Leaves t (found.arranged.records.map (fun (number, _) => .release id number) ++
        [.releaseListeners id, .answer answer, .letGo (.facade id)])) : Taken s t
  | abandon {between t : State} {id : Nat} {answer : Answer}
      (leaves : s.Leaves between [.answer answer]) (goes : between.LetsGo id t) : Taken s t

variable {s t u : State} {pushed later : List Frame} {id : Nat} {services : List (Option Nat)}

namespace Leaves

theorem of_eq (routers : t.routers = s.routers) (facades : t.facades = s.facades)
    (frames : t.frames = s.frames) (handles : t.handles = s.handles) (panic : t.panic = s.panic) :
    s.Leaves t [] :=
  ⟨routers, facades, frames, handles, panic⟩

theorem note (s : State) (level message fields) : s.Leaves (s.note level message fields) [] :=
  of_eq rfl rfl rfl rfl rfl

theorem push (s : State) (frames : List Frame) : s.Leaves (s.push frames) frames :=
  ⟨rfl, rfl, rfl, rfl, rfl⟩

theorem trans (first : s.Leaves t pushed) (second : t.Leaves u later) :
    s.Leaves u (later ++ pushed) :=
  ⟨second.routers.trans first.routers, second.facades.trans first.facades, by
    rw [second.frames, first.frames, List.append_assoc], second.handles.trans first.handles,
    second.panic.trans first.panic⟩

theorem after (first : s.Leaves t []) (second : t.Leaves u pushed) : s.Leaves u pushed :=
  List.append_nil pushed ▸ first.trans second

theorem modifyFacade (leaves : s.Leaves t []) (id : Nat) (f : Facade → Facade) :
    (s.modifyFacade id f).Leaves (t.modifyFacade id f) [] :=
  ⟨leaves.routers, congrArg (List.modify · id f) leaves.facades, leaves.frames, leaves.handles,
    leaves.panic⟩

theorem modifyRoster (leaves : s.Leaves t []) (id : Nat)
    (f : Roster Nat Server Handle → Roster Nat Server Handle) :
    (s.modifyRoster id f).Leaves (t.modifyRoster id f) [] := leaves.modifyFacade id _

theorem facade? (leaves : s.Leaves t pushed) (id : Nat) : t.facade? id = s.facade? id := by
  rw [State.facade?, leaves.facades, State.facade?]

theorem callServer (s : State) (server : Server) (rpc input) :
    s.Leaves (s.callServer server rpc input).1 [] := by
  unfold State.callServer
  split
  · exact of_eq rfl rfl rfl rfl rfl
  · cases server <;> exact of_eq rfl rfl rfl rfl rfl

theorem noteFallback (s : State) (router : Router Server Watcher) (type input) :
    s.Leaves (s.noteFallback router type input) [] := by
  unfold State.noteFallback
  split
  · split <;> exact of_eq rfl rfl rfl rfl rfl
  · exact of_eq rfl rfl rfl rfl rfl

theorem callRouter (s : State) (router : Nat) (type input) :
    s.Leaves (s.callRouter router type input).1 [] := by
  unfold State.callRouter
  split
  · exact of_eq rfl rfl rfl rfl rfl
  · rename_i found _
    have noted := noteFallback s found type input
    dsimp only
    split
    · exact (noted.after (note _ _ _ _)).after (callServer _ _ _ _)
    · exact noted.after (note _ _ _ _)
    · exact noted.after (note _ _ _ _)

theorem callService (s : State) (service : Option Nat) (type input) :
    s.Leaves (s.callService service type input).1 [] := by
  cases service with
  | none => exact of_eq rfl rfl rfl rfl rfl
  | some router => exact callRouter s router type input

theorem introduceImplementation {name : String} {plan : Option (ImplementationPlan Step)}
    (introduced : s.introduceImplementation name plan = some (t, id)) : s.Leaves t [] := by
  cases plan with
  | none =>
    obtain ⟨_, -, same⟩ := Option.map_eq_some_iff.mp introduced
    obtain ⟨rfl, -⟩ := Prod.mk.inj same
    exact of_eq rfl rfl rfl rfl rfl
  | some plan =>
    obtain ⟨rfl, -⟩ := Prod.mk.inj (Option.some.inj introduced)
    exact of_eq rfl rfl rfl rfl rfl

theorem introduceListener {name : String} {plan : Option (ListenerPlan Step)}
    (introduced : s.introduceListener name plan = some (t, id)) : s.Leaves t [] := by
  cases plan with
  | none =>
    obtain ⟨_, -, same⟩ := Option.map_eq_some_iff.mp introduced
    obtain ⟨rfl, -⟩ := Prod.mk.inj same
    exact of_eq rfl rfl rfl rfl rfl
  | some plan =>
    obtain ⟨rfl, -⟩ := Prod.mk.inj (Option.some.inj introduced)
    exact of_eq rfl rfl rfl rfl rfl

theorem registerWith (s : State) (router : Nat) (server : Server)
    (rpcs : List Current.Identifier) :
    s.Leaves (s.registerWith router server rpcs)
      (offerFrames router server (s.costOf server.implementation) rpcs) := by
  unfold State.registerWith offerFrames
  split
  · exact of_eq rfl rfl rfl rfl rfl
  · exact push s _

end Leaves

theorem offerHandle_congr (routers : t.routers = s.routers) (router : Nat)
    (rpcs : List Current.Identifier) : t.offerHandle router rpcs = s.offerHandle router rpcs := by
  simp only [offerHandle, router?, routers]

theorem subscriptionHandle_congr (routers : t.routers = s.routers) :
    t.subscriptionHandle = s.subscriptionHandle := by
  funext router
  simp only [subscriptionHandle, router?, routers]

theorem isOfRouter_offerHandle (s : State) (router : Nat) (rpcs : List Current.Identifier) :
    isOfRouter (s.offerHandle router rpcs) = true := by
  unfold offerHandle
  split
  · split <;> rfl
  · rfl

theorem isOfRouter_subscriptionHandle (s : State) (router : Nat) :
    isOfRouter (s.subscriptionHandle router) = true := by
  unfold subscriptionHandle
  split <;> rfl

/-! What is let go. -/

theorem LetsGo.of_letRosterGo (s : State) (id : Nat) : s.LetsGo id (s.letRosterGo id) := by
  unfold State.letRosterGo
  split
  · rename_i found there
    split
    · rename_i last
      exact .gone there (by simp [last.1]) ⟨rfl, rfl, rfl, rfl, rfl⟩
    · exact .kept
  · exact .kept

theorem LetsGo.of_letFacadeGo (s : State) (id : Nat) : s.LetsGo id (s.letFacadeGo id) := by
  unfold State.letFacadeGo
  split
  · rename_i found there
    split
    · rename_i last
      have turned := facade?_modifyFacade there ({ · with life := .leaving })
      unfold State.letRosterGo
      rw [turned]
      dsimp only
      split
      · refine .gone there (by simp [last.1]) ⟨rfl, ?_, rfl, rfl, rfl⟩
        exact List.modify_modify_eq ..
      · exact .leaving there last.1
    · exact .kept
  · exact .kept

/-! Steps. -/

namespace Taken

theorem refuse (s : State) (reason : Refusal) : s.Taken (s.refuse reason) :=
  .idle (.of_eq rfl rfl rfl rfl rfl) (List.forall_mem_nil _)

theorem reply (s : State) (answer : Answer) : s.Taken (s.reply answer) :=
  .idle (.of_eq rfl rfl rfl rfl rfl) (List.forall_mem_nil _)

theorem push (s : State) {frames : List Frame} (idle : ∀ frame ∈ frames, frame.isIdle = true) :
    s.Taken (s.push frames) :=
  .idle (.push s frames) idle

theorem after (first : s.Leaves t []) (taken : t.Taken u) : s.Taken u := by
  cases taken with
  | idle leaves idle => exact .idle (first.after leaves) idle
  | panic routers facades frames handles =>
    exact .panic (routers.trans first.routers) (facades.trans first.facades)
      (frames.trans first.frames) (handles.trans first.handles)
  | offer router implementation cost rpcs leaves idle =>
    exact .offer router implementation cost rpcs (first.after leaves) idle
  | listen router listener leaves idle => exact .listen router listener (first.after leaves) idle
  | offerThrough name rpcs there alive leaves =>
    rw [offerHandle_congr first.routers] at leaves
    exact .offerThrough name rpcs (first.facade? _ ▸ there) alive
      ((first.modifyRoster _ _).after leaves)
  | listenThrough name there alive leaves =>
    rw [subscriptionHandle_congr first.routers] at leaves
    exact .listenThrough name (first.facade? _ ▸ there) alive ((first.modifyRoster _ _).after leaves)
  | callThrough there alive leaves =>
    exact .callThrough (first.facade? _ ▸ there) alive (first.after leaves)
  | closeFacade there alive leaves =>
    exact .closeFacade (first.facade? _ ▸ there) alive (first.after leaves)
  | abandon leaves goes => exact .abandon (first.after leaves) goes

theorem withHandle (s : State) (name : String) {act : Nat → State}
    (acts : ∀ handle, s.Taken (act handle)) : s.Taken (s.withHandle name act) := by
  unfold State.withHandle
  split
  · exact acts _
  · exact refuse s _

theorem withTarget (secure : s.Secure services) (target : Target) {onFacade : Nat → Facade → State}
    {onRouter : Nat → Router Server Watcher → State}
    (facades : ∀ id facade, s.facade? id = some facade → facade.life = .alive →
      s.Taken (onFacade id facade))
    (routers : ∀ id router, s.Taken (onRouter id router)) :
    s.Taken (s.withTarget target onFacade onRouter) := by
  unfold State.withTarget
  cases has : s.targets.facade? target with
  | some id =>
    obtain ⟨facade, there, alive⟩ := secure.1 id (hasFacade_of_facade? has)
    dsimp only
    rw [there]
    exact facades id facade there alive
  | none =>
    cases s.targets.router? target with
    | none => exact refuse s _
    | some id =>
      dsimp only
      split
      · exact routers _ _
      · exact refuse s _

theorem withRead (s : State) (read : Except PathError α) {act : α → State}
    (acts : ∀ value, s.Taken (act value)) : s.Taken (s.withRead read act) := by
  unfold State.withRead
  split
  · exact acts _
  · exact refuse s _

theorem of_registerThrough {found : Facade} (there : s.facade? id = some found)
    (alive : found.life = .alive) (handle : String) (implementation : Nat)
    (rpcs : List Legacy.Identifier) :
    s.Taken (s.registerThrough id found handle implementation rpcs) := by
  refine .offerThrough handle (rpcs.map (·.toCurrent)) there alive
    (Leaves.trans ?_ (.registerWith _ _ _ _))
  exact ⟨rfl, rfl, rfl, rfl, rfl⟩

theorem of_listenThrough {found : Facade} (there : s.facade? id = some found)
    (alive : found.life = .alive) (handle : String) (listener : Nat) :
    s.Taken (s.listenThrough id found handle listener) := by
  refine .listenThrough handle there alive (?_ : Leaves _ _ ((found.service.map fun router =>
    .change router (.listen (.wrapped id listener))).toList ++ _))
  unfold State.listenThrough
  cases found.service <;> exact ⟨rfl, rfl, rfl, rfl, rfl⟩

theorem of_abandon (s : State) (target : Target) : s.Taken (s.abandon target) := by
  obtain ⟨refusal, same⟩ | ⟨targets, -, same | ⟨id, same⟩⟩ := s.abandon_cases target
  · exact same ▸ refuse s refusal
  · exact same ▸ .idle (.of_eq rfl rfl rfl rfl rfl) (List.forall_mem_nil _)
  · have parted : s.Leaves (State.push { s with targets := targets } [.answer (.text "dropped")])
        [.answer (.text "dropped")] := ⟨rfl, rfl, rfl, rfl, rfl⟩
    exact same ▸ .abandon parted (.of_letFacadeGo _ id)

theorem updateServiceSchema (s : State) (service : Option Nat) (schema : Schema) (answer : Answer) :
    s.Taken ((s.updateServiceSchema service schema).reply answer) := by
  cases service with
  | none => exact .idle (.of_eq rfl rfl rfl rfl rfl) (List.forall_mem_nil _)
  | some router =>
    exact .idle ⟨rfl, rfl, (rfl : _ = [.adopt router schema] ++ s.frames), rfl, rfl⟩
      (by simp [Frame.isIdle])

end Taken

theorem take_taken (secure : s.Secure services) (step : Step) : s.Taken (s.take step) := by
  cases step with
  | register target handle name plan rpcs =>
    simp only [State.take]
    split
    · rename_i introduced implementation known
      have leaves := Leaves.introduceImplementation known
      have secure := (Aside.introduceImplementation known).secure secure
      refine .after leaves (.withTarget secure target (fun id facade there alive => ?_) fun id _ => ?_)
      · exact .withRead _ _ fun rpcs => .of_registerThrough there alive handle implementation _
      · refine .withRead _ _ fun rpcs => .offer id implementation _ rpcs.eraseDups
          (Leaves.trans (.push _ _) (.registerWith _ _ _ _)) ?_
        simp [Frame.isIdle, isOfRouter_offerHandle]
    · exact .refuse s _
  | listen target handle name plan =>
    simp only [State.take]
    split
    · rename_i introduced listener known
      have leaves := Leaves.introduceListener known
      have secure := (Aside.introduceListener known).secure secure
      refine .after leaves (.withTarget secure target (fun id facade there alive => ?_) fun id _ => ?_)
      · exact .of_listenThrough there alive handle listener
      · exact .listen id listener (.push _ _)
          (by simp [Frame.isIdle, isOfRouter_subscriptionHandle])
    · exact .refuse s _
  | close handle => exact .withHandle s handle fun id => .push s (by simp [Frame.isIdle])
  | closed handle => exact .withHandle s handle fun id => .reply s _
  | forget handle =>
    refine .withHandle s handle fun id => ?_
    exact .idle ⟨rfl, rfl, (rfl : _ = [.closeKept id, .answer (.text "dropped")] ++ s.frames),
      rfl, rfl⟩ (by simp [Frame.isIdle])
  | invoke target type input =>
    refine .withTarget secure target (fun id facade there alive => ?_) fun id router => ?_
    · refine .withRead s _ fun type => .after (.callService s facade.service type input) ?_
      exact .callThrough ((Leaves.facade? (.callService ..) id).trans there) alive (.push _ _)
    · refine .withRead s _ fun type => .after (.callRouter s id type input) (.push _ ?_)
      simp [Frame.isIdle]
  | isAvailable target rpc =>
    exact .withTarget secure target (fun _ _ _ _ => .refuse s _)
      (fun _ _ => .withRead s _ fun _ => .reply s _)
  | look target =>
    exact .withTarget secure target (fun _ _ _ _ => .refuse s _) (fun _ _ => .reply s _)
  | updateSchema target definitions =>
    exact .withTarget secure target
      (fun _ _ _ _ => .withRead s _ fun _ => .updateServiceSchema s _ _ _)
      (fun _ _ => .withRead s _ fun _ => .updateServiceSchema s _ _ _)
  | setCost name cost =>
    simp only [State.take]
    split
    · exact .idle (.of_eq rfl rfl rfl rfl rfl) (List.forall_mem_nil _)
    · exact .refuse s _
  | setRejected name preference =>
    simp only [State.take]
    split
    · exact .idle (.of_eq rfl rfl rfl rfl rfl) (List.forall_mem_nil _)
    · exact .refuse s _
  | asked name =>
    simp only [State.take]
    split
    · exact .reply s _
    · exact .refuse s _
  | describe target =>
    exact .withTarget secure target (fun _ _ _ _ => .reply s _) (fun _ _ => .reply s _)
  | describeHandle name =>
    refine .withHandle s name fun id => ?_
    split
    · exact .reply s _
    · exact .refuse s _
  | closeFacade target =>
    exact .withTarget secure target
      (fun _ _ there alive => .closeFacade there alive ⟨rfl, rfl, rfl, rfl, rfl⟩)
      (fun _ _ => .refuse s _)
  | abandon target => exact .of_abandon s target
  | panic message => exact .panic rfl rfl rfl rfl
  | unknown name => exact .refuse s _

end State
end RpcRouting.Session
