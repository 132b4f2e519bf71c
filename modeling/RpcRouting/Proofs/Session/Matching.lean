import RpcRouting.Proofs.Session.Shuffling
/-! The same step, taken by two sessions that are the same but for the order in which identifiers are
enumerated. Where the step enumerates identifiers itself, each session has them in its own order; the
two stay the same but for such orders. -/
namespace RpcRouting.Session

section Sets
variable {α β ε : Type}

theorem nodup_eraseDups [DecidableEq α] (xs : List α) : xs.eraseDups.Nodup := by
  induction xs using List.reverseRecOn with
  | nil => exact List.nodup_nil
  | append_singleton xs x ih =>
    rw [List.eraseDups_append]
    by_cases seen : x ∈ xs
    · simpa [List.removeAll, seen] using ih
    · have fresh : ∀ y ∈ xs.eraseDups, ∀ z ∈ [x], y ≠ z := by
        rintro y member z last rfl
        exact seen (List.mem_singleton.mp last ▸ List.mem_eraseDups.mp member)
      simpa [List.removeAll, seen, List.eraseDups_cons] using
        List.nodup_append.mpr ⟨ih, List.nodup_singleton x, fresh⟩

/-- Lists with the same members come to the same set, in whatever order. -/
theorem perm_eraseDups [DecidableEq α] {xs ys : List α} (same : ∀ x, x ∈ xs ↔ x ∈ ys) :
    xs.eraseDups.Perm ys.eraseDups := by
  rw [List.perm_ext_iff_of_nodup (nodup_eraseDups xs) (nodup_eraseDups ys)]
  intro x
  rw [List.mem_eraseDups, List.mem_eraseDups, same]

theorem mapM_fmap (f : α → β) {γ : Type} (read : γ → Except ε α) (xs : List γ) :
    xs.mapM (fun x => f <$> read x) = List.map f <$> xs.mapM read := by
  induction xs with
  | nil => rfl
  | cons x xs ih =>
    rw [List.mapM_cons, List.mapM_cons, ih]
    cases read x with
    | error => rfl
    | ok => cases xs.mapM read <;> rfl

theorem forall₂_headD {R : α → β → Prop} {first : List (List α)} {second : List (List β)}
    (related : List.Forall₂ (List.Forall₂ R) first second) :
    List.Forall₂ R (first.headD []) (second.headD []) := by
  cases related with
  | nil => exact .nil
  | cons here _ => exact here

theorem forall₂_tail {R : α → β → Prop} {first : List α} {second : List β}
    (related : List.Forall₂ R first second) : List.Forall₂ R first.tail second.tail := by
  cases related with
  | nil => exact .nil
  | cons _ rest => exact rest

end Sets

structure ImplementationPlan.Shuffled (plan other : ImplementationPlan Step) : Prop where
  cost : other.cost = plan.cost
  outcome : other.outcome = plan.outcome
  onInvoke : List.Forall₂ (List.Forall₂ Step.Shuffled) plan.onInvoke other.onInvoke

structure ListenerPlan.Shuffled (plan other : ListenerPlan Step) : Prop where
  preference : other.preference = plan.preference
  onAvailable : List.Forall₂ (List.Forall₂ Step.Shuffled) plan.onAvailable other.onAvailable
  onUnavailable : List.Forall₂ (List.Forall₂ Step.Shuffled) plan.onUnavailable other.onUnavailable

theorem shuffled_scripts (scripts : List (List Step)) :
    List.Forall₂ (List.Forall₂ Step.Shuffled) scripts scripts :=
  List.forall₂_same.mpr fun _ _ => List.forall₂_same.mpr fun step _ => .same step

namespace Implementation.Shuffled
variable {implementation other : Implementation}

theorem answerCurrent (shuffled : implementation.Shuffled other) (rpc : Current.Identifier)
    (input : Option Payload) :
    other.answerCurrent rpc input = implementation.answerCurrent rpc input := by
  simp only [Implementation.answerCurrent, Implementation.echo, shuffled.outcome, shuffled.name]

theorem answerLegacy (shuffled : implementation.Shuffled other) (rpc : Legacy.Identifier)
    (input : Option Payload) :
    other.answerLegacy rpc input = implementation.answerLegacy rpc input := by
  simp only [Implementation.answerLegacy, Implementation.echo, shuffled.outcome, shuffled.name]

end Implementation.Shuffled

theorem Watcher.perm_bring (watcher : Watcher) {rpcs rpcs' : List Current.Identifier}
    (order : rpcs.Perm rpcs') : (watcher.bring rpcs).Perm (watcher.bring rpcs') := by
  cases watcher with
  | native => exact order
  | wrapped => exact order.map _

namespace State

/-- Two calls that come to the same. -/
structure Concurs (called called' : State × List Step × Verdict .current) : Prop where
  state : called.1.Shuffled called'.1
  script : List.Forall₂ Step.Shuffled called.2.1 called'.2.1
  verdict : called'.2.2 = called.2.2

namespace Shuffled
variable {s t : State}

/-! Calls. -/

theorem callListener (shuffled : s.Shuffled t) {call call' : Call Watcher}
    (same : call.Shuffled call') : (s.callListener call).Shuffled (t.callListener call') := by
  unfold State.callListener
  dsimp only
  rw [same.listener, same.available, shuffled.answer]
  rcases shuffled.listener? call.listener.listener with ⟨missing, missing'⟩ |
    ⟨found, found', there, there', alike⟩
  · rw [missing, missing']
    exact shuffled
  · rw [there, there']
    dsimp only
    rw [alike.name]
    have goes (available : Bool) {next next' : Listener} {script script' : List Step}
        (becomes : next.Shuffled next') (runs : List.Forall₂ Step.Shuffled script script') :
        (((s.emit (.notified available found.name _ (call.listener.bring call.rpcs))).modifyListener
          call.listener.listener fun _ => next).push [.script script, .answer s.answer]).Shuffled
        (((t.emit (.notified available found.name _ (call.listener.bring call'.rpcs))).modifyListener
          call.listener.listener fun _ => next').push [.script script', .answer s.answer]) :=
      ((shuffled.emit (.notified _ _ _ (call.listener.perm_bring same.rpcs))).modifyListener _
        fun _ => becomes).push (.cons (.script runs) (Frame.shuffled_refl _))
    cases call.available with
    | true =>
      exact goes true { alike with name := rfl, onAvailable := forall₂_tail alike.onAvailable }
        (forall₂_headD alike.onAvailable)
    | false =>
      exact goes false { alike with name := rfl, onUnavailable := forall₂_tail alike.onUnavailable }
        (forall₂_headD alike.onUnavailable)

theorem callServer (shuffled : s.Shuffled t) (server : Server) (rpc : Current.Identifier)
    (input : Option Payload) :
    Concurs (s.callServer server rpc input) (t.callServer server rpc input) := by
  unfold State.callServer
  rcases shuffled.implementation? server.implementation with ⟨missing, missing'⟩ |
    ⟨found, found', there, there', same⟩
  · rw [missing, missing']
    exact ⟨shuffled, .nil, rfl⟩
  · rw [there, there']
    have called := shuffled.modifyImplementation server.implementation
      (f := fun _ => { found with onInvoke := found.onInvoke.tail })
      (g := fun _ => { found' with onInvoke := found'.onInvoke.tail })
      fun _ => { same with onInvoke := forall₂_tail same.onInvoke }
    cases server with
    | native implementation =>
      refine ⟨called.emit ?_, forall₂_headD same.onInvoke, same.answerCurrent rpc input⟩
      rw [same.name]
      exact .same _
    | adapted facade id implementation =>
      refine ⟨(called.note _ _ _).emit ?_, forall₂_headD same.onInvoke, ?_⟩
      · rw [same.name]
        exact .same _
      · exact congrArg adapterVerdict (same.answerLegacy rpc.toLegacy input)

theorem noteFallback (shuffled : s.Shuffled t) {found found' : Router Server Watcher}
    (same : found.Shuffled found') (type : SchemaPath) (input : Option Payload) :
    (s.noteFallback found type input).Shuffled (t.noteFallback found' type input) := by
  unfold State.noteFallback
  simp only [same.contextOf, same.fallsBack, same.directory.serves]
  split
  · split
    · exact shuffled.note _ _ _
    · exact shuffled
  · exact shuffled

theorem callRouter (shuffled : s.Shuffled t) (router : Nat) (type : SchemaPath)
    (input : Option Payload) :
    Concurs (s.callRouter router type input) (t.callRouter router type input) := by
  unfold State.callRouter
  rcases shuffled.router? router with ⟨missing, missing'⟩ | ⟨found, found', there, there', same⟩
  · rw [missing, missing']
    exact ⟨shuffled, .nil, rfl⟩
  · have noted := shuffled.noteFallback same type input
    simp only [there, there', same.choose]
    cases found.choose type input with
    | dispatch server rpc => exact (noted.note _ _ _).callServer server rpc input
    | unavailable | malformed => exact ⟨noted.note _ _ _, .nil, rfl⟩

theorem callService (shuffled : s.Shuffled t) (service : Option Nat) (type : SchemaPath)
    (input : Option Payload) :
    Concurs (s.callService service type input) (t.callService service type input) := by
  cases service with
  | none => exact ⟨shuffled, .nil, rfl⟩
  | some router => exact shuffled.callRouter router type input

/-! What a step is about. -/

theorem withHandle (shuffled : s.Shuffled t) (name : String) {act act' : Nat → State}
    (acts : ∀ handle, (act handle).Shuffled (act' handle)) :
    (s.withHandle name act).Shuffled (t.withHandle name act') := by
  unfold State.withHandle
  rw [shuffled.handleNames]
  cases s.handleNames.lookup name with
  | none => exact shuffled.refuse _
  | some handle => exact acts handle

theorem withTarget (shuffled : s.Shuffled t) (target : Target)
    {onFacade onFacade' : Nat → Facade → State}
    {onRouter onRouter' : Nat → Router Server Watcher → State}
    (facades : ∀ id facade, (onFacade id facade).Shuffled (onFacade' id facade))
    (routers : ∀ id {found found'}, found.Shuffled found' →
      (onRouter id found).Shuffled (onRouter' id found')) :
    (s.withTarget target onFacade onRouter).Shuffled (t.withTarget target onFacade' onRouter') := by
  unfold State.withTarget
  rw [shuffled.targets, shuffled.facade?]
  cases s.targets.facade? target with
  | some id =>
    dsimp only
    cases s.facade? id with
    | none => exact shuffled.refuse _
    | some facade => exact facades id facade
  | none =>
    cases s.targets.router? target with
    | none => exact shuffled.refuse _
    | some id =>
      dsimp only
      rcases shuffled.router? id with ⟨missing, missing'⟩ | ⟨found, found', there, there', same⟩
      · rw [missing, missing']
        exact shuffled.refuse _
      · rw [there, there']
        exact routers id same

theorem withRead {α : Type} (shuffled : s.Shuffled t) (read : Except PathError α)
    {act act' : α → State} (acts : ∀ value, (act value).Shuffled (act' value)) :
    (s.withRead read act).Shuffled (t.withRead read act') := by
  cases read with
  | error => exact shuffled.refuse _
  | ok value => exact acts value

/-- The same identifiers are read, or the same refusal is made. -/
theorem withSet {α : Type} [DecidableEq α] (shuffled : s.Shuffled t)
    {texts texts' : List IdentifierText} (set : IdentifierText.SameSet texts texts')
    (f : SchemaPath × Option InstancePath → α) {act act' : List α → State}
    (acts : ∀ {rpcs rpcs'}, rpcs.eraseDups.Perm rpcs'.eraseDups →
      (act rpcs).Shuffled (act' rpcs')) :
    (s.withRead (texts.mapM fun text => f <$> text.read) act).Shuffled
      (t.withRead (texts'.mapM fun text => f <$> text.read) act') := by
  cases set with
  | same => exact shuffled.withRead _ fun rpcs => acts (.refl _)
  | read found found' same =>
    -- Different identifiers may be brought to the same one, so only sets can be compared here.
    rw [mapM_fmap, mapM_fmap, found, found']
    show (act (List.map f _)).Shuffled (act' (List.map f _))
    refine acts (perm_eraseDups fun rpc => ?_)
    simp only [List.mem_map, same]

/-! Registrations. -/

theorem registerThrough (shuffled : s.Shuffled t) (id : Nat) (facade : Facade) (handle : String)
    (implementation : Nat) {rpcs rpcs' : List Legacy.Identifier} (order : rpcs.Perm rpcs') :
    (s.registerThrough id facade handle implementation rpcs).Shuffled
      (t.registerThrough id facade handle implementation rpcs') := by
  have brought : (rpcs.map (·.toCurrent)).Perm (rpcs'.map (·.toCurrent)) := order.map _
  simp only [State.registerThrough, shuffled.offerHandle facade.provider brought,
    brought.length_eq]
  exact (((shuffled.modifyRoster id _).note _ _ _).pushSame _).registerWith _ _ brought

theorem registerDirectly (shuffled : s.Shuffled t) (router : Nat) (handle : String)
    (implementation : Nat) {rpcs rpcs' : List Current.Identifier} (order : rpcs.Perm rpcs') :
    (s.registerDirectly router handle implementation rpcs).Shuffled
      (t.registerDirectly router handle implementation rpcs') := by
  simp only [State.registerDirectly, shuffled.offerHandle router order]
  exact (shuffled.pushSame _).registerWith _ _ order

theorem register (shuffled : s.Shuffled t) (target : Target) (handle : String)
    (implementation : Nat) {texts texts' : List IdentifierText}
    (set : IdentifierText.SameSet texts texts') :
    (s.register target handle implementation texts).Shuffled
      (t.register target handle implementation texts') :=
  shuffled.withTarget target
    (fun id facade => shuffled.withSet set _ fun order =>
      shuffled.registerThrough id facade handle implementation order)
    (fun id _ _ _ => shuffled.withSet set _ fun order =>
      shuffled.registerDirectly id handle implementation order)

theorem listenThrough (shuffled : s.Shuffled t) (id : Nat) (facade : Facade) (handle : String)
    (listener : Nat) :
    (s.listenThrough id facade handle listener).Shuffled
      (t.listenThrough id facade handle listener) := by
  have counted := shuffled.modifyRoster id (·.takeNumber)
  unfold State.listenThrough
  cases facade.service with
  | none => exact counted.pushSame _
  | some router =>
    dsimp only
    rw [shuffled.subscriptionHandle]
    exact (counted.pushSame _).pushSame _

theorem listenDirectly (shuffled : s.Shuffled t) (router : Nat) (handle : String)
    (listener : Nat) :
    (s.listenDirectly router handle listener).Shuffled
      (t.listenDirectly router handle listener) := by
  simp only [State.listenDirectly, shuffled.subscriptionHandle]
  exact shuffled.pushSame _

theorem listen (shuffled : s.Shuffled t) (target : Target) (handle : String) (listener : Nat) :
    (s.listen target handle listener).Shuffled (t.listen target handle listener) :=
  shuffled.withTarget target (fun id facade => shuffled.listenThrough id facade handle listener)
    (fun id _ _ _ => shuffled.listenDirectly id handle listener)

theorem keep (shuffled : s.Shuffled t) (name : String) (handle : Handle) (answer : Answer) :
    (s.keep name handle answer).Shuffled (t.keep name handle answer) := by
  unfold State.keep
  dsimp only
  rw [shuffled.handles, shuffled.handleNames]
  refine State.Shuffled.pushSame ?_ _
  exact { shuffled with handles := rfl, handleNames := rfl }

theorem closeFacade (shuffled : s.Shuffled t) (id : Nat) (facade : Facade) :
    (s.closeFacade id facade).Shuffled (t.closeFacade id facade) :=
  (shuffled.note _ _ _).pushSame _

theorem abandon (shuffled : s.Shuffled t) (target : Target) :
    (s.abandon target).Shuffled (t.abandon target) := by
  cases target with
  | facade | facade2 =>
    simp only [State.abandon, shuffled.targets]
    split
    · exact shuffled.refuse _
    · refine State.Shuffled.letFacadeGo (State.Shuffled.pushSame ?_ _) _
      exact { shuffled with targets := rfl }
  | router =>
    simp only [State.abandon, shuffled.targets]
    split
    · exact shuffled.refuse _
    · exact { shuffled with targets := rfl, answer := rfl }
  | second | unknown => exact shuffled.refuse _

/-! Calls and the schema. -/

theorem invoke (shuffled : s.Shuffled t) (target : Target) (type : String)
    (input : Option Payload) :
    (s.invoke target type input).Shuffled (t.invoke target type input) := by
  have called {called called' : State × List Step × Verdict .current}
      (concurs : Concurs called called') (answer : Verdict .current → Answer)
      (resource : Resource) :
      (called.1.push [.script called.2.1, .answer (answer called.2.2), .letGo resource]).Shuffled
        (called'.1.push [.script called'.2.1, .answer (answer called'.2.2), .letGo resource]) := by
    rw [concurs.verdict]
    exact concurs.state.push (.cons (.script concurs.script) (Frame.shuffled_refl _))
  exact shuffled.withTarget target
    (fun id facade => shuffled.withRead _ fun type =>
      called (shuffled.callService facade.service type input)
        (fun verdict => .returned .legacy (facadeVerdict verdict)) _)
    (fun id _ _ _ => shuffled.withRead _ fun type =>
      called (shuffled.callRouter id type input) (.returned .current) _)

theorem updateServiceSchema (shuffled : s.Shuffled t) (service : Option Nat) (schema : Schema) :
    (s.updateServiceSchema service schema).Shuffled (t.updateServiceSchema service schema) := by
  cases service with
  | none => exact shuffled.note _ _ _
  | some router => exact shuffled.pushSame _

theorem updateSchema (shuffled : s.Shuffled t) (target : Target)
    (definitions : List (String × Option String)) :
    (s.updateSchema target definitions).Shuffled (t.updateSchema target definitions) :=
  shuffled.withTarget target
    (fun _ facade => shuffled.withRead _ fun _ =>
      (shuffled.updateServiceSchema facade.service _).reply _)
    (fun id _ _ _ => shuffled.withRead _ fun _ => (shuffled.updateServiceSchema (some id) _).reply _)

/-! Steps. -/

theorem take_register (shuffled : s.Shuffled t) (target : Target) (handle name : String)
    {plan plan' : Option (ImplementationPlan Step)} {texts texts' : List IdentifierText}
    (plans : Option.Rel ImplementationPlan.Shuffled plan plan')
    (set : IdentifierText.SameSet texts texts') :
    (s.take (.register target handle name plan texts)).Shuffled
      (t.take (.register target handle name plan' texts')) := by
  simp only [State.take]
  cases plans with
  | none =>
    simp only [introduceImplementation, shuffled.implementationNames]
    cases s.implementationNames.lookup name with
    | none => exact shuffled.refuse _
    | some id => exact shuffled.register target handle id set
  | some same =>
    simp only [introduceImplementation, ← shuffled.implementations.length_eq]
    refine State.Shuffled.register ?_ target handle _ set
    exact { shuffled with
      implementations := List.rel_append shuffled.implementations
        (.cons ⟨rfl, same.cost, same.outcome, same.onInvoke⟩ .nil)
      implementationNames := congrArg (bindName · name _) shuffled.implementationNames }

theorem take_listen (shuffled : s.Shuffled t) (target : Target) (handle name : String)
    {plan plan' : Option (ListenerPlan Step)} (plans : Option.Rel ListenerPlan.Shuffled plan plan') :
    (s.take (.listen target handle name plan)).Shuffled
      (t.take (.listen target handle name plan')) := by
  simp only [State.take]
  cases plans with
  | none =>
    simp only [introduceListener, shuffled.listenerNames]
    cases s.listenerNames.lookup name with
    | none => exact shuffled.refuse _
    | some id => exact shuffled.listen target handle id
  | some same =>
    simp only [introduceListener, ← shuffled.listeners.length_eq]
    refine State.Shuffled.listen ?_ target handle _
    exact { shuffled with
      listeners := List.rel_append shuffled.listeners
        (.cons ⟨rfl, same.preference, rfl, same.onAvailable, same.onUnavailable⟩ .nil)
      listenerNames := congrArg (bindName · name _) shuffled.listenerNames }

/-- A step without identifiers to enumerate. -/
theorem take_same (shuffled : s.Shuffled t) (step : Step) :
    (s.take step).Shuffled (t.take step) := by
  cases step with
  | register target handle name plan texts =>
    refine shuffled.take_register target handle name ?_ (.same texts)
    cases plan with
    | none => exact .none
    | some plan => exact .some ⟨rfl, rfl, shuffled_scripts _⟩
  | listen target handle name plan =>
    refine shuffled.take_listen target handle name ?_
    cases plan with
    | none => exact .none
    | some plan => exact .some ⟨rfl, shuffled_scripts _, shuffled_scripts _⟩
  | close handle => exact shuffled.withHandle handle fun id => shuffled.pushSame _
  | closed handle =>
    refine shuffled.withHandle handle fun id => ?_
    rw [shuffled.isClosed]
    exact shuffled.reply _
  | forget handle =>
    refine shuffled.withHandle handle fun id => State.Shuffled.pushSame ?_ _
    exact { shuffled with handleNames := congrArg (·.filter (·.1 ≠ handle)) shuffled.handleNames }
  | invoke target type input => exact shuffled.invoke target type input
  | isAvailable target text =>
    refine shuffled.withTarget target (fun _ _ => shuffled.refuse _) fun id _ _ same => ?_
    refine shuffled.withRead _ fun rpc => ?_
    rw [same.isAvailable]
    exact shuffled.reply _
  | look target =>
    refine shuffled.withTarget target (fun _ _ => shuffled.refuse _) fun id _ _ same => ?_
    rw [same.settings, same.schema]
    exact shuffled.reply _
  | updateSchema target definitions => exact shuffled.updateSchema target definitions
  | setCost name cost =>
    simp only [State.take, shuffled.implementationNames]
    cases s.implementationNames.lookup name with
    | none => exact shuffled.refuse _
    | some id =>
      refine (shuffled.modifyImplementation id fun same => ?_).reply _
      exact { same with cost := rfl }
  | setRejected name preference =>
    simp only [State.take, shuffled.listenerNames]
    cases s.listenerNames.lookup name with
    | none => exact shuffled.refuse _
    | some id =>
      refine (shuffled.modifyListener id fun same => ?_).reply _
      exact { same with preference := congrArg (·.map fun _ => preference) same.preference }
  | asked name =>
    simp only [State.take, shuffled.listenerNames]
    cases s.listenerNames.lookup name with
    | none => exact shuffled.refuse _
    | some id =>
      rcases shuffled.listener? id with ⟨missing, missing'⟩ | ⟨found, found', there, there', same⟩
      · simp only [Option.bind_some, missing, missing']
        exact shuffled.refuse _
      · simp only [Option.bind_some, there, there', same.asked]
        exact shuffled.reply _
  | describe target =>
    refine shuffled.withTarget target (fun _ _ => shuffled.reply _) fun id _ _ same => ?_
    rw [same.describe]
    exact shuffled.reply _
  | describeHandle name =>
    refine shuffled.withHandle name fun id => ?_
    rw [shuffled.handles]
    cases s.handles[id]? with
    | none => exact shuffled.refuse _
    | some handle => exact shuffled.reply _
  | closeFacade target =>
    exact shuffled.withTarget target (fun id facade => shuffled.closeFacade id facade)
      fun _ _ _ _ => shuffled.refuse _
  | abandon target => exact shuffled.abandon target
  | panic message => exact { shuffled with panic := rfl }
  | unknown name => exact shuffled.refuse _

theorem take (shuffled : s.Shuffled t) {step step' : Step} (same : step.Shuffled step') :
    (s.take step).Shuffled (t.take step') := by
  cases same with
  | introduce target handle name cost outcome scripts set =>
    exact shuffled.take_register target handle name (.some ⟨rfl, rfl, scripts⟩) set
  | register target handle name set => exact shuffled.take_register target handle name .none set
  | listen target handle name preference gains losses =>
    exact shuffled.take_listen target handle name (.some ⟨rfl, gains, losses⟩)
  | same => exact shuffled.take_same _

end Shuffled
end State
end RpcRouting.Session
