import RpcRouting.Proofs.Router.Shuffling
import RpcRouting.Scenario
/-! Sessions that are the same but for the order in which identifiers are enumerated. Here is what
the two have in common, and that whatever is done about registrations, releases and deliveries keeps
it. -/
namespace RpcRouting.Session

/-- Texts that are read as the same set of identifiers, or that are the same. -/
inductive IdentifierText.SameSet : List IdentifierText → List IdentifierText → Prop
  | read {texts texts' : List IdentifierText} {rpcs rpcs' : List (SchemaPath × Option InstancePath)}
      (found : texts.mapM (·.read) = .ok rpcs) (found' : texts'.mapM (·.read) = .ok rpcs')
      (same : ∀ rpc, rpc ∈ rpcs ↔ rpc ∈ rpcs') : SameSet texts texts'
  | same (texts : List IdentifierText) : SameSet texts texts

theorem IdentifierText.mapM_read {texts : List IdentifierText}
    (legible : ∀ text ∈ texts, ∃ rpc, text.read = .ok rpc) :
    ∃ rpcs, texts.mapM (·.read) = .ok rpcs ∧
      ∀ rpc, rpc ∈ rpcs ↔ ∃ text ∈ texts, text.read = .ok rpc := by
  induction texts with
  | nil => exact ⟨[], rfl, by simp⟩
  | cons text rest ih =>
    obtain ⟨⟨first, here⟩, legible⟩ := List.forall_mem_cons.mp legible
    obtain ⟨later, read, members⟩ := ih legible
    refine ⟨first :: later, ?_, fun rpc => ?_⟩
    · rw [List.mapM_cons, here, read]
      rfl
    · rw [List.mem_cons, members, List.exists_mem_cons_iff, here, Except.ok.injEq, eq_comm]

/-- Identifiers that can be read are the same set in whatever order they are given. -/
theorem IdentifierText.SameSet.of_perm {texts texts' : List IdentifierText}
    (legible : ∀ text ∈ texts, ∃ rpc, text.read = .ok rpc) (order : texts.Perm texts') :
    SameSet texts texts' := by
  obtain ⟨rpcs, found, members⟩ := mapM_read legible
  have legible' : ∀ text ∈ texts', ∃ rpc, text.read = .ok rpc :=
    fun text member => legible text (order.mem_iff.mpr member)
  obtain ⟨rpcs', found', members'⟩ := mapM_read legible'
  refine .read found found' fun rpc => ?_
  rw [members, members']
  simp only [order.mem_iff]

/-- The same step, where registrations enumerate their identifiers in any order: its own, and those
in the scripts of what it introduces. -/
inductive Step.Shuffled : Step → Step → Prop
  | introduce (target : Target) (handle name : String) (cost : Nat) (outcome : Outcome)
      {onInvoke onInvoke' : List (List Step)} {rpcs rpcs' : List IdentifierText}
      (scripts : List.Forall₂ (List.Forall₂ Step.Shuffled) onInvoke onInvoke')
      (set : IdentifierText.SameSet rpcs rpcs') :
    Shuffled (.register target handle name (some ⟨cost, outcome, onInvoke⟩) rpcs)
      (.register target handle name (some ⟨cost, outcome, onInvoke'⟩) rpcs')
  | register (target : Target) (handle name : String) {rpcs rpcs' : List IdentifierText}
      (set : IdentifierText.SameSet rpcs rpcs') :
    Shuffled (.register target handle name none rpcs) (.register target handle name none rpcs')
  | listen (target : Target) (handle name : String) (preference : Option Preference)
      {onAvailable onAvailable' onUnavailable onUnavailable' : List (List Step)}
      (gains : List.Forall₂ (List.Forall₂ Step.Shuffled) onAvailable onAvailable')
      (losses : List.Forall₂ (List.Forall₂ Step.Shuffled) onUnavailable onUnavailable') :
    Shuffled (.listen target handle name (some ⟨preference, onAvailable, onUnavailable⟩))
      (.listen target handle name (some ⟨preference, onAvailable', onUnavailable'⟩))
  | same (step : Step) : Shuffled step step

structure Implementation.Shuffled (implementation other : Implementation) : Prop where
  name : other.name = implementation.name
  cost : other.cost = implementation.cost
  outcome : other.outcome = implementation.outcome
  onInvoke : List.Forall₂ (List.Forall₂ Step.Shuffled) implementation.onInvoke other.onInvoke

structure Listener.Shuffled (listener other : Listener) : Prop where
  name : other.name = listener.name
  preference : other.preference = listener.preference
  asked : other.asked = listener.asked
  onAvailable : List.Forall₂ (List.Forall₂ Step.Shuffled) listener.onAvailable other.onAvailable
  onUnavailable :
    List.Forall₂ (List.Forall₂ Step.Shuffled) listener.onUnavailable other.onUnavailable

inductive Event.Shuffled : Event → Event → Prop
  | notified (available : Bool) (listener : String) (generation : Generation)
      {rpcs rpcs' : List generation.Identifier} (order : rpcs.Perm rpcs') :
    Shuffled (.notified available listener generation rpcs)
      (.notified available listener generation rpcs')
  | same (event : Event) : Shuffled event event

inductive Frame.Shuffled : Frame → Frame → Prop
  | script {steps steps' : List Step} (same : List.Forall₂ Step.Shuffled steps steps') :
    Shuffled (.script steps) (.script steps')
  | change (router : Nat) {change change' : Change Server Watcher} (same : change.Shuffled change') :
    Shuffled (.change router change) (.change router change')
  | call (router : Nat) {call call' : Call Watcher} (same : call.Shuffled call') :
    Shuffled (.call router call) (.call router call')
  | same (frame : Frame) : Shuffled frame frame

/-- The other session is this one with identifiers in another order. -/
structure State.Shuffled (s t : State) : Prop where
  targets : t.targets = s.targets
  routers : List.Forall₂ Router.Shuffled s.routers t.routers
  facades : t.facades = s.facades
  implementations : List.Forall₂ Implementation.Shuffled s.implementations t.implementations
  listeners : List.Forall₂ Listener.Shuffled s.listeners t.listeners
  handles : t.handles = s.handles
  implementationNames : t.implementationNames = s.implementationNames
  listenerNames : t.listenerNames = s.listenerNames
  handleNames : t.handleNames = s.handleNames
  frames : List.Forall₂ Frame.Shuffled s.frames t.frames
  log : List.Forall₂ Event.Shuffled s.log t.log
  answer : t.answer = s.answer
  panic : t.panic = s.panic

theorem Frame.shuffled_refl (frames : List Frame) : List.Forall₂ Frame.Shuffled frames frames :=
  List.forall₂_same.mpr fun frame _ => .same frame

theorem Frame.Shuffled.keepsAlive {frame other : Frame} (shuffled : frame.Shuffled other)
    (resource : Resource) : other.keepsAlive resource = frame.keepsAlive resource := by
  cases shuffled <;> rfl

namespace State.Shuffled
variable {s t : State}

/-! Reading and changing parts of the state. -/

theorem facade? (shuffled : s.Shuffled t) : t.facade? = s.facade? := by
  unfold State.facade?
  rw [shuffled.facades]

theorem router? (shuffled : s.Shuffled t) (router : Nat) :
    s.router? router = none ∧ t.router? router = none ∨ ∃ found found',
      s.router? router = some found ∧ t.router? router = some found' ∧ found.Shuffled found' :=
  rel_cases (forall₂_getElem? shuffled.routers router)

theorem implementation? (shuffled : s.Shuffled t) (id : Nat) :
    s.implementations[id]? = none ∧ t.implementations[id]? = none ∨ ∃ found found',
      s.implementations[id]? = some found ∧ t.implementations[id]? = some found' ∧
        found.Shuffled found' :=
  rel_cases (forall₂_getElem? shuffled.implementations id)

theorem listener? (shuffled : s.Shuffled t) (id : Nat) :
    s.listeners[id]? = none ∧ t.listeners[id]? = none ∨ ∃ found found',
      s.listeners[id]? = some found ∧ t.listeners[id]? = some found' ∧ found.Shuffled found' :=
  rel_cases (forall₂_getElem? shuffled.listeners id)

theorem modifyRouter (shuffled : s.Shuffled t) (router : Nat)
    {f g : Router Server Watcher → Router Server Watcher}
    (kept : ∀ {found found'}, found.Shuffled found' → (f found).Shuffled (g found')) :
    (s.modifyRouter router f).Shuffled (t.modifyRouter router g) :=
  { shuffled with routers := forall₂_modify shuffled.routers kept router }

theorem modifyFacade (shuffled : s.Shuffled t) (facade : Nat) (f : Facade → Facade) :
    (s.modifyFacade facade f).Shuffled (t.modifyFacade facade f) :=
  { shuffled with facades := congrArg (·.modify facade f) shuffled.facades }

theorem modifyRoster (shuffled : s.Shuffled t) (facade : Nat)
    (f : Roster Nat Server Handle → Roster Nat Server Handle) :
    (s.modifyRoster facade f).Shuffled (t.modifyRoster facade f) :=
  shuffled.modifyFacade facade _

theorem modifyImplementation (shuffled : s.Shuffled t) (id : Nat)
    {f g : Implementation → Implementation}
    (kept : ∀ {found found'}, found.Shuffled found' → (f found).Shuffled (g found')) :
    (s.modifyImplementation id f).Shuffled (t.modifyImplementation id g) :=
  { shuffled with implementations := forall₂_modify shuffled.implementations kept id }

theorem modifyListener (shuffled : s.Shuffled t) (id : Nat) {f g : Listener → Listener}
    (kept : ∀ {found found'}, found.Shuffled found' → (f found).Shuffled (g found')) :
    (s.modifyListener id f).Shuffled (t.modifyListener id g) :=
  { shuffled with listeners := forall₂_modify shuffled.listeners kept id }

theorem emit (shuffled : s.Shuffled t) {event event' : Event} (same : event.Shuffled event') :
    (s.emit event).Shuffled (t.emit event') :=
  { shuffled with log := List.rel_append shuffled.log (.cons same .nil) }

theorem note (shuffled : s.Shuffled t) (level : Level) (message : String)
    (fields : List (String × String)) :
    (s.note level message fields).Shuffled (t.note level message fields) :=
  shuffled.emit (.same _)

theorem push (shuffled : s.Shuffled t) {frames frames' : List Frame}
    (same : List.Forall₂ Frame.Shuffled frames frames') :
    (s.push frames).Shuffled (t.push frames') :=
  { shuffled with frames := List.rel_append same shuffled.frames }

theorem pushSame (shuffled : s.Shuffled t) (frames : List Frame) :
    (s.push frames).Shuffled (t.push frames) :=
  shuffled.push (Frame.shuffled_refl frames)

theorem reply (shuffled : s.Shuffled t) (answer : Answer) :
    (s.reply answer).Shuffled (t.reply answer) :=
  { shuffled with answer := rfl }

theorem refuse (shuffled : s.Shuffled t) (reason : Refusal) :
    (s.refuse reason).Shuffled (t.refuse reason) :=
  shuffled.reply _

/-! What is alive. -/

theorem isKeptAlive (shuffled : s.Shuffled t) (resource : Resource) :
    t.isKeptAlive resource = s.isKeptAlive resource :=
  any_eq_of_forall₂ shuffled.frames fun same => same.keepsAlive resource

theorem routerAlive (shuffled : s.Shuffled t) (router : Nat) :
    t.routerAlive router = s.routerAlive router := by
  rw [State.routerAlive, shuffled.targets, shuffled.facades, shuffled.isKeptAlive,
    State.routerAlive]

theorem rosterAlive (shuffled : s.Shuffled t) (facade : Nat) :
    t.rosterAlive facade = s.rosterAlive facade := by
  rw [State.rosterAlive, shuffled.facade?, State.rosterAlive]

theorem letRosterGo (shuffled : s.Shuffled t) (facade : Nat) :
    (s.letRosterGo facade).Shuffled (t.letRosterGo facade) := by
  unfold State.letRosterGo
  rw [shuffled.facade?]
  cases s.facade? facade with
  | none => exact shuffled
  | some found =>
    dsimp only
    rw [shuffled.isKeptAlive, shuffled.answer]
    split
    · exact (shuffled.modifyFacade facade _).pushSame _
    · exact shuffled

theorem letFacadeGo (shuffled : s.Shuffled t) (facade : Nat) :
    (s.letFacadeGo facade).Shuffled (t.letFacadeGo facade) := by
  unfold State.letFacadeGo
  rw [shuffled.facade?]
  cases s.facade? facade with
  | none => exact shuffled
  | some found =>
    dsimp only
    rw [shuffled.isKeptAlive, shuffled.targets]
    split
    · exact (shuffled.modifyFacade facade _).letRosterGo facade
    · exact shuffled

theorem letGo (shuffled : s.Shuffled t) (resource : Resource) :
    (s.letGo resource).Shuffled (t.letGo resource) := by
  cases resource with
  | facade facade => exact shuffled.letFacadeGo facade
  | roster facade => exact shuffled.letRosterGo facade
  | router router => exact shuffled

/-! Listeners and the implementations they care for. -/

theorem costOf (shuffled : s.Shuffled t) (implementation : Nat) :
    t.costOf implementation = s.costOf implementation := by
  rcases shuffled.implementation? implementation with ⟨missing, missing'⟩ |
    ⟨found, found', there, there', same⟩
  · rw [State.costOf, State.costOf, missing, missing']
  · rw [State.costOf, State.costOf, there, there', Option.map_some, Option.map_some, same.cost]

theorem listenerAccepts (shuffled : s.Shuffled t) (listener : Nat) (server : Server) :
    t.listenerAccepts listener server = s.listenerAccepts listener server := by
  unfold State.listenerAccepts
  rw [shuffled.costOf]
  rcases shuffled.listener? listener with ⟨missing, missing'⟩ | ⟨found, found', there, there', same⟩
  · rw [missing, missing']
  · rw [there, there', Option.bind_some, Option.bind_some, same.preference]

theorem registered? (shuffled : s.Shuffled t) (facade : Nat) (server : Server) :
    t.registered? facade server = s.registered? facade server := by
  rw [State.registered?, shuffled.facade?, State.registered?]

theorem accepts (shuffled : s.Shuffled t) : t.accepts = s.accepts := by
  funext watcher server
  cases watcher with
  | native listener => exact shuffled.listenerAccepts listener server
  | wrapped facade listener =>
    simp only [State.accepts, shuffled.registered?, shuffled.listenerAccepts]

theorem ask (shuffled : s.Shuffled t) (listener : Nat) : (s.ask listener).Shuffled (t.ask listener) :=
  shuffled.modifyListener listener fun same =>
    { same with asked := by rw [same.asked, same.preference] }

theorem consult (shuffled : s.Shuffled t) (consultation : Watcher × Server) :
    (s.consult consultation).Shuffled (t.consult consultation) := by
  obtain ⟨watcher, server⟩ := consultation
  cases watcher with
  | native listener => exact shuffled.ask listener
  | wrapped facade listener =>
    simp only [State.consult, shuffled.registered?]
    split
    · exact shuffled.ask listener
    · exact shuffled.note _ _ _

theorem consultAll (shuffled : s.Shuffled t) (consultations : List (Watcher × Server)) :
    (s.consultAll consultations).Shuffled (t.consultAll consultations) := by
  induction consultations generalizing s t with
  | nil => exact shuffled
  | cons consultation rest ih => exact ih (shuffled.consult consultation)

/-! Changes of a router, and its deliveries. -/

theorem noteChange (shuffled : s.Shuffled t) {found found' : Router Server Watcher}
    {change change' : Change Server Watcher} (same : found.Shuffled found')
    (alike : change.Shuffled change') :
    (s.noteChange found change).Shuffled (t.noteChange found' change') := by
  cases alike with
  | register implementation cost order =>
    simp only [State.noteChange, same.nextNumber, order.length_eq]
    exact shuffled.note _ _ _
  | same =>
    cases change with
    | register implementation cost rpcs =>
      simp only [State.noteChange, same.nextNumber]
      exact shuffled.note _ _ _
    | unregister registration =>
      have listed : found'.offers.any (·.registration = registration) =
          found.offers.any (·.registration = registration) :=
        any_eq_of_forall₂ same.offers fun here => by rw [here.registration]
      simp only [State.noteChange, listed]
      split
      · exact shuffled.note _ _ _
      · exact shuffled
    | listen listener =>
      simp only [State.noteChange, same.nextNumber, same.settings]
      exact shuffled.note _ _ _
    | unlisten registration => exact shuffled.note _ _ _

theorem deliver (shuffled : s.Shuffled t) (router : Nat) :
    (s.deliver router).Shuffled (t.deliver router) := by
  unfold State.deliver
  rcases shuffled.router? router with ⟨missing, missing'⟩ | ⟨found, found', there, there', same⟩
  · rw [missing, missing']
    exact shuffled
  · rw [there, there', Option.bind_some, Option.bind_some]
    rcases rel_cases same.startDelivering? with
      ⟨idle, idle'⟩ | ⟨started, started', starts, starts', same⟩
    · rw [idle, idle']
      exact shuffled
    · rw [starts, starts']
      exact (shuffled.modifyRouter router fun _ => same).pushSame _

theorem change (shuffled : s.Shuffled t) (router : Nat) {change change' : Change Server Watcher}
    (alike : change.Shuffled change') :
    (s.change router change).Shuffled (t.change router change') := by
  unfold State.change
  rcases shuffled.router? router with ⟨missing, missing'⟩ | ⟨found, found', there, there', same⟩
  · rw [missing, missing']
    exact shuffled
  · have changed := same.apply s.accepts alike
    simp only [there, there', shuffled.accepts, same.consultationsFor alike, changed.consultations]
    have noted := (shuffled.consultAll (found.consultationsFor change)).noteChange same alike
    exact ((noted.modifyRouter router fun _ => changed).consultAll _).deliver router

theorem adopt (shuffled : s.Shuffled t) (router : Nat) (schema : Schema) :
    (s.adopt router schema).Shuffled (t.adopt router schema) := by
  unfold State.adopt
  rcases shuffled.router? router with ⟨missing, missing'⟩ | ⟨found, found', there, there', same⟩
  · rw [missing, missing']
    exact shuffled
  · simp only [there, there', same.generation]
    exact (shuffled.modifyRouter router fun same => same.updateSchema schema).note _ _ _

theorem deliverNext (shuffled : s.Shuffled t) (router : Nat) :
    (s.deliverNext router).Shuffled (t.deliverNext router) := by
  unfold State.deliverNext
  rcases shuffled.router? router with ⟨missing, missing'⟩ | ⟨found, found', there, there', same⟩
  · rw [missing, missing']
    exact shuffled
  · rw [there, there']
    dsimp only
    rcases rel_cases same.nextDelivery? with
      ⟨none, none'⟩ | ⟨⟨delivery, rest⟩, ⟨delivery', rest'⟩, next, next', taken, left⟩
    · rw [none, none']
      exact shuffled.modifyRouter router fun same => same.stopDelivering
    · rw [next, next']
      refine (shuffled.modifyRouter router fun _ => left).push (List.rel_append ?_ ?_)
      · exact forall₂_map taken.calls fun same => .call router same
      · exact Frame.shuffled_refl _

theorem offerHandle (shuffled : s.Shuffled t) (router : Nat) {rpcs rpcs' : List Current.Identifier}
    (order : rpcs.Perm rpcs') : t.offerHandle router rpcs' = s.offerHandle router rpcs := by
  unfold State.offerHandle
  rcases shuffled.router? router with ⟨missing, missing'⟩ | ⟨found, found', there, there', same⟩
  · rw [missing, missing']
  · simp only [there, there', same.nextNumber, order.isEmpty_eq]

theorem subscriptionHandle (shuffled : s.Shuffled t) (router : Nat) :
    t.subscriptionHandle router = s.subscriptionHandle router := by
  unfold State.subscriptionHandle
  rcases shuffled.router? router with ⟨missing, missing'⟩ | ⟨found, found', there, there', same⟩
  · rw [missing, missing']
  · simp only [there, there', same.nextNumber]

theorem registerWith (shuffled : s.Shuffled t) (router : Nat) (server : Server)
    {rpcs rpcs' : List Current.Identifier} (order : rpcs.Perm rpcs') :
    (s.registerWith router server rpcs).Shuffled (t.registerWith router server rpcs') := by
  unfold State.registerWith
  rw [shuffled.costOf, order.isEmpty_eq]
  split
  · exact shuffled.note _ _ _
  · exact shuffled.push (.cons (.change router (.register server _ order)) .nil)

/-! Releases. -/

theorem release (shuffled : s.Shuffled t) (release : Release) :
    (s.release release).Shuffled (t.release release) := by
  cases release <;> simp only [State.release, shuffled.routerAlive, shuffled.rosterAlive] <;> split
  all_goals first | exact shuffled.pushSame _ | exact shuffled

theorem close (shuffled : s.Shuffled t) (handle : Handle) :
    (s.close handle).Shuffled (t.close handle) := by
  unfold State.close
  cases handle.release with
  | none => exact shuffled
  | some release => exact shuffled.release release

theorem closeKept (shuffled : s.Shuffled t) (handle : Nat) :
    (s.closeKept handle).Shuffled (t.closeKept handle) := by
  unfold State.closeKept
  rw [shuffled.handles]
  cases s.handles[handle]? with
  | none => exact shuffled
  | some found =>
    refine State.Shuffled.close ?_ found
    exact { shuffled with handles := rfl }

theorem isClosed (shuffled : s.Shuffled t) (handle : Nat) : t.isClosed handle = s.isClosed handle := by
  rw [State.isClosed, shuffled.handles, State.isClosed]

/-! Registrations through a facade. -/

theorem complete (shuffled : s.Shuffled t) (facade id : Nat) (underlying : Handle) :
    (s.complete facade id underlying).Shuffled (t.complete facade id underlying) := by
  unfold State.complete
  rw [shuffled.facade?]
  cases s.facade? facade with
  | none => exact shuffled
  | some found =>
    have completed := shuffled.modifyRoster facade fun _ => (found.roster.complete id underlying).1
    dsimp only
    cases (found.roster.complete id underlying).2 with
    | none => exact completed
    | some handle => exact (completed.note _ _ _).pushSame _

theorem completeListener (shuffled : s.Shuffled t) (facade id : Nat) (underlying : Handle) :
    (s.completeListener facade id underlying).Shuffled (t.completeListener facade id underlying) :=
  (shuffled.modifyRoster facade _).note _ _ _

theorem beginRelease (shuffled : s.Shuffled t) (facade id : Nat) :
    (s.beginRelease facade id).Shuffled (t.beginRelease facade id) := by
  unfold State.beginRelease
  rw [shuffled.facade?]
  cases (s.facade? facade).bind (·.roster.detach? id) with
  | none => exact shuffled
  | some detached => exact (shuffled.modifyRoster facade _).pushSame _

theorem finishRelease (shuffled : s.Shuffled t) (facade id : Nat) :
    (s.finishRelease facade id).Shuffled (t.finishRelease facade id) :=
  (shuffled.modifyRoster facade _).note _ _ _

theorem beginListenerRelease (shuffled : s.Shuffled t) (facade id : Nat) :
    (s.beginListenerRelease facade id).Shuffled (t.beginListenerRelease facade id) := by
  unfold State.beginListenerRelease
  rw [shuffled.facade?]
  cases (s.facade? facade).bind (·.roster.listener? id) with
  | none => exact shuffled
  | some underlying => exact (shuffled.modifyRoster facade _).pushSame _

theorem releaseListeners (shuffled : s.Shuffled t) (facade : Nat) :
    (s.releaseListeners facade).Shuffled (t.releaseListeners facade) := by
  unfold State.releaseListeners
  rw [shuffled.facade?]
  cases s.facade? facade with
  | none => exact shuffled
  | some found => exact shuffled.pushSame _

end State.Shuffled
end RpcRouting.Session
