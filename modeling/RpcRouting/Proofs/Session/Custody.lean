import RpcRouting.Proofs.Facade.Custody
import RpcRouting.Proofs.Session.Moves
/-! A session as its facades see it: their rosters, and of the work on the stack what is theirs. Most
work leaves the facades aside. -/
namespace RpcRouting.Session

/-- What a frame is for the facades. -/
def Frame.duty? : Frame → Option (Duty Handle)
  | .complete facade id _ => some (.complete facade id)
  | .completeListener facade id _ => some (.completeListener facade id)
  | .close handle => some (.close handle)
  | .release facade id => some (.release facade id)
  | .finishRelease facade id => some (.finishRelease facade id)
  | .releaseListener facade id => some (.releaseListener facade id)
  | .releaseListeners facade => some (.releaseListeners facade)
  | .letGo (.facade facade) => some (.call facade)
  | .letGo (.roster facade) => some (.hold facade)
  | .closeAll handles => some (.closeAll handles)
  | _ => none

/-- What begins as a frame is put on the stack. -/
def Frame.begins : Frame → List (Deal Handle)
  | .complete facade id _ => [.began facade id]
  | .completeListener facade id _ => [.beganListener facade id]
  | .releaseListeners facade => [.closing facade]
  | _ => []

def Facade.holding (facade : Facade) : Holding Nat Server Handle := ⟨facade.roster, facade.life⟩

namespace State

def custody (s : State) : Custody Nat Server Handle :=
  ⟨s.facades.map Facade.holding, s.frames.filterMap Frame.duty?⟩

/-- What the release of a handle means to the facade that has made the handle. -/
def closes (s : State) (handle : Handle) : List (Deal Handle) :=
  match handle.release with
  | some (.facadeImplementation facade id) =>
    if (s.facade? facade).isSome then [.closed facade id] else []
  | some (.facadeListener facade id) =>
    if (s.facade? facade).isSome then [.closedListener facade id] else []
  | _ => []

/-- What passes between facades and routers as a frame goes on. -/
def deals (s : State) : Frame → List (Deal Handle)
  | .complete facade id underlying => [.handed facade id underlying]
  | .completeListener facade id underlying => [.handedListener facade id underlying]
  | .close handle => .released handle :: s.closes handle
  | .closeKept handle => (s.handles[handle]?).elim [] s.closes
  | _ => []

/-- What a panic takes from a frame through which it passes. -/
def losses (frame : Frame) : List (Deal Handle) :=
  (frame.duty?.bind Duty.cut?).toList

/-- What comes of the work on top of the stack. -/
def passes (s : State) : List (Deal Handle) :=
  match s.frames with
  | [] => []
  | frame :: _ => if s.panic.isNone then s.deals frame else losses frame

/-- What passes between facades and routers from one state to the next: what comes of the work on
top, then what begins with the work that is put on the stack instead. -/
def dealings (s t : State) : List (Deal Handle) :=
  s.passes ++ (t.frames.take (t.frames.length - s.frames.tail.length)).flatMap Frame.begins

/-- What the session itself has is alive, and the facades have the services they have been given. -/
def Secure (services : List (Option Nat)) (s : State) : Prop :=
  (∀ id, s.targets.hasFacade id = true →
    ∃ facade, s.facade? id = some facade ∧ facade.life = .alive) ∧
  s.facades.map (·.service) = services

/-- Work that leaves the facades aside. The session itself may give up what it has of them. -/
structure Aside (s t : State) : Prop where
  facades : t.facades = s.facades
  targets : ∀ id, t.targets.hasFacade id = true → s.targets.hasFacade id = true
  frames : ∃ pushed, t.frames = pushed ++ s.frames ∧ ∀ frame ∈ pushed, frame.duty? = none

variable {s t u : State}

theorem custody_push (frames : List Frame) :
    (s.push frames).custody =
      ⟨s.custody.facades, frames.filterMap Frame.duty? ++ s.custody.duties⟩ := by
  simp [custody, push]

theorem custody_facade? (id : Nat) :
    s.custody.facades[id]? = (s.facade? id).map Facade.holding := by
  simp [custody, facade?]

theorem facade?_modifyFacade {id : Nat} {found : Facade} (there : s.facade? id = some found)
    (f : Facade → Facade) : (s.modifyFacade id f).facade? id = some (f found) := by
  rw [facade?, modifyFacade, List.getElem?_modify_eq, show s.facades[id]? = some found from there]
  rfl

theorem facade?_modifyFacade_ne {id other : Nat} (ne : id ≠ other) (f : Facade → Facade) :
    (s.modifyFacade id f).facade? other = s.facade? other :=
  List.getElem?_modify_ne _ _ ne

theorem custody_modifyFacade {id : Nat} {found : Facade} (there : s.facade? id = some found)
    (f : Facade → Facade) : (s.modifyFacade id f).custody =
      ⟨s.custody.facades.set id (f found).holding, s.custody.duties⟩ := by
  have facades : (s.facades.modify id f).map Facade.holding =
      (s.facades.map Facade.holding).set id (f found).holding := by
    refine List.ext_getElem? fun other => ?_
    by_cases same : id = other
    · subst same
      have length := (List.getElem?_eq_some_iff.mp there).1
      rw [List.getElem?_map, List.getElem?_modify_eq, List.getElem?_set_self (by simpa using length),
        show s.facades[id]? = some found from there]
      rfl
    · rw [List.getElem?_map, List.getElem?_modify_ne _ _ same, List.getElem?_set_ne same,
        List.getElem?_map]
  simp only [custody, modifyFacade, facades]

theorem isKeptAlive_facade (id : Nat) :
    s.isKeptAlive (.facade id) = true ↔ .call id ∈ s.custody.duties := by
  simp only [isKeptAlive, List.any_eq_true, custody, List.mem_filterMap]
  refine exists_congr fun frame => and_congr_right fun _ => ?_
  cases frame with
  | letGo resource => cases resource <;> simp [Frame.keepsAlive, Frame.duty?]
  | _ => simp [Frame.keepsAlive, Frame.duty?]

theorem isKeptAlive_roster (id : Nat) :
    s.isKeptAlive (.roster id) = true ↔ .hold id ∈ s.custody.duties := by
  simp only [isKeptAlive, List.any_eq_true, custody, List.mem_filterMap]
  refine exists_congr fun frame => and_congr_right fun _ => ?_
  cases frame with
  | letGo resource => cases resource <;> simp [Frame.keepsAlive, Frame.duty?]
  | _ => simp [Frame.keepsAlive, Frame.duty?]

theorem begins_of_duty? {frame : Frame} (free : frame.duty? = none) : frame.begins = [] := by
  cases frame <;> first | rfl | cases free

namespace Aside

theorem of_eq (facades : t.facades = s.facades) (targets : t.targets = s.targets)
    (frames : t.frames = s.frames) : Aside s t :=
  ⟨facades, fun _ has => targets ▸ has, [], frames, nofun⟩

theorem refl (s : State) : Aside s s := of_eq rfl rfl rfl

theorem trans (first : Aside s t) (second : Aside t u) : Aside s u := by
  obtain ⟨later, last, above⟩ := second.frames
  obtain ⟨pushed, middle, below⟩ := first.frames
  refine ⟨second.facades.trans first.facades, fun id has => first.targets id (second.targets id has),
    later ++ pushed, ?_, ?_⟩
  · rw [last, middle, List.append_assoc]
  · exact List.forall_mem_append.mpr ⟨above, below⟩

theorem push (s : State) {frames : List Frame} (free : ∀ frame ∈ frames, frame.duty? = none) :
    Aside s (s.push frames) := ⟨rfl, fun _ has => has, frames, rfl, free⟩

theorem ite {p : Prop} [Decidable p] (yes : Aside s t) (no : Aside s u) :
    Aside s (if p then t else u) := by
  split
  · exact yes
  · exact no

theorem custody (aside : Aside s t) : t.custody = s.custody := by
  obtain ⟨pushed, frames, free⟩ := aside.frames
  rw [State.custody, State.custody, aside.facades, frames, List.filterMap_append,
    List.filterMap_eq_nil_iff.mpr free, List.nil_append]

theorem secure {services : List (Option Nat)} (aside : Aside s t) (secure : s.Secure services) :
    t.Secure services := by
  refine ⟨fun id has => ?_, aside.facades ▸ secure.2⟩
  rw [facade?, aside.facades]
  exact secure.1 id (aside.targets id has)

theorem note (s : State) (level message fields) : Aside s (s.note level message fields) :=
  of_eq rfl rfl rfl

theorem refuse (s : State) (reason : Refusal) : Aside s (s.refuse reason) := of_eq rfl rfl rfl

theorem changes {router : Nat} {after : Router Server Watcher} {pushed : List Frame}
    (changes : Changes router after pushed s t) (free : ∀ frame ∈ pushed, frame.duty? = none) :
    Aside s t :=
  ⟨changes.facades, fun _ has => changes.targets ▸ has, pushed, changes.frames, free⟩

theorem change (s : State) (router : Nat) (change : Change Server Watcher) :
    Aside s (s.change router change) := by
  cases there : s.router? router with
  | none =>
    simp only [State.change, there]
    exact refl s
  | some found =>
    refine changes (change_changes there change) fun frame member => ?_
    rw [mem_dutyAfter member]
    rfl

theorem adopt (s : State) (router : Nat) (schema : Schema) : Aside s (s.adopt router schema) := by
  cases there : s.router? router with
  | none =>
    simp only [State.adopt, there]
    exact refl s
  | some found => exact changes (adopt_changes there schema) (List.forall_mem_nil _)

theorem deliverNext (s : State) (router : Nat) : Aside s (s.deliverNext router) := by
  cases there : s.router? router with
  | none =>
    simp only [State.deliverNext, there]
    exact refl s
  | some found =>
    cases next : found.nextDelivery? with
    | none => exact changes (deliverNext_changes_of_none there next) (List.forall_mem_nil _)
    | some taken =>
      refine changes (deliverNext_changes_of_some there next) ?_
      simp only [List.forall_mem_append, List.forall_mem_map]
      simp [Frame.duty?]

theorem callListener (s : State) (call : Call Watcher) : Aside s (s.callListener call) := by
  unfold State.callListener
  dsimp only
  split
  · exact refl s
  · exact ⟨rfl, fun _ has => has, [_, _], rfl, by simp [Frame.duty?]⟩

theorem keep (s : State) (name : String) (handle : Handle) (answer : Answer) :
    Aside s (s.keep name handle answer) := by
  unfold State.keep
  refine Aside.trans ?_ (push _ ?_)
  · exact of_eq rfl rfl rfl
  · simp only [List.forall_mem_append, List.forall_mem_map]
    simp [Frame.duty?]

theorem callServer (s : State) (server : Server) (rpc input) :
    Aside s (s.callServer server rpc input).1 := by
  unfold State.callServer
  split
  · exact refl s
  · cases server <;> exact of_eq rfl rfl rfl

theorem noteFallback (s : State) (router : Router Server Watcher) (type input) :
    Aside s (s.noteFallback router type input) := by
  unfold State.noteFallback
  split
  · split
    · exact note s _ _ _
    · exact refl s
  · exact refl s

theorem callRouter (s : State) (router : Nat) (type input) :
    Aside s (s.callRouter router type input).1 := by
  unfold State.callRouter
  split
  · exact refl s
  · rename_i found _
    dsimp only
    have noted := noteFallback s found type input
    split
    · exact (noted.trans (note _ _ _ _)).trans (callServer _ _ _ _)
    · exact noted.trans (note _ _ _ _)
    · exact noted.trans (note _ _ _ _)

theorem callService (s : State) (service : Option Nat) (type input) :
    Aside s (s.callService service type input).1 := by
  cases service with
  | none => exact refl s
  | some router => exact callRouter s router type input

theorem registerWith (s : State) (router : Nat) (server : Server)
    (rpcs : List Current.Identifier) : Aside s (s.registerWith router server rpcs) :=
  ite (note s _ _ _) (push s (by simp [Frame.duty?]))

theorem updateServiceSchema (s : State) (service : Option Nat) (schema : Schema) :
    Aside s (s.updateServiceSchema service schema) := by
  cases service with
  | none => exact note s _ _ _
  | some router => exact push s (by simp [Frame.duty?])

theorem introduceImplementation {name : String} {plan : Option (ImplementationPlan Step)} {id : Nat}
    (introduced : s.introduceImplementation name plan = some (t, id)) : Aside s t := by
  cases plan with
  | none =>
    obtain ⟨_, -, same⟩ := Option.map_eq_some_iff.mp introduced
    obtain ⟨rfl, -⟩ := Prod.mk.inj same
    exact refl _
  | some plan =>
    obtain ⟨rfl, -⟩ := Prod.mk.inj (Option.some.inj introduced)
    exact of_eq rfl rfl rfl

theorem introduceListener {name : String} {plan : Option (ListenerPlan Step)} {id : Nat}
    (introduced : s.introduceListener name plan = some (t, id)) : Aside s t := by
  cases plan with
  | none =>
    obtain ⟨_, -, same⟩ := Option.map_eq_some_iff.mp introduced
    obtain ⟨rfl, -⟩ := Prod.mk.inj same
    exact refl _
  | some plan =>
    obtain ⟨rfl, -⟩ := Prod.mk.inj (Option.some.inj introduced)
    exact of_eq rfl rfl rfl

end Aside
end State
end RpcRouting.Session
