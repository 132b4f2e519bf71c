import RpcRouting.Proofs.Session.Enrolling
/-! The work of a step. Whatever step a session takes, of facades or of the router itself, its work
comes to what is done directly in its place, and leaves nothing that would change that. -/
namespace RpcRouting.Session

theorem Targets.hasRouter_of_router? {targets : Targets} {target : Target} {id : Nat}
    (named : targets.router? target = some id) : targets.hasRouter id = true := by
  cases target <;> simp_all [Targets.router?, Targets.hasRouter]

/-- A frame that is left when the work of a step is done. -/
def Frame.isTrailing (targets : Targets) : Frame → Bool
  | .script _ | .report _ | .answer _ | .answerClosed _ | .resume _ | .letGo (.router _) => true
  | .letGo (.facade facade) => targets.hasFacade facade
  | _ => false

namespace State

variable {s t u : State} {direct : Direct} {router : Nat} {target : Target}

/-- The work of a step is done but for what is left on the stack above the work of before. -/
structure Trails (s t : State) : Prop where
  frames : ∃ pushed, t.frames = pushed ++ s.frames ∧
    ∀ frame ∈ pushed, frame.isTrailing s.targets = true
  targets : ∀ id, s.targets.hasFacade id = true → t.targets.hasFacade id = true

theorem Trails.of_eq {pushed : List Frame} (targets : t.targets = s.targets)
    (frames : t.frames = pushed ++ s.frames)
    (trailing : ∀ frame ∈ pushed, frame.isTrailing s.targets = true) : s.Trails t :=
  ⟨⟨pushed, frames, trailing⟩, fun _ has => targets ▸ has⟩

theorem addressee?_facade {id : Nat} {facade : Facade}
    (addressed : s.addressee? target = some (.facade id facade)) :
    s.targets.facade? target = some id ∧ s.facade? id = some facade := by
  unfold addressee? at addressed
  cases named : s.targets.facade? target with
  | some other =>
    rw [named] at addressed
    obtain ⟨found, there, same⟩ := Option.map_eq_some_iff.mp addressed
    obtain ⟨rfl, rfl⟩ := Addressee.facade.inj same
    exact ⟨rfl, there⟩
  | none => cases named' : s.targets.router? target <;> simp [named, named'] at addressed

theorem addressee?_router {id : Nat} {found : Router Server Watcher}
    (addressed : s.addressee? target = some (.router id found)) :
    s.targets.router? target = some id ∧ s.router? id = some found := by
  unfold addressee? at addressed
  cases named : s.targets.facade? target with
  | some other => simp [named] at addressed
  | none =>
    cases named' : s.targets.router? target with
    | none => simp [named, named'] at addressed
    | some other =>
      rw [named, named'] at addressed
      obtain ⟨found, there, same⟩ := Option.map_eq_some_iff.mp addressed
      obtain ⟨rfl, rfl⟩ := Addressee.router.inj same
      exact ⟨rfl, there⟩

/-- The router that a step is about is the one that facades are over. -/
theorem Mirrors.addressed {id : Nat} {found : Router Server Watcher}
    (mirrors : s.Mirrors router direct)
    (addressed : s.addressee? target = some (.router id found)) :
    id = router ∧ found = direct.router := by
  obtain ⟨named, there⟩ := addressee?_router addressed
  obtain rfl := mirrors.targets id (Targets.hasRouter_of_router? named)
  exact ⟨rfl, Option.some.inj (there.symm.trans mirrors.there)⟩

theorem withTarget_eq (s : State) (target : Target) (onFacade : Nat → Facade → State)
    (onRouter : Nat → Router Server Watcher → State) :
    s.withTarget target onFacade onRouter = match s.addressee? target with
      | some (.facade id facade) => onFacade id facade
      | some (.router id router) => onRouter id router
      | none => s.refuse .noSuchTarget := by
  unfold withTarget addressee?
  cases s.targets.facade? target with
  | some id =>
    dsimp only
    cases s.facade? id <;> rfl
  | none =>
    cases s.targets.router? target with
    | some id =>
      dsimp only
      cases s.router? id <;> rfl
    | none => rfl

/-- The work of a step that has just been begun comes to deeds that are done directly. -/
def ComesTo (router : Nat) (direct : Direct) (s begun : State) (deeds : List Deed) : Prop :=
  ∃ t, Serves router direct deeds begun t ∧ s.Trails t

namespace ComesTo

/-- What is done at once comes to nothing where it leaves alone what is registered. -/
theorem still (steady : t.Steady router) (mirrors : t.Mirrors router direct)
    (frames : t.frames = s.frames)
    (targets : ∀ id, s.targets.hasFacade id = true → t.targets.hasFacade id = true) :
    ComesTo router direct s t [] :=
  ⟨t, .still steady mirrors, ⟨[], frames, nofun⟩, targets⟩

theorem replied {answer : Answer} (steady : (u.reply answer).Steady router)
    (mirrors : u.Mirrors router direct) (frames : u.frames = s.frames)
    (targets : u.targets = s.targets) : ComesTo router direct s (u.reply answer) [] :=
  .still steady (mirrors.same rfl rfl rfl rfl rfl) frames fun _ has => targets ▸ has

end ComesTo

theorem introduceImplementation_eq {name : String} {plan : Option (ImplementationPlan Step)}
    {introduced : State} {implementation : Nat}
    (introduces : s.introduceImplementation name plan = some (introduced, implementation)) :
    ∃ implementations implementationNames, introduced =
      { s with implementations := implementations, implementationNames := implementationNames } := by
  unfold introduceImplementation at introduces
  cases plan with
  | none =>
    obtain ⟨found, -, same⟩ := Option.map_eq_some_iff.mp introduces
    cases same
    exact ⟨_, _, rfl⟩
  | some plan =>
    cases introduces
    exact ⟨_, _, rfl⟩

theorem introduceListener_eq {name : String} {plan : Option (ListenerPlan Step)}
    {introduced : State} {listener : Nat}
    (introduces : s.introduceListener name plan = some (introduced, listener)) :
    ∃ listeners listenerNames,
      introduced = { s with listeners := listeners, listenerNames := listenerNames } := by
  unfold introduceListener at introduces
  cases plan with
  | none =>
    obtain ⟨found, -, same⟩ := Option.map_eq_some_iff.mp introduces
    cases same
    exact ⟨_, _, rfl⟩
  | some plan =>
    cases introduces
    exact ⟨_, _, rfl⟩

variable {step : Step}

/-- An implementation is registered, through a facade or directly. -/
theorem register_comesTo {handle name : String} {plan : Option (ImplementationPlan Step)}
    {rpcs : List IdentifierText}
    (steady : (s.take (.register target handle name plan rpcs)).Steady router)
    (calm : s.panic = none) (mirrors : s.Mirrors router direct) :
    ComesTo router direct s (s.take (.register target handle name plan rpcs))
      (s.deeds (.register target handle name plan rpcs)) := by
  simp only [State.take] at steady ⊢
  simp only [deeds]
  cases introduces : s.introduceImplementation name plan with
  | none =>
    rw [introduces] at steady
    exact .replied steady mirrors rfl rfl
  | some introduction =>
    rw [introduces] at steady
    obtain ⟨introduced, implementation⟩ := introduction
    obtain ⟨implementations, names, rfl⟩ := introduceImplementation_eq introduces
    let introduced : State :=
      { s with implementations := implementations, implementationNames := names }
    have mirrors' : introduced.Mirrors router direct := mirrors.same rfl rfl rfl rfl rfl
    have same : introduced.addressee? target = s.addressee? target := rfl
    dsimp only at steady ⊢
    rw [register, withTarget_eq, same] at steady ⊢
    cases addressed : s.addressee? target with
    | none =>
      rw [addressed] at steady
      exact .replied steady mirrors' rfl rfl
    | some addressee =>
      rw [addressed] at steady
      cases addressee with
      | facade id facade =>
        obtain ⟨named, there⟩ := addressee?_facade addressed
        dsimp only at steady ⊢
        cases read : rpcs.mapM (·.readLegacy) with
        | error error =>
          rw [read] at steady
          exact .replied steady mirrors' rfl rfl
        | ok rpcs =>
          rw [read] at steady
          obtain ⟨t, serves, frames, targets⟩ := registerThrough_serves steady calm mirrors' there
          refine ⟨t, serves, .of_eq targets frames ?_⟩
          simp [Frame.isTrailing, hasFacade_of_facade? named]
      | router id found =>
        obtain ⟨rfl, rfl⟩ := mirrors.addressed addressed
        dsimp only at steady ⊢
        cases read : rpcs.mapM (·.readCurrent) with
        | error error =>
          rw [read] at steady
          exact .replied steady mirrors' rfl rfl
        | ok rpcs =>
          rw [read] at steady
          obtain ⟨t, closed, serves, frames, targets⟩ :=
            registerDirectly_serves steady calm mirrors'
          exact ⟨t, serves, .of_eq targets frames (by simp [Frame.isTrailing])⟩

/-- A listener is registered, through a facade or directly. -/
theorem listen_comesTo {handle name : String} {plan : Option (ListenerPlan Step)}
    (steady : (s.take (.listen target handle name plan)).Steady router)
    (calm : s.panic = none) (mirrors : s.Mirrors router direct) :
    ComesTo router direct s (s.take (.listen target handle name plan))
      (s.deeds (.listen target handle name plan)) := by
  simp only [State.take] at steady ⊢
  simp only [deeds]
  cases introduces : s.introduceListener name plan with
  | none =>
    rw [introduces] at steady
    exact .replied steady mirrors rfl rfl
  | some introduction =>
    rw [introduces] at steady
    obtain ⟨introduced, listener⟩ := introduction
    obtain ⟨listeners, names, rfl⟩ := introduceListener_eq introduces
    let introduced : State := { s with listeners := listeners, listenerNames := names }
    have mirrors' : introduced.Mirrors router direct := mirrors.same rfl rfl rfl rfl rfl
    have same : introduced.addressee? target = s.addressee? target := rfl
    dsimp only at steady ⊢
    rw [State.listen, withTarget_eq, same] at steady ⊢
    cases addressed : s.addressee? target with
    | none =>
      rw [addressed] at steady
      exact .replied steady mirrors' rfl rfl
    | some addressee =>
      rw [addressed] at steady
      cases addressee with
      | facade id facade =>
        obtain ⟨named, there⟩ := addressee?_facade addressed
        obtain ⟨t, serves, frames, targets⟩ := listenThrough_serves steady calm mirrors' there
        refine ⟨t, serves, .of_eq targets frames ?_⟩
        simp [Frame.isTrailing, hasFacade_of_facade? named]
      | router id found =>
        obtain ⟨rfl, rfl⟩ := mirrors.addressed addressed
        obtain ⟨t, closed, serves, frames, targets⟩ := listenDirectly_serves steady calm mirrors'
        exact ⟨t, serves, .of_eq targets frames (by simp [Frame.isTrailing])⟩

/-! Handles, facades and schemas. -/

/-- A handle that had a name is closed, and answered for. -/
theorem closeNamed_comesTo {handle : String} {index : Nat} {answering : Frame}
    (named : s.handleNames.lookup handle = some index) (handles : t.handles = s.handles)
    (frames : t.frames = s.frames) (targets : t.targets = s.targets)
    (steady : (t.push [.closeKept index, answering]).Steady router)
    (trailing : answering.isTrailing s.targets = true) (calm : t.panic = none)
    (mirrors : t.Mirrors router direct) :
    ComesTo router direct s (t.push [.closeKept index, answering]) (s.displacing handle) := by
  obtain ⟨u, serves, left⟩ := closeKept_serves steady calm rfl
    (mirrors.same rfl rfl rfl rfl rfl)
  have closing : (t.push [.closeKept index, answering]).closing index = s.closing index := by
    rw [State.closing, State.closing, releaseOf?, releaseOf?, ← handles]
    rfl
  have displacing : s.displacing handle = s.closing index := by
    rw [State.displacing, named, Option.toList_some, List.flatMap_singleton]
  rw [closing] at serves
  rw [frames] at left
  rw [displacing]
  exact ⟨u, serves, .of_eq (serves.relays.targets.trans targets) left (by simpa using trailing)⟩

theorem closeFacade_comesTo (steady : (s.take (.closeFacade target)).Steady router)
    (calm : s.panic = none) (mirrors : s.Mirrors router direct) :
    ComesTo router direct s (s.take (.closeFacade target)) (s.deeds (.closeFacade target)) := by
  simp only [State.take, withTarget_eq] at steady ⊢
  simp only [deeds]
  cases addressed : s.addressee? target with
  | none =>
    rw [addressed] at steady
    exact .replied steady mirrors rfl rfl
  | some addressee =>
    rw [addressed] at steady
    cases addressee with
    | facade id facade =>
      obtain ⟨named, there⟩ := addressee?_facade addressed
      obtain ⟨t, serves, frames⟩ := closeFacade_serves steady calm mirrors there
      refine ⟨t, serves, .of_eq serves.relays.targets frames ?_⟩
      simp [Frame.isTrailing, hasFacade_of_facade? named]
    | router id found => exact .replied steady mirrors rfl rfl

theorem updateSchema_comesTo {definitions : List (String × Option String)}
    (steady : (s.take (.updateSchema target definitions)).Steady router)
    (calm : s.panic = none) (mirrors : s.Mirrors router direct) :
    ComesTo router direct s (s.take (.updateSchema target definitions))
      (s.deeds (.updateSchema target definitions)) := by
  simp only [State.take, State.updateSchema, withTarget_eq] at steady ⊢
  simp only [deeds]
  have adopts {schema : Schema}
      (steady : ((s.updateServiceSchema (some router) schema).reply
        (.text "updated")).Steady router) :
      ComesTo router direct s
        ((s.updateServiceSchema (some router) schema).reply (.text "updated"))
        [.updateSchema schema] := by
    obtain ⟨t, serves, frames⟩ := adopt_serves steady calm rfl (mirrors.same rfl rfl rfl rfl rfl)
    exact ⟨t, serves, .of_eq serves.relays.targets frames (List.forall_mem_nil _)⟩
  cases addressed : s.addressee? target with
  | none =>
    rw [addressed] at steady
    exact .replied steady mirrors rfl rfl
  | some addressee =>
    rw [addressed] at steady
    cases addressee with
    | facade id facade =>
      obtain ⟨-, there⟩ := addressee?_facade addressed
      dsimp only at steady ⊢
      cases read : definitions.mapM readDefinition with
      | error error =>
        rw [read] at steady
        exact .replied steady mirrors rfl rfl
      | ok definitions =>
        rw [read, (mirrors.booked id facade there).service] at steady
        rw [(mirrors.booked id facade there).service]
        exact adopts steady
    | router id found =>
      obtain ⟨rfl, -⟩ := mirrors.addressed addressed
      dsimp only at steady ⊢
      cases read : definitions.mapM readDefinition with
      | error error =>
        rw [read] at steady
        exact .replied steady mirrors rfl rfl
      | ok definitions =>
        rw [read] at steady
        exact adopts steady

/-! Calls. -/

theorem noteFallback_eq (s : State) (found : Router Server Watcher) (type : SchemaPath)
    (input : Option Payload) : ∃ log, s.noteFallback found type input = { s with log := log } := by
  unfold noteFallback
  split
  · split <;> exact ⟨_, rfl⟩
  · exact ⟨_, rfl⟩

theorem callServer_eq (s : State) (server : Server) (rpc : Current.Identifier)
    (input : Option Payload) : ∃ implementations log, (s.callServer server rpc input).1 =
      { s with implementations := implementations, log := log } := by
  unfold callServer
  split
  · exact ⟨_, _, rfl⟩
  · cases server <;> exact ⟨_, _, rfl⟩

/-- A call changes nothing but who is to answer next, and the log. -/
theorem callRouter_eq (s : State) (router : Nat) (type : SchemaPath) (input : Option Payload) :
    ∃ implementations log, (s.callRouter router type input).1 =
      { s with implementations := implementations, log := log } := by
  unfold callRouter
  split
  · exact ⟨_, _, rfl⟩
  · rename_i found _
    obtain ⟨log, noted⟩ := s.noteFallback_eq found type input
    dsimp only
    rw [noted]
    split
    · exact callServer_eq _ _ _ input
    · exact ⟨_, _, rfl⟩
    · exact ⟨_, _, rfl⟩

/-- A call through the router is answered as it is answered directly. -/
theorem callRouter_direct (there : s.router? router = some direct.router) (type : SchemaPath)
    (input : Option Payload) :
    ∃ called script,
      s.callRouter router type input = (called, script, direct.answer s.parties type input) ∧
        called.invocations = s.invocations ++ direct.invocations s.parties type input := by
  obtain ⟨implementations, silent⟩ := noteFallback_notes s direct.router type input
  unfold callRouter Direct.answer Direct.invocations
  rw [there]
  dsimp only
  cases chosen : direct.router.choose type input with
  | unavailable =>
    refine ⟨_, _, rfl, ?_⟩
    rw [List.append_nil]
    exact (invocations_note _ _ _ _).trans silent
  | malformed error =>
    refine ⟨_, _, rfl, ?_⟩
    rw [List.append_nil]
    exact (invocations_note _ _ _ _).trans silent
  | dispatch server rpc =>
    let noted := (s.noteFallback direct.router type input).note .trace "dispatching RPC"
      [("rpc", rpc.render)]
    have kept : noted.implementations = s.parties.implementations := implementations
    have quiet : noted.invocations = s.invocations := (invocations_note _ _ _ _).trans silent
    dsimp only
    cases known : s.parties.implementations[server.implementation]? with
    | none =>
      have nobody : noted.implementations[server.implementation]? = none := by
        rw [kept]
        exact known
      refine ⟨noted, [], ?_, quiet.trans (List.append_nil _).symm⟩
      show noted.callServer server rpc input = _
      rw [callServer, nobody]
    | some found =>
      obtain ⟨called, answered⟩ :=
        callServer_answers (s := noted) (by rw [kept]; exact known) rpc input
      refine ⟨_, _, Prod.ext rfl answered, ?_⟩
      rw [called, quiet]
      rfl

/-- A call leaves the registrations as they are. -/
theorem called_comesTo {called : State} {script : List Step} {verdict : Verdict .current}
    {type : SchemaPath} {input : Option Payload} {answer : Answer} {resource : Resource}
    (calls : s.callRouter router type input = (called, script, verdict))
    (steady : (called.push [.script script, .answer answer, .letGo resource]).Steady router)
    (trailing : (Frame.letGo resource).isTrailing s.targets = true)
    (mirrors : s.Mirrors router direct) :
    ComesTo router direct s (called.push [.script script, .answer answer, .letGo resource])
      [.invoke type input] := by
  obtain ⟨implementations, log, same⟩ := callRouter_eq s router type input
  rw [calls] at same
  obtain rfl : called = { s with implementations := implementations, log := log } := same
  refine ⟨_, .single (.still steady) (mirrors.same rfl rfl rfl rfl rfl), .of_eq rfl rfl ?_⟩
  simp [Frame.isTrailing] at trailing ⊢
  exact trailing

theorem invoke_comesTo {type : String} {input : Option Payload}
    (steady : (s.take (.invoke target type input)).Steady router)
    (mirrors : s.Mirrors router direct) :
    ComesTo router direct s (s.take (.invoke target type input))
      (s.deeds (.invoke target type input)) := by
  simp only [State.take, State.invoke, withTarget_eq] at steady ⊢
  simp only [deeds]
  cases addressed : s.addressee? target with
  | none =>
    rw [addressed] at steady
    exact .replied steady mirrors rfl rfl
  | some addressee =>
    rw [addressed] at steady
    cases addressee with
    | facade id facade =>
      obtain ⟨named, there⟩ := addressee?_facade addressed
      dsimp only at steady ⊢
      cases read : SchemaPath.parse type with
      | error error =>
        rw [read] at steady
        exact .replied steady mirrors rfl rfl
      | ok type =>
        rw [read, (mirrors.booked id facade there).service] at steady
        rw [(mirrors.booked id facade there).service]
        exact called_comesTo rfl steady (hasFacade_of_facade? named) mirrors
    | router id found =>
      obtain ⟨rfl, -⟩ := mirrors.addressed addressed
      dsimp only at steady ⊢
      cases read : SchemaPath.parse type with
      | error error =>
        rw [read] at steady
        exact .replied steady mirrors rfl rfl
      | ok type =>
        rw [read] at steady
        exact called_comesTo rfl steady rfl mirrors

/-! Steps. -/

/-- Whatever step is taken, its work comes to what is done directly in its place. -/
theorem take_comesTo {step : Step} (steady : (s.take step).Steady router) (calm : s.panic = none)
    (mirrors : s.Mirrors router direct)
    (live : step.isLive = true) :
    ComesTo router direct s (s.take step) (s.deeds step) := by
  cases step with
  | register => exact register_comesTo steady calm mirrors
  | listen => exact listen_comesTo steady calm mirrors
  | invoke => exact invoke_comesTo steady mirrors
  | updateSchema => exact updateSchema_comesTo steady calm mirrors
  | closeFacade => exact closeFacade_comesTo steady calm mirrors
  | close handle =>
    simp only [State.take, withHandle] at steady ⊢
    cases named : s.handleNames.lookup handle with
    | none =>
      rw [named] at steady
      rw [deeds, displacing, named]
      exact .replied steady mirrors rfl rfl
    | some index =>
      rw [named] at steady
      exact closeNamed_comesTo named rfl rfl rfl steady rfl calm mirrors
  | forget handle =>
    simp only [State.take, withHandle] at steady ⊢
    cases named : s.handleNames.lookup handle with
    | none =>
      rw [named] at steady
      rw [deeds, displacing, named]
      exact .replied steady mirrors rfl rfl
    | some index =>
      rw [named] at steady
      refine closeNamed_comesTo named rfl rfl rfl steady rfl calm ?_
      exact mirrors.less rfl (fun _ => id) rfl rfl (fun _ _ inside _ => inside) fun entry member =>
        List.mem_of_mem_filter member
  | abandon target =>
    cases target with
    | facade | facade2 => contradiction
    | router =>
      revert steady
      simp only [State.take, State.abandon]
      split
      · exact fun steady => .replied steady mirrors rfl rfl
      · refine fun steady => .still steady ?_ rfl fun _ => id
        refine mirrors.less rfl (fun home => ?_) rfl rfl (fun _ _ inside _ => inside) fun _ => id
        simp +contextual [Targets.hasRouter, State.reply]
    | second | unknown => exact .replied steady mirrors rfl rfl
  | panic => exact .still steady (mirrors.same rfl rfl rfl rfl rfl) rfl fun _ => id
  | unknown => exact .replied steady mirrors rfl rfl
  -- What is left looks at something or changes how somebody goes on, and answers.
  | closed | describeHandle | isAvailable | look | describe | setCost | setRejected | asked =>
    revert steady
    simp only [State.take, withHandle, withTarget_eq, withRead, refuseFacade]
    repeat' split
    all_goals exact fun steady => .replied steady (mirrors.same rfl rfl rfl rfl rfl) rfl rfl

end State
end RpcRouting.Session
