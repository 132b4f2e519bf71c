import RpcRouting.Proofs.Facade.Disposing
import RpcRouting.Proofs.Session.Custody
/-! Whatever a session does, its facades do what facades may do over anything at all. Each piece of
work is a few turns of one facade, or none. -/
namespace RpcRouting.Session

namespace State
variable {s t u : State} {before : Custody Nat Server Handle} {passed now : List (Deal Handle)}
  {id : Nat} {found : Facade} {frame : Frame} {services : List (Option Nat)}

/-- A handle that is to be closed is closed next, before anything else happens. -/
structure Prompt (frames : List Frame) (panic : Option String) : Prop where
  below : ∀ handle, .close handle ∉ frames.tail
  calm : panic ≠ none → ∀ handle, .close handle ∉ frames

theorem Prompt.of_forall {frames : List Frame} (free : ∀ handle, .close handle ∉ frames)
    (panic : Option String) : Prompt frames panic :=
  ⟨fun handle member => free handle (List.mem_of_mem_tail member), fun _ => free⟩

theorem Prompt.append {frames rest : List Frame} {panic : Option String}
    (prompt : Prompt frames panic) (free : ∀ handle, .close handle ∉ rest) :
    Prompt (frames ++ rest) panic := by
  refine ⟨fun handle member => ?_, fun panicked handle member => ?_⟩
  · cases frames with
    | nil => exact free handle (List.mem_of_mem_tail member)
    | cons first others =>
      rcases List.mem_append.mp member with new | old
      · exact prompt.below handle new
      · exact free handle old
  · rcases List.mem_append.mp member with new | old
    · exact prompt.calm panicked handle new
    · exact free handle old

/-- Work that puts more work on the stack, and that takes the facades through turns in which passes
what has passed before and what begins with the new work. -/
structure Works (before : Custody Nat Server Handle) (passed : List (Deal Handle)) (s t : State) :
    Prop where
  secure : ∀ {services : List (Option Nat)}, s.Secure services → t.Secure services
  steps : ∃ pushed, t.frames = pushed ++ s.frames ∧ Prompt pushed t.panic ∧
    Run Custody.Step before (passed ++ pushed.flatMap Frame.begins) t.custody

theorem Secure.modifyFacade (secure : s.Secure services) {f : Facade → Facade}
    (connected : ∀ facade, (f facade).service = facade.service)
    (kept : ∀ facade : Facade, facade.life = .alive → s.targets.hasFacade id = true →
      (f facade).life = .alive) : (s.modifyFacade id f).Secure services := by
  constructor
  · intro other has
    obtain ⟨facade, there, alive⟩ := secure.1 other has
    by_cases same : id = other
    · subst same
      exact ⟨f facade, facade?_modifyFacade there f, kept facade alive has⟩
    · exact ⟨facade, (facade?_modifyFacade_ne same f).trans there, alive⟩
  · rw [← secure.2]
    refine List.ext_getElem? fun other => ?_
    by_cases same : id = other
    · subst same
      simp [State.modifyFacade, List.getElem?_modify_eq, Function.comp_def, connected]
    · rw [List.getElem?_map, List.getElem?_map]
      exact congrArg _ (facade?_modifyFacade_ne same f)

theorem Secure.modifyRoster (secure : s.Secure services) (f) :
    (s.modifyRoster id f).Secure services :=
  secure.modifyFacade (fun _ => rfl) fun _ alive _ => alive

theorem free_of_duty? {frames : List Frame} (free : ∀ frame ∈ frames, frame.duty? = none) :
    (∀ handle, .close handle ∉ frames) ∧ frames.flatMap Frame.begins = [] := by
  constructor
  · intro handle member
    cases free _ member
  · exact List.flatMap_eq_nil_iff.mpr fun frame member => begins_of_duty? (free frame member)

namespace Works

theorem of_aside (aside : Aside s t) : Works s.custody [] s t := by
  obtain ⟨pushed, frames, free⟩ := aside.frames
  obtain ⟨closeless, nothing⟩ := free_of_duty? free
  refine ⟨aside.secure, pushed, frames, .of_forall closeless _, ?_⟩
  rw [nothing, aside.custody]
  exact .still

theorem behind (aside : Aside s t) (works : Works before passed t u) :
    Works before passed s u := by
  obtain ⟨first, middle, free⟩ := aside.frames
  obtain ⟨pushed, frames, prompt, run⟩ := works.steps
  obtain ⟨closeless, nothing⟩ := free_of_duty? free
  refine ⟨fun secure => works.secure (aside.secure secure), pushed ++ first, ?_,
    prompt.append closeless, ?_⟩
  · rw [frames, middle, List.append_assoc]
  · rw [List.flatMap_append, nothing, List.append_nil]
    exact run

theorem after (aside : Aside s t) (works : Works t.custody passed t u) :
    Works s.custody passed s u := aside.custody ▸ behind aside works

theorem step (step : Custody.Step before now s.custody) (works : Works s.custody passed s t) :
    Works before (now ++ passed) s t := by
  obtain ⟨pushed, frames, prompt, run⟩ := works.steps
  refine ⟨works.secure, pushed, frames, prompt, ?_⟩
  rw [List.append_assoc]
  exact (Run.single step).append run

theorem set_holding (there : s.facade? id = some found) :
    s.custody.facades.set id found.holding = s.custody.facades := by
  have held : s.custody.facades[id]? = some found.holding := by
    rw [custody_facade?, there]
    rfl
  refine List.ext_getElem? fun other => ?_
  by_cases same : id = other
  · subst same
    rw [List.getElem?_set_self (List.getElem?_eq_some_iff.mp held).1, held]
  · rw [List.getElem?_set_ne same]

theorem step_same {popped : List (Duty Handle)} (there : s.facade? id = some found)
    (turn : Turn id s.custody.duties found.holding popped now found.holding []) :
    Custody.Step ⟨s.custody.facades, popped ++ s.custody.duties⟩ now s.custody := by
  have held : s.custody.facades[id]? = some found.holding := by
    rw [custody_facade?, there]
    rfl
  have step : Custody.Step ⟨s.custody.facades, popped ++ s.custody.duties⟩ now
      ⟨s.custody.facades.set id found.holding, [] ++ s.custody.duties⟩ :=
    .turn id popped held rfl turn
  rwa [set_holding there] at step

/-- One turn of a facade. -/
theorem turn (popped : List (Duty Handle)) {pushed : List (Duty Handle)}
    {first after : Holding Nat Server Handle}
    (there : s.facade? id = some found) (holding : found.holding = first)
    (turn : Turn id s.custody.duties first popped now after pushed)
    (secure : ∀ {services : List (Option Nat)}, s.Secure services → t.Secure services)
    (new : List Frame) (frames : t.frames = new ++ s.frames)
    (prompt : Prompt new t.panic) (dealt : now = passed ++ new.flatMap Frame.begins)
    (custody : t.custody = ⟨s.custody.facades.set id after, pushed ++ s.custody.duties⟩) :
    Works ⟨s.custody.facades, popped ++ s.custody.duties⟩ passed s t := by
  refine ⟨secure, new, frames, prompt, ?_⟩
  rw [custody, ← dealt]
  refine .single (.turn id popped ?_ rfl turn)
  show s.custody.facades[id]? = some first
  rw [custody_facade?, there, Option.map_some, holding]

/-- One turn of a facade of which nothing but the work changes. -/
theorem turn_same (popped : List (Duty Handle)) {pushed : List (Duty Handle)}
    (there : s.facade? id = some found)
    (turn : Turn id s.custody.duties found.holding popped now found.holding pushed)
    (secure : ∀ {services : List (Option Nat)}, s.Secure services → t.Secure services)
    (new : List Frame) (frames : t.frames = new ++ s.frames)
    (prompt : Prompt new t.panic) (dealt : now = passed ++ new.flatMap Frame.begins)
    (facades : t.facades = s.facades) (duties : new.filterMap Frame.duty? = pushed) :
    Works ⟨s.custody.facades, popped ++ s.custody.duties⟩ passed s t := by
  refine .turn popped there rfl turn secure new frames prompt dealt ?_
  rw [set_holding there, ← duties, custody, facades, frames, List.filterMap_append]
  rfl

end Works

/-! What is let go. -/

theorem letRosterGo_works (there : s.facade? id = some found) :
    Works (s.push [.letGo (.roster id)]).custody [] s (s.letRosterGo id) := by
  unfold State.letRosterGo
  rw [there]
  dsimp only
  split
  · rename_i last
    obtain ⟨leaving, free⟩ := last
    have free : .hold id ∉ s.custody.duties := by
      rw [← isKeptAlive_roster]
      simpa using free
    have holding : found.holding = ⟨found.roster, .leaving⟩ := by rw [Facade.holding, leaving]
    have all := found.roster.perm_underlyings_arranged found.order
    refine .turn [.hold id] there holding (.letGoLast free all) ?_
      [.closeAll found.arranged.underlyings, .answer s.answer] rfl (.of_forall (by simp) _) rfl ?_
    · intro services secure
      refine Secure.modifyFacade secure (fun _ => rfl) fun facade alive has => ?_
      obtain ⟨same, found, alive⟩ := secure.1 id has
      cases there.symm.trans found
      cases leaving.symm.trans alive
    · rw [custody_push, custody_modifyFacade there]
      rfl
  · rename_i kept
    refine .turn_same [.hold id] there (.letGo fun leaving => ?_) (fun secure => secure)
      [] rfl (.of_forall (by simp) _) rfl rfl rfl
    rw [not_and_or, Bool.not_eq_true, Bool.not_eq_false'] at kept
    rw [← isKeptAlive_roster]
    exact kept.resolve_left fun other => other leaving

theorem letFacadeGo_works (s : State) (id : Nat) : Works s.custody [] s (s.letFacadeGo id) := by
  unfold State.letFacadeGo
  cases there : s.facade? id with
  | none => exact .of_aside (.refl s)
  | some found =>
    dsimp only
    split
    · rename_i last
      obtain ⟨alive, unowned, left⟩ := last
      have left : .call id ∉ s.custody.duties := by
        rw [← isKeptAlive_facade]
        simpa using left
      have holding : found.holding = ⟨found.roster, .alive⟩ := by rw [Facade.holding, alive]
      have gone (life : Life) {services} (secure : s.Secure services) :
          (s.modifyFacade id ({ · with life := life })).Secure services := by
        refine secure.modifyFacade (fun _ => rfl) fun facade alive has => ?_
        simp [has] at unowned
      have same := facade?_modifyFacade there ({ · with life := .leaving })
      have kept : (s.modifyFacade id ({ · with life := .leaving })).isKeptAlive (.roster id) =
        s.isKeptAlive (.roster id) := rfl
      unfold State.letRosterGo
      rw [same]
      dsimp only
      rw [kept]
      split
      · rename_i free
        have free : .hold id ∉ s.custody.duties := by
          rw [← isKeptAlive_roster]
          simpa using free.2
        have all := found.roster.perm_underlyings_arranged found.order
        refine .turn [] there holding (.vanish left free all) ?_
          [.closeAll found.arranged.underlyings, .answer s.answer] rfl (.of_forall (by simp) _) rfl ?_
        · intro services secure
          refine Secure.modifyFacade (gone .leaving secure) (fun _ => rfl) fun facade alive has => ?_
          have has : s.targets.hasFacade id = true := has
          simp [has] at unowned
        · rw [custody_push, custody_modifyFacade same, custody_modifyFacade there, List.set_set]
          rfl
      · rename_i kept
        refine .turn [] there holding (.leave left ?_) (gone .leaving) [] rfl
          (.of_forall (by simp) _) rfl (custody_modifyFacade there _)
        rw [not_and_or, Bool.not_eq_true, Bool.not_eq_false'] at kept
        rw [← isKeptAlive_roster]
        exact kept.resolve_left fun other => other rfl
    · exact .of_aside (.refl s)

/-! Steps. -/

theorem hasFacade_of_facade? {targets : Targets} {target : Target}
    (has : targets.facade? target = some id) : targets.hasFacade id = true := by
  cases target with
  | facade | facade2 => simp_all [Targets.facade?, Targets.hasFacade]
  | _ => cases has

namespace Works

theorem withHandle (s : State) (name : String) {act : Nat → State}
    (acts : ∀ handle, Aside s (act handle)) : Works s.custody [] s (s.withHandle name act) := by
  unfold State.withHandle
  split
  · exact .of_aside (acts _)
  · exact .of_aside (.refuse s _)

theorem withTarget (secure : s.Secure services) (target : Target) {onFacade : Nat → Facade → State}
    {onRouter : Nat → Router Server Watcher → State}
    (facades : ∀ id facade, s.facade? id = some facade → facade.life = .alive →
      Works s.custody [] s (onFacade id facade))
    (routers : ∀ id router, Aside s (onRouter id router)) :
    Works s.custody [] s (s.withTarget target onFacade onRouter) := by
  unfold State.withTarget
  cases has : s.targets.facade? target with
  | some id =>
    obtain ⟨facade, there, alive⟩ := secure.1 id (hasFacade_of_facade? has)
    dsimp only
    rw [there]
    exact facades id facade there alive
  | none =>
    cases s.targets.router? target with
    | none => exact .of_aside (.refuse s _)
    | some id =>
      dsimp only
      split
      · exact .of_aside (routers _ _)
      · exact .of_aside (.refuse s _)

theorem withRead (s : State) (read : Except PathError α) {act : α → State}
    (acts : ∀ value, Works s.custody [] s (act value)) :
    Works s.custody [] s (s.withRead read act) := by
  unfold State.withRead
  split
  · exact acts _
  · exact .of_aside (.refuse s _)

end Works

theorem Aside.withRead (s : State) (read : Except PathError α) {act : α → State}
    (acts : ∀ value, Aside s (act value)) : Aside s (s.withRead read act) := by
  unfold State.withRead
  split
  · exact acts _
  · exact .refuse s _

theorem registerThrough_works (there : s.facade? id = some found) (alive : found.life = .alive)
    (handle : String) (implementation : Nat) (rpcs : List Legacy.Identifier) :
    Works s.custody [] s (s.registerThrough id found handle implementation rpcs) := by
  have holding : found.holding = ⟨found.roster, .alive⟩ := by rw [Facade.holding, alive]
  let number := found.roster.nextNumber
  let server := Server.adapted id number implementation
  let entered := s.modifyRoster id (·.takeNumber.enter number implementation server)
  have held : entered.custody = ⟨s.custody.facades.set id
      ⟨found.roster.takeNumber.enter number implementation server, .alive⟩, s.custody.duties⟩ := by
    rw [← alive]
    exact custody_modifyFacade there _
  have kept {services} (secure : s.Secure services) : entered.Secure services :=
    secure.modifyRoster _
  let waiting := (entered.note .debug "registering legacy RPC implementation"
    [("registration", registrationText number),
      ("rpcs", toString (rpcs.map (·.toCurrent)).length)]).push
      [.complete id number (s.offerHandle found.provider (rpcs.map (·.toCurrent))),
        .keep handle (.opened () (.facadeImplementation id number)) (.registered false),
        .letGo (.facade id)]
  have aside : Aside waiting (s.registerThrough id found handle implementation rpcs) :=
    .registerWith waiting _ _ _
  obtain ⟨pushed, frames, free⟩ := aside.frames
  obtain ⟨closeless, nothing⟩ := free_of_duty? free
  refine .turn [] there holding (.register implementation server)
    (fun secure => aside.secure (kept secure)) (pushed ++ _)
    (frames.trans (List.append_assoc ..).symm) (.of_forall ?_ _) ?_ ?_
  · simpa using closeless
  · rw [List.flatMap_append, nothing]
    rfl
  · rw [aside.custody, custody_push, show (entered.note _ _ _).custody = _ from held]
    rfl

theorem listenThrough_works (there : s.facade? id = some found) (alive : found.life = .alive)
    (handle : String) (listener : Nat) :
    Works s.custody [] s (s.listenThrough id found handle listener) := by
  have holding : found.holding = ⟨found.roster, .alive⟩ := by rw [Facade.holding, alive]
  have counted : (s.modifyRoster id (·.takeNumber)).custody =
      ⟨s.custody.facades.set id ⟨found.roster.takeNumber, .alive⟩, s.custody.duties⟩ := by
    rw [modifyRoster, custody_modifyFacade there, Facade.holding, alive]
  unfold State.listenThrough
  cases found.service with
  | none =>
    refine .turn [] there holding .listen (fun secure => secure.modifyRoster _) _ rfl
      (.of_forall (by simp) _) rfl ?_
    rw [custody_push, counted]
    rfl
  | some router =>
    refine .turn [] there holding .listen (fun secure => secure.modifyRoster _)
      (.change router _ :: _) rfl (.of_forall (by simp) _) rfl ?_
    rw [custody_push, custody_push, counted]
    rfl

theorem closeFacade_works (there : s.facade? id = some found) (alive : found.life = .alive) :
    Works s.custody [] s (s.closeFacade id found) := by
  have holding : found.holding = ⟨found.roster, .alive⟩ := by rw [Facade.holding, alive]
  have shut : Turn id s.custody.duties found.holding [] [.closing id] found.holding
      (found.arranged.numbers.map (.release id) ++ [.releaseListeners id, .call id]) := by
    rw [holding]
    exact .shut (found.roster.perm_numbers_arranged found.order)
  refine .turn_same [] there shut (fun secure => secure) _ rfl (.of_forall ?_ _) ?_ rfl ?_
  · simp
  · rw [List.flatMap_append, List.flatMap_map,
      List.flatMap_eq_nil_iff.mpr (fun _ _ => by simp [Frame.begins])]
    rfl
  · rw [List.filterMap_append, List.filterMap_map, Roster.numbers, List.map_map]
    exact congrArg (· ++ _) (congrFun List.filterMap_eq_map _)

theorem abandon_works (s : State) (target : Target) : Works s.custody [] s (s.abandon target) := by
  obtain ⟨refusal, same⟩ | ⟨targets, fewer, same | ⟨id, same⟩⟩ := s.abandon_cases target
  · exact same ▸ .of_aside (.refuse s refusal)
  · exact same ▸ .of_aside ⟨rfl, fewer, [], rfl, List.forall_mem_nil _⟩
  · have parted : Aside s (State.push { s with targets := targets } [.answer (.text "dropped")]) :=
      ⟨rfl, fewer, [.answer (.text "dropped")], rfl, by simp [Frame.duty?]⟩
    exact same ▸ .after parted (letFacadeGo_works _ id)

theorem take_works (secure : s.Secure services) (step : Step) :
    Works s.custody [] s (s.take step) := by
  cases step with
  | register target handle name plan rpcs =>
    simp only [State.take]
    split
    · rename_i introduced implementation there
      have aside := Aside.introduceImplementation there
      refine .after aside (.withTarget (aside.secure secure) target (fun id facade there alive => ?_)
        fun id router => ?_)
      · exact .withRead _ _ fun rpcs => registerThrough_works there alive handle implementation _
      · refine .withRead _ _ fun rpcs => ?_
        exact (Aside.push _ (by simp [Frame.duty?])).trans (.registerWith _ _ _ _)
    · exact .of_aside (.refuse s _)
  | listen target handle name plan =>
    simp only [State.take]
    split
    · rename_i introduced listener there
      have aside := Aside.introduceListener there
      refine .after aside (.withTarget (aside.secure secure) target (fun id facade there alive => ?_)
        fun id router => ?_)
      · exact listenThrough_works there alive handle listener
      · exact .push _ (by simp [Frame.duty?])
    · exact .of_aside (.refuse s _)
  | close handle => exact .withHandle s handle fun id => .push s (by simp [Frame.duty?])
  | closed handle => exact .withHandle s handle fun id => .of_eq rfl rfl rfl
  | forget handle =>
    refine .withHandle s handle fun id => .trans ?_ (.push _ (by simp [Frame.duty?]))
    exact .of_eq rfl rfl rfl
  | invoke target type input =>
    refine .withTarget secure target (fun id facade there alive => ?_) fun id router => ?_
    · refine .withRead s _ fun type => ?_
      have aside := Aside.callService s facade.service type input
      have same : (s.callService facade.service type input).1.facade? id = some facade := by
        rw [facade?, aside.facades]
        exact there
      have use (below : List (Duty Handle)) :
          Turn id below facade.holding [] [] facade.holding [.call id] := by
        rw [Facade.holding, alive]
        exact .use
      exact .after aside (.turn_same [] same (use _) (fun secure => secure)
        [.script _, .answer _, .letGo (.facade id)] rfl (.of_forall (by simp) _) rfl rfl rfl)
    · refine .withRead s _ fun type => ?_
      exact (Aside.callRouter s id type input).trans (.push _ (by simp [Frame.duty?]))
  | isAvailable target rpc =>
    exact .withTarget secure target (fun _ _ _ _ => .of_aside (.refuse s _))
      (fun _ _ => .withRead s _ fun _ => .of_eq rfl rfl rfl)
  | look target =>
    exact .withTarget secure target (fun _ _ _ _ => .of_aside (.refuse s _))
      (fun _ _ => .of_eq rfl rfl rfl)
  | updateSchema target definitions =>
    refine .withTarget secure target (fun id facade there alive => ?_) fun id router => ?_
    · refine .withRead s _ fun definitions => .of_aside ?_
      exact (Aside.updateServiceSchema s _ _).trans (.of_eq rfl rfl rfl)
    · refine .withRead s _ fun definitions => ?_
      exact (Aside.updateServiceSchema s _ _).trans (.of_eq rfl rfl rfl)
  | setCost name cost =>
    simp only [State.take]
    split
    · exact .of_aside (.of_eq rfl rfl rfl)
    · exact .of_aside (.refuse s _)
  | setRejected name preference =>
    simp only [State.take]
    split
    · exact .of_aside (.of_eq rfl rfl rfl)
    · exact .of_aside (.refuse s _)
  | asked name =>
    simp only [State.take]
    split
    · exact .of_aside (.of_eq rfl rfl rfl)
    · exact .of_aside (.refuse s _)
  | describe target =>
    exact .withTarget secure target (fun _ _ _ _ => .of_aside (.of_eq rfl rfl rfl))
      (fun _ _ => .of_eq rfl rfl rfl)
  | describeHandle name =>
    refine .withHandle s name fun id => ?_
    split
    · exact .of_eq rfl rfl rfl
    · exact .refuse s _
  | closeFacade target =>
    exact .withTarget secure target (fun _ _ there alive => closeFacade_works there alive)
      (fun _ _ => .refuse s _)
  | abandon target => exact abandon_works s target
  | panic message => exact .of_aside (.of_eq rfl rfl rfl)
  | unknown name => exact .of_aside (.refuse s _)

/-! The work on top of the stack. -/

/-- A handle is released as long as the roster is there; afterwards there is nothing to release. -/
theorem release_works {facade : Nat} {deal : Deal Handle} {duty : Duty Handle}
    (shows : frame.duty? = some duty) (opens : frame.begins = [])
    (plain : ∀ handle, frame ≠ .close handle)
    (late : ∀ {below} {holding : Holding Nat Server Handle}, holding.life = .gone →
      Turn facade below holding [] [deal] holding [])
    (turn : ∀ {below} {holding : Holding Nat Server Handle}, holding.life ≠ .gone →
      Turn facade below holding [] [deal] holding [duty, .hold facade]) :
    Works s.custody (if (s.facade? facade).isSome then [deal] else []) s
      (if s.rosterAlive facade then s.push [frame, .letGo (.roster facade)] else s) := by
  cases there : s.facade? facade with
  | none =>
    have gone : s.rosterAlive facade = false := by simp [rosterAlive, there]
    rw [gone]
    exact .of_aside (.refl s)
  | some found =>
    rw [Option.isSome_some, if_pos rfl]
    by_cases life : found.life = .gone
    · have gone : s.rosterAlive facade = false := by simp [rosterAlive, there, life]
      rw [gone]
      exact .turn_same [] there (late life) (fun secure => secure) [] rfl
        (.of_forall (by simp) _) rfl rfl rfl
    · have alive : s.rosterAlive facade = true := by simp [rosterAlive, there, life]
      rw [alive, if_pos rfl]
      refine .turn_same [] there (turn life) (fun secure => secure)
        [frame, .letGo (.roster facade)] rfl (.of_forall ?_ _) ?_ rfl ?_
      · intro handle member
        simp only [List.mem_cons, reduceCtorEq, List.not_mem_nil, or_false] at member
        exact plain handle member.symm
      · rw [List.flatMap_cons, opens]
        rfl
      · rw [List.filterMap_cons_some shows]
        rfl

theorem close_works (s : State) (handle : Handle) :
    Works s.custody (s.closes handle) s (s.close handle) := by
  unfold State.close closes
  cases handle.release with
  | none => exact .of_aside (.refl s)
  | some release =>
    cases release with
    | offer router number => exact .of_aside (.ite (.push s (by simp [Frame.duty?])) (.refl s))
    | subscription router number =>
      exact .of_aside (.ite (.push s (by simp [Frame.duty?])) (.refl s))
    | facadeImplementation facade id =>
      exact release_works rfl rfl (by simp) (.closeLate id) (.close id)
    | facadeListener facade id =>
      exact release_works rfl rfl (by simp) (.closeListenerLate id) (.closeListener id)

/-- The facade whose roster is used by the work on top of the stack is there. -/
theorem there_of_duty? (s : State) {duty : Duty Handle}
    (sound : Sound passed ⟨s.custody.facades, duty :: s.custody.duties⟩)
    (uses : duty.facade? = some id) : ∃ found, s.facade? id = some found := by
  have inside (member : .call id ∈ duty :: s.custody.duties ∨ .hold id ∈ duty :: s.custody.duties) :
      ∃ found, s.facade? id = some found := by
    have length : id < s.facades.length := by simpa [custody] using sound.there member
    exact ⟨_, List.getElem?_eq_getElem length⟩
  cases sound.stacked with
  | cons sheltered _ _ =>
    cases duty with
    | call | hold =>
      cases uses
      exact inside (by simp)
    | close | closeAll => cases uses
    | complete | completeListener | release | finishRelease | releaseListener | releaseListeners =>
      exact inside ((sheltered id uses).imp (List.mem_cons_of_mem _) (List.mem_cons_of_mem _))

theorem complete_works (there : s.facade? id = some found) (number : Nat) (underlying : Handle)
    (calm : s.panic = none) :
    Works ⟨s.custody.facades, [.complete id number] ++ s.custody.duties⟩
      [.handed id number underlying] s (s.complete id number underlying) := by
  unfold State.complete
  rw [there]
  cases entered : found.roster.record? number with
  | some record =>
    simp only [Roster.complete, entered]
    exact .turn _ there rfl (.attach underlying entered) (fun secure => secure.modifyRoster _) [] rfl
      (.of_forall (by simp) _) rfl (custody_modifyFacade there _)
  | none =>
    simp only [Roster.complete, entered]
    have kept {services} (secure : s.Secure services) :
        (s.modifyRoster id fun _ => found.roster).Secure services :=
      secure.modifyRoster _
    refine .turn _ there rfl (.orphan underlying entered) kept
      [.close underlying] rfl ⟨by simp, fun panicked => absurd calm panicked⟩ rfl ?_
    rw [custody_push]
    exact congrArg (fun custody : Custody Nat Server Handle =>
      (⟨custody.facades, [.close underlying] ++ custody.duties⟩ : Custody _ _ _))
        (custody_modifyFacade there _)

theorem beginRelease_works (there : s.facade? id = some found) (number : Nat)
    (calm : s.panic = none) :
    Works ⟨s.custody.facades, [.release id number] ++ s.custody.duties⟩ [] s
      (s.beginRelease id number) := by
  unfold State.beginRelease
  rw [there, Option.bind_some]
  cases entered : found.roster.record? number with
  | none =>
    simp only [Roster.detach?, entered]
    exact .turn_same _ there (.releaseMissing entered) (fun secure => secure) [] rfl
      (.of_forall (by simp) _) rfl rfl rfl
  | some record =>
    simp only [Roster.detach?, entered, Option.map_some]
    have kept {services} (secure : s.Secure services) :
        (s.modifyRoster id fun _ => found.roster.setUnderlying number none).Secure services :=
      secure.modifyRoster _
    refine .turn _ there rfl (.release entered) kept
      (record.underlying.toList.map .close ++ [.finishRelease id number]) rfl ?_ ?_ ?_
    · refine ⟨fun handle => ?_, fun panicked => absurd calm panicked⟩
      cases record.underlying <;> simp
    · cases record.underlying <;> rfl
    · rw [custody_push, modifyRoster, custody_modifyFacade there]
      cases record.underlying <;> rfl

theorem beginListenerRelease_works (there : s.facade? id = some found) (number : Nat)
    (calm : s.panic = none) :
    Works ⟨s.custody.facades, [.releaseListener id number] ++ s.custody.duties⟩ [] s
      (s.beginListenerRelease id number) := by
  unfold State.beginListenerRelease
  rw [there, Option.bind_some]
  cases entered : found.roster.listener? number with
  | none =>
    exact .turn_same _ there (.releaseListenerMissing entered) (fun secure => secure) [] rfl
      (.of_forall (by simp) _) rfl rfl rfl
  | some underlying =>
    have kept {services} (secure : s.Secure services) :
        (s.modifyRoster id (·.removeListener number)).Secure services :=
      secure.modifyRoster _
    refine .turn _ there rfl (.releaseListener entered) kept
      [.close underlying, .finishListenerRelease number] rfl
      ⟨by simp, fun panicked => absurd calm panicked⟩ rfl ?_
    rw [custody_push, modifyRoster, custody_modifyFacade there]
    rfl

theorem releaseListeners_works (there : s.facade? id = some found) :
    Works ⟨s.custody.facades, [.releaseListeners id] ++ s.custody.duties⟩ [] s
      (s.releaseListeners id) := by
  unfold State.releaseListeners
  rw [there]
  refine .turn_same _ there
    (.releaseListeners (found.roster.perm_listenerNumbers_arranged found.order))
    (fun secure => secure) _ rfl (.of_forall ?_ _) ?_ rfl ?_
  · simp
  · rw [List.flatMap_map, List.flatMap_eq_nil_iff.mpr (fun _ _ => by simp [Frame.begins])]
    rfl
  · rw [List.filterMap_map, Roster.listenerNumbers, List.map_map]
    exact congrFun List.filterMap_eq_map _

/-- Whatever is on top of the stack, the facades do with it what they may do. -/
theorem enter_works (sound : Sound passed (s.push [frame]).custody) (secure : s.Secure services)
    (calm : s.panic = none) :
    Works (s.push [frame]).custody (s.deals frame) s (s.enter frame) := by
  cases frame with
  | script steps =>
    cases steps with
    | nil => exact .of_aside (.refl s)
    | cons step rest =>
      have aside : Aside s (s.push [.report step.name, .script rest]) :=
        .push s (by simp [Frame.duty?])
      exact .after aside (take_works (aside.secure secure) step)
  | report name => exact .of_aside (.of_eq (s := s) (t := s.enter (.report name)) rfl rfl rfl)
  | answer answer => exact .of_aside (.of_eq (s := s) (t := s.enter (.answer answer)) rfl rfl rfl)
  | answerClosed handle =>
    exact .of_aside (.of_eq (s := s) (t := s.enter (.answerClosed handle)) rfl rfl rfl)
  | change router change => exact .of_aside (.change s router change)
  | adopt router schema => exact .of_aside (.adopt s router schema)
  | deliver router => exact .of_aside (.deliverNext s router)
  | call router call => exact .of_aside (.callListener s call)
  | keep name handle answer => exact .of_aside (.keep s name handle answer)
  | close handle => exact .step .close (close_works s handle)
  | closeKept handle =>
    simp only [enter, State.closeKept, deals]
    split
    · rename_i kept there
      rw [there]
      have aside : Aside s { s with handles := s.handles.modify handle (·.close) } :=
        .of_eq rfl rfl rfl
      exact .after aside (close_works _ kept)
    · rename_i missing
      rw [missing]
      exact .of_aside (.refl s)
  | complete facade id underlying =>
    obtain ⟨found, there⟩ := there_of_duty? s sound rfl
    exact complete_works there id underlying calm
  | completeListener facade id underlying =>
    obtain ⟨found, there⟩ := there_of_duty? s sound rfl
    have kept {services} (secure : s.Secure services) :
        (s.modifyRoster facade (·.enterListener id underlying)).Secure services :=
      secure.modifyRoster _
    exact .turn _ there rfl (.enterListener underlying) kept [] rfl
      (.of_forall (by simp) _) rfl (custody_modifyFacade there _)
  | release facade id =>
    obtain ⟨found, there⟩ := there_of_duty? s sound rfl
    exact beginRelease_works there id calm
  | finishRelease facade id =>
    obtain ⟨found, there⟩ := there_of_duty? s sound rfl
    have kept {services} (secure : s.Secure services) :
        (s.modifyRoster facade (·.remove id)).Secure services :=
      secure.modifyRoster _
    exact .turn _ there rfl .finishRelease kept [] rfl
      (.of_forall (by simp) _) rfl (custody_modifyFacade there _)
  | releaseListener facade id =>
    obtain ⟨found, there⟩ := there_of_duty? s sound rfl
    exact beginListenerRelease_works there id calm
  | finishListenerRelease id => exact .of_aside (.note s _ _ _)
  | releaseListeners facade =>
    obtain ⟨found, there⟩ := there_of_duty? s sound rfl
    exact releaseListeners_works there
  | letGo resource =>
    cases resource with
    | facade facade =>
      obtain ⟨found, there⟩ := there_of_duty? s sound rfl
      exact .step (Works.step_same there .back) (letFacadeGo_works s facade)
    | roster facade =>
      obtain ⟨found, there⟩ := there_of_duty? s sound rfl
      exact letRosterGo_works there
    | router router => exact .of_aside (.refl s)
  | closeAll handles =>
    cases handles with
    | nil => exact .step .closeLast (.of_aside (.refl s))
    | cons handle rest =>
      refine ⟨fun secure => secure, [.close handle, .closeAll rest], rfl,
        ⟨by simp, fun panicked => absurd calm panicked⟩, .single .closeNext⟩
  | resume message => exact .of_aside (.of_eq (s := s) (t := s.enter (.resume message)) rfl rfl rfl)

/-- What a panic gives up is lost to the facades, but what is to be closed is closed. -/
theorem giveUp_works (sound : Sound passed (s.push [frame]).custody) (message : String)
    (prompt : ∀ handle, frame ≠ .close handle) :
    Works (s.push [frame]).custody (losses frame) s (s.giveUp message frame) := by
  let resumed : State := State.push { s with panic := none } [.resume message]
  have aside : Aside s resumed :=
    ⟨rfl, fun _ has => has, [.resume message], rfl, by simp [Frame.duty?]⟩
  cases frame with
  | close handle => exact absurd rfl (prompt handle)
  | complete facade id =>
    obtain ⟨found, there⟩ := there_of_duty? s sound rfl
    exact .step (Works.step_same there .abandon) (.of_aside (.refl s))
  | completeListener facade id =>
    obtain ⟨found, there⟩ := there_of_duty? s sound rfl
    exact .step (Works.step_same there .abandonListener) (.of_aside (.refl s))
  | release facade id | finishRelease facade id | releaseListener facade id
  | releaseListeners facade =>
    obtain ⟨found, there⟩ := there_of_duty? s sound rfl
    exact .step (Works.step_same there (.cut rfl rfl)) (.of_aside (.refl s))
  | letGo resource =>
    cases resource with
    | facade facade =>
      obtain ⟨found, there⟩ := there_of_duty? s sound rfl
      exact .step (Works.step_same there .back) (.after aside (letFacadeGo_works resumed facade))
    | roster facade =>
      obtain ⟨found, there⟩ := there_of_duty? s sound rfl
      exact .behind aside (letRosterGo_works (s := resumed) there)
    | router router => exact .of_aside aside
  | closeAll handles =>
    exact ⟨fun secure => secure, [.closeAll handles, .resume message], rfl,
      .of_forall (by simp) _, .still⟩
  | deliver router =>
    exact .of_aside (.of_eq (s := s) (t := s.modifyRouter router (·.stopDelivering)) rfl rfl rfl)
  | script | report | answer | answerClosed | change | adopt | call | keep | closeKept
  | finishListenerRelease | resume => exact .of_aside (.refl s)

end State
end RpcRouting.Session
