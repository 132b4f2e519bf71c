import RpcRouting.Proofs.Run
import RpcRouting.Proofs.Session.Standing
/-! Whole sessions with facades over one router, and the router used directly in their place. What
is left of a step when its work is done changes nothing that is registered, so the two correspond
again whenever the next step is taken. -/
namespace RpcRouting.Session

theorem Frame.isTrailing_mono {before after : Targets} {frame : Frame}
    (has : ∀ id, before.hasFacade id = true → after.hasFacade id = true)
    (trailing : frame.isTrailing before = true) : frame.isTrailing after = true := by
  unfold Frame.isTrailing at trailing ⊢
  split at trailing <;> simp_all

namespace State

variable {s t u : State} {direct : Direct} {router : Nat} {frame : Frame} {rest : List Frame}

/-! What is left of a step. -/

/-- Nothing goes on unless a step is taken. -/
def Stops (s : State) : Prop := s.isReady = true ∨ s.frames = []

/-- Work goes on to where it stops, whatever comes of it. -/
theorem Proceeds.eq_of_stops (first : Proceeds s t) (second : Proceeds s u) (stops : t.Stops)
    (stops' : u.Stops) : t = u := by
  induction first with
  | still s =>
    cases second with
    | still => rfl
    | onward busy unready =>
      rcases stops with ready | rest
      · rw [ready] at unready
        contradiction
      · contradiction
  | onward busy unready _ ih =>
    cases second with
    | still =>
      rcases stops' with ready | rest
      · rw [ready] at unready
        contradiction
      · contradiction
    | onward _ _ later => exact ih later stops

/-- Work that shows in nothing but in what is answered and in a panic that goes on. -/
structure Winds (router : Nat) (s t : State) : Prop where
  proceeds : Proceeds s t
  steady : t.Steady router
  targets : t.targets = s.targets
  routers : t.routers = s.routers
  facades : t.facades = s.facades
  handles : t.handles = s.handles
  handleNames : t.handleNames = s.handleNames
  notifications : t.notifications = s.notifications

namespace Winds

theorem still (steady : s.Steady router) : Winds router s s :=
  ⟨.still s, steady, rfl, rfl, rfl, rfl, rfl, rfl⟩

theorem trans (first : Winds router s t) (second : Winds router t u) : Winds router s u where
  proceeds := first.proceeds.append second.proceeds
  steady := second.steady
  targets := second.targets.trans first.targets
  routers := second.routers.trans first.routers
  facades := second.facades.trans first.facades
  handles := second.handles.trans first.handles
  handleNames := second.handleNames.trans first.handleNames
  notifications := second.notifications.trans first.notifications

theorem mirrors (winds : Winds router s t) (mirrors : s.Mirrors router direct) :
    t.Mirrors router direct :=
  mirrors.same winds.routers winds.targets winds.facades winds.handles winds.handleNames

theorem heard (winds : Winds router s t) : t.heard = s.heard :=
  congrArg (List.filterMap Event.hearing?) winds.notifications

theorem advance (steady : s.Steady router) (busy : s.frames ≠ []) (unready : s.isReady = false)
    (next : s.advance = t) (targets : t.targets = s.targets) (routers : t.routers = s.routers)
    (facades : t.facades = s.facades) (handles : t.handles = s.handles)
    (handleNames : t.handleNames = s.handleNames) (listeners : t.listeners = s.listeners)
    (notifications : t.notifications = s.notifications) : Winds router s t := by
  have passive : t.Passive := fun listener member => steady.passive listener (listeners ▸ member)
  have move : Move router _ _ _ := .work busy
  rw [next] at move
  exact ⟨next ▸ .onward busy unready (.still _), (PassiveMove.steady ⟨move, passive⟩ steady).1,
    targets, routers, facades, handles, handleNames, notifications⟩

end Winds

/-- A facade that the session calls by a name, or a router, is not let go. -/
theorem letGo_of_trailing {resource : Resource}
    (trailing : (Frame.letGo resource).isTrailing s.targets = true) : s.letGo resource = s := by
  cases resource with
  | roster => contradiction
  | router => rfl
  | facade facade =>
    have has : s.targets.hasFacade facade = true := trailing
    simp only [letGo, letFacadeGo]
    split
    · rw [if_neg]
      simp [has]
    · rfl

/-- What is left on top is done, or given up. -/
theorem trailing_winds (steady : s.Steady router) (top : s.frames = frame :: rest)
    (trailing : frame.isTrailing s.targets = true) (unready : s.isReady = false) :
    ∃ t, Winds router s t ∧ t.frames = rest := by
  obtain ⟨below, rfl, rfl⟩ := eq_push_of_top top
  have busy : (below.push [frame]).frames ≠ [] := List.cons_ne_nil _ _
  cases panicked : below.panic with
  | none =>
    have next := advance_push panicked frame
    cases frame with
    | script steps =>
      cases steps with
      | nil => exact ⟨below, .advance steady busy unready next rfl rfl rfl rfl rfl rfl rfl, rfl⟩
      | cons step later => simp [isReady, push, panicked, Frame.isScripted] at unready
    | report name =>
      exact ⟨_, .advance steady busy unready next rfl rfl rfl rfl rfl rfl
        (Grows.emit below rfl).notifications, rfl⟩
    | answer | answerClosed | resume =>
      exact ⟨_, .advance steady busy unready next rfl rfl rfl rfl rfl rfl rfl, rfl⟩
    | letGo resource =>
      have kept : below.letGo resource = below := letGo_of_trailing trailing
      exact ⟨below, .advance steady busy unready (next.trans kept) rfl rfl rfl rfl rfl rfl rfl, rfl⟩
    | _ => contradiction
  | some message =>
    have next := advance_push_of_panic panicked frame
    cases frame with
    | script | report | answer | answerClosed | resume =>
      exact ⟨below, .advance steady busy unready next rfl rfl rfl rfl rfl rfl rfl, rfl⟩
    | letGo resource =>
      -- Whatever is let go, the panic goes on afterwards.
      let calmed : State := { below with panic := none }
      have kept : (calmed.push [.resume message]).letGo resource = calmed.push [.resume message] :=
        letGo_of_trailing trailing
      have first : Winds router (below.push [.letGo resource]) (calmed.push [.resume message]) :=
        .advance steady busy unready (next.trans kept) rfl rfl rfl rfl rfl rfl rfl
      have second : Winds router (calmed.push [.resume message]) { calmed with panic := message } :=
        .advance first.steady (List.cons_ne_nil _ _) rfl (advance_push rfl _) rfl rfl rfl rfl rfl
          rfl rfl
      exact ⟨_, first.trans second, rfl⟩
    | _ => contradiction

/-- What is left of a step is done until the next step is taken, or a panic has passed through
everything. -/
theorem trailing_stops (steady : s.Steady router)
    (trailing : ∀ frame ∈ s.frames, frame.isTrailing s.targets = true) :
    ∃ t, Winds router s t ∧ t.Stops ∧ ∀ frame ∈ t.frames, frame ∈ s.frames := by
  generalize frames : s.frames = stack
  induction stack generalizing s with
  | nil => exact ⟨s, .still steady, .inr frames, frames ▸ fun _ => id⟩
  | cons frame rest ih =>
    cases ready : s.isReady with
    | true => exact ⟨s, .still steady, .inl ready, frames ▸ fun _ => id⟩
    | false =>
      rw [frames] at trailing
      obtain ⟨first, others⟩ := List.forall_mem_cons.mp trailing
      obtain ⟨between, winds, left⟩ := trailing_winds steady frames first ready
      obtain ⟨t, further, stops, kept⟩ :=
        ih winds.steady (left ▸ winds.targets ▸ others) left
      refine ⟨t, winds.trans further, stops, fun frame member => ?_⟩
      exact List.mem_cons_of_mem _ (kept frame member)

/-! Steps and runs. -/

variable {settings : RouterSettings} {count : Nat} {step : Step} {deeds : List Deed}
  {episodes : List Episode} {episode : Episode}

/-- Between steps, a session with facades and the router that is used directly correspond. -/
structure Corresponds (router : Nat) (direct : Direct) (s : State) : Prop where
  steady : s.Steady router
  mirrors : s.Mirrors router direct
  trailing : ∀ frame ∈ s.frames, frame.isTrailing s.targets = true

/-- What is done directly in the place of a step does not depend on the work that waits. -/
theorem deeds_congr (s : State) (frames : List Frame) (step : Step) :
    State.deeds { s with frames := frames } step = s.deeds step := by
  let other : State := { s with frames := frames }
  have addressee (target : Target) : other.addressee? target = s.addressee? target := rfl
  cases step with
  | register target handle name plan rpcs =>
    have implementation : (other.introduceImplementation name plan).map (·.2) =
        (s.introduceImplementation name plan).map (·.2) := by
      cases plan with
      | none => simp only [introduceImplementation, Option.map_map, Function.comp_def, other]
      | some plan => rfl
    show other.deeds _ = _
    rw [deeds, deeds, implementation, addressee]
    rfl
  | listen target handle name plan =>
    have listener : (other.introduceListener name plan).map (·.2) =
        (s.introduceListener name plan).map (·.2) := by
      cases plan with
      | none => simp only [introduceListener, Option.map_map, Function.comp_def, other]
      | some plan => rfl
    show other.deeds _ = _
    rw [deeds, deeds, listener, addressee]
    rfl
  | _ => rfl

/-- A session of which only the facades, the targets and the log are others. -/
theorem Steady.congr (steady : s.Steady router) (targets : Targets) (facades : List Facade)
    (log : List Event) :
    Steady router { s with targets := targets, facades := facades, log := log } := by
  obtain ⟨known, passive, attentive, attends, settled, orderly⟩ := steady
  refine ⟨⟨⟨known.implementations, known.listeners⟩, ?_, ?_⟩, passive, attentive,
    ⟨attends.there, attends.staffed⟩, settled, orderly⟩
  · intro found member
    exact (known.routers found member).mono (Nat.le_refl _) (Nat.le_refl _)
  · intro frame member
    exact (known.frames frame member).mono (Nat.le_refl _) (Nat.le_refl _)

/-- A step that is taken comes to a pause, where what is done directly in its place has been
done. -/
theorem ComesTo.stops (comes : ComesTo router direct s u deeds)
    (trailing : ∀ frame ∈ s.frames, frame.isTrailing s.targets = true) :
    ∃ t, Proceeds u t ∧ t.Stops ∧ Corresponds router (direct.takeAll u.parties deeds) t ∧
      t.heard = u.heard ++ u.parties.hearings (direct.toldOfAll u.parties deeds) := by
  obtain ⟨between, serves, ⟨pushed, frames, left⟩, targets⟩ := comes
  have trailing : ∀ frame ∈ between.frames, frame.isTrailing between.targets = true := by
    intro frame member
    rw [frames] at member
    refine Frame.isTrailing_mono targets ?_
    exact (List.mem_append.mp member).elim (left frame) (trailing frame)
  obtain ⟨t, winds, stops, fewer⟩ := trailing_stops serves.relays.steady trailing
  refine ⟨t, serves.relays.proceeds.append winds.proceeds, stops, ⟨winds.steady,
    winds.mirrors serves.mirrors, fun frame member => ?_⟩, winds.heard.trans serves.relays.heard⟩
  rw [winds.targets]
  exact trailing frame (fewer frame member)

/-- Wherever a step pauses, what is done directly in its place has been done. -/
theorem ComesTo.corresponds (comes : ComesTo router direct s u deeds)
    (trailing : ∀ frame ∈ s.frames, frame.isTrailing s.targets = true) (pauses : Pauses u t) :
    Corresponds router (direct.takeAll u.parties deeds) t ∧
      t.heard = u.heard ++ u.parties.hearings (direct.toldOfAll u.parties deeds) := by
  obtain ⟨last, proceeds, stops, corresponds, heard⟩ := comes.stops trailing
  cases pauses with
  | ready path ready =>
    obtain rfl := path.eq_of_stops proceeds (.inl ready) stops
    exact ⟨corresponds, heard⟩
  | landed path rest panicked =>
    obtain rfl := path.eq_of_stops proceeds (.inr rest) stops
    have move : PassiveMove router _ _ _ := ⟨.land rest panicked, corresponds.steady.passive⟩
    refine ⟨⟨(move.steady corresponds.steady).1, corresponds.mirrors.same rfl rfl rfl rfl rfl, ?_⟩,
      heard⟩
    rw [rest]
    exact nofun

theorem ComesTo.pauses (comes : ComesTo router direct s u deeds)
    (trailing : ∀ frame ∈ s.frames, frame.isTrailing s.targets = true) : ∃ t, Pauses u t := by
  obtain ⟨t, proceeds, stops, -⟩ := comes.stops trailing
  cases panicked : t.panic with
  | none =>
    refine ⟨t, .ready proceeds ?_⟩
    rcases stops with ready | rest
    · exact ready
    · simp [isReady, panicked, rest]
  | some message =>
    rcases stops with ready | rest
    · simp [isReady, panicked] at ready
    · exact ⟨_, .landed proceeds rest panicked⟩

/-- An implementation that is being called takes its next step. -/
theorem advance_step {later : List Step} {below : List Frame}
    (top : s.frames = .script (step :: later) :: below) (calm : s.panic = none) : s.advance =
      State.take { s with frames := .report step.name :: .script later :: below } step := by
  rw [advance, top]
  dsimp only
  rw [calm]
  rfl

namespace Corresponds

theorem aiming (corresponds : Corresponds router direct s) (facade facade2 : Option Nat) :
    (s.aiming facade facade2).Mirrors router direct :=
  corresponds.mirrors.less rfl (fun _ => id) rfl rfl (fun _ _ inside _ => inside) fun _ => id

/-- What a step from outside comes to. -/
theorem outside (corresponds : Corresponds router direct s) (rest : s.frames = [])
    (calm : s.panic = none) (facade facade2 : Option Nat) (live : step.isLive = true)
    (passive : ((s.aiming facade facade2).take step).Passive) :
    ComesTo router direct (s.aiming facade facade2) ((s.aiming facade facade2).take step)
      ((s.aiming facade facade2).deeds step) := by
  have steady : (s.aiming facade facade2).Steady router := corresponds.steady.congr _ s.facades []
  have move : Move router (s.aiming facade facade2) [] ((s.aiming facade facade2).take step) :=
    .take (s := s.aiming facade facade2) rest calm step
  exact take_comesTo (PassiveMove.steady ⟨move, passive⟩ steady).1 calm
    (corresponds.aiming facade facade2) live

/-- What a step of an implementation that is being called comes to. -/
theorem within (corresponds : Corresponds router direct s) {later : List Step}
    {below : List Frame} (top : s.frames = .script (step :: later) :: below)
    (calm : s.panic = none) (live : step.isLive = true) (passive : s.advance.Passive) :
    ComesTo router direct { s with frames := .report step.name :: .script later :: below }
      s.advance (s.deeds step) := by
  have next := advance_step top calm
  have move : PassiveMove router s _ s.advance := ⟨.work (by simp [top]), passive⟩
  have steady := (move.steady corresponds.steady).1
  rw [← deeds_congr s (.report step.name :: .script later :: below)]
  rw [next] at steady ⊢
  exact take_comesTo steady calm (corresponds.mirrors.same rfl rfl rfl rfl rfl) live

theorem trailing_within (corresponds : Corresponds router direct s) {later : List Step}
    {below : List Frame} (top : s.frames = .script (step :: later) :: below) :
    ∀ frame ∈ Frame.report step.name :: .script later :: below,
      frame.isTrailing s.targets = true := by
  have trailing := corresponds.trailing
  rw [top] at trailing
  simpa [Frame.isTrailing] using trailing

/-- A step is taken, and the router is used directly in its place. -/
theorem unfolds (corresponds : Corresponds router direct s) (unfolds : Unfolds s episodes t)
    (live : ∀ episode ∈ episodes, episode.step.isLive = true) :
    ∃ next exchanges, Direct.Step direct exchanges next ∧
      List.Forall₂ Episode.Matches episodes exchanges ∧ Corresponds router next t := by
  cases unfolds with
  | outside rest calm facade facade2 step passive pauses =>
    have live := live _ List.mem_cons_self
    obtain ⟨after, heard⟩ := (corresponds.outside rest calm facade facade2 live passive).corresponds
      (by simp [State.aiming, rest]) pauses
    have silent : ((s.aiming facade facade2).take step).heard = [] := by
      have known := (corresponds.steady.congr (s.aiming facade facade2).targets s.facades []).known
      have grows := take_grows known.toNamesKnown step
      exact congrArg (List.filterMap Event.hearing?) grows.notifications
    refine ⟨_, _, .exchange _ _, .cons ⟨rfl, rfl, ?_⟩ .nil, after⟩
    rw [silent, List.nil_append] at heard
    exact heard
  | @within _ step later below heard top calm passive pauses hears =>
    have live := live _ List.mem_cons_self
    obtain ⟨after, said⟩ := (corresponds.within top calm live passive).corresponds
      (corresponds.trailing_within top) pauses
    have silent : s.advance.heard = s.heard := by
      obtain ⟨waiting, rfl, -⟩ := eq_push_of_top top
      have known := corresponds.steady.known.below.1.toNamesKnown
      have grows : Grows waiting (waiting.enter (.script (step :: later))) := enter_grows known rfl
      rw [advance_push (s := waiting) calm]
      exact congrArg (List.filterMap Event.hearing?) grows.notifications
    refine ⟨_, _, .exchange _ _, .cons ⟨rfl, rfl, ?_⟩ .nil, after⟩
    rw [silent, hears] at said
    exact List.append_cancel_left said

end Corresponds

theorem eq_connecting_of_gathering {id : Nat} {facade : Facade}
    (there : (gathering settings count order).facade? id = some facade) :
    ∃ order, facade = .connecting (some 0) 0 order := by
  obtain ⟨id, -, rfl⟩ := List.mem_map.mp (List.mem_of_getElem? there)
  exact ⟨order id, rfl⟩

/-- Nothing has been registered through a facade yet. -/
theorem behind?_gathering (settings : RouterSettings) (count : Nat) (order : Nat → Order)
    (name : Release) : (gathering settings count order).behind? name = none := by
  cases name with
  | offer | subscription => rfl
  | facadeImplementation id number | facadeListener id number =>
    simp only [behind?, recordOf?]
    cases there : (gathering settings count order).facade? id with
    | none => rfl
    | some found =>
      obtain ⟨order, rfl⟩ := eq_connecting_of_gathering there
      rfl

theorem mirrors_gathering (settings : RouterSettings) (order : Nat → Order) (gathered : 0 < count) :
    (gathering settings count order).Mirrors 0 (.ofSettings settings) := by
  constructor
  case there => rfl
  case targets => simp [Targets.hasRouter, gathering, start, Wiring.single, Wiring.orderly]
  case booked =>
    intro id facade there
    obtain ⟨order, rfl⟩ := eq_connecting_of_gathering there
    exact ⟨rfl, rfl, rfl, Roster.numbered_empty, rfl, fun _ _ member => absurd member List.not_mem_nil,
      List.forall_mem_nil _⟩
  case facades =>
    have ne : count ≠ 0 := by omega
    simpa [gathering] using ne
  case behind =>
    intro name facade _
    rw [behind?_gathering]
    rfl
  case entered => exact List.forall_mem_nil _
  case handles => exact List.forall_mem_nil _
  case apart => rintro name _ i j ⟨⟩
  case fresh => exact fun _ _ => ⟨rfl, rfl⟩
  case withdraws => rintro name change ⟨⟩
  case names => exact List.forall_mem_nil _

theorem corresponds_gathering (settings : RouterSettings) (order : Nat → Order)
    (gathered : 0 < count) :
    Corresponds 0 (.ofSettings settings) (gathering settings count order) := by
  have steady := (start_steady settings .single (show 0 < 2 by decide)).congr
    (start settings .single).targets (gathering settings count order).facades []
  exact ⟨steady, mirrors_gathering settings order gathered, nofun⟩

/-- Whatever steps are taken, the router is used directly in their place. -/
theorem run_corresponds (gathered : 0 < count)
    (run : Run Unfolds (gathering settings count order) episodes s)
    (live : ∀ episode ∈ episodes, episode.step.isLive = true) :
    ∃ direct exchanges, Run Direct.Step (.ofSettings settings) exchanges direct ∧
      List.Forall₂ Episode.Matches episodes exchanges ∧ Corresponds 0 direct s := by
  induction run with
  | still => exact ⟨_, [], .still, .nil, corresponds_gathering settings order gathered⟩
  | onward _ unfolds ih =>
    obtain ⟨direct, exchanges, run, matched, corresponds⟩ :=
      ih fun episode member => live episode (List.mem_append_left _ member)
    obtain ⟨next, later, step, matched', corresponds'⟩ := corresponds.unfolds unfolds
      fun episode member => live episode (List.mem_append_right _ member)
    exact ⟨next, _, run.onward step, List.rel_append matched matched', corresponds'⟩

/-- What is open of the registrations of a facade is on its roster. -/
theorem Mirrors.mem_enrolled {id : Nat} {facade : Facade} {name : Release}
    (mirrors : s.Mirrors router direct) (there : s.facade? id = some facade)
    (through : name.facade? = some id) (opened : direct.registered name ≠ none) :
    name ∈ facade.enrolled id := by
  rw [mirrors.behind name id through] at opened
  apply List.mem_append.mpr
  cases name with
  | offer | subscription => contradiction
  | facadeImplementation other number =>
    obtain rfl : other = id := Option.some.inj through
    rw [behind?, recordOf?, there, Option.bind_some] at opened
    cases entered : facade.roster.record? number with
    | none => exact absurd (by rw [entered]; rfl) opened
    | some record =>
      have member := (facade.roster.perm_records_arranged facade.order).mem_iff.mpr
        (Roster.mem_of_record? entered)
      exact .inl (List.mem_map.mpr ⟨_, member, rfl⟩)
  | facadeListener other number =>
    obtain rfl : other = id := Option.some.inj through
    rw [behind?, there, Option.bind_some] at opened
    cases entered : facade.roster.listener? number with
    | none => exact absurd (by rw [entered]; rfl) opened
    | some underlying =>
      have member := (facade.roster.perm_listeners_arranged facade.order).mem_iff.mpr
        (Roster.mem_of_listener? entered)
      exact .inr (List.mem_map.mpr ⟨_, member, rfl⟩)

/-- What a facade makes of the router's answer is that answer relayed. -/
theorem relayed_facadeVerdict (id : Nat) (facade : Facade) (verdict : Verdict .current) :
    Relayed (.facade id facade) verdict (.returned .legacy (facadeVerdict verdict)) := by
  cases verdict with
  | ok reply => exact .reply id facade reply.value reply.diagnostics
  | error fault => exact .fault id facade fault

/-- A call through a facade is the router's answer relayed, and a call of the router its answer as it
is. -/
theorem Mirrors.invoke_eq {target : Target} {addressee : Addressee} {text : String}
    {type : SchemaPath} (mirrors : s.Mirrors router direct)
    (addressed : s.addressee? target = some addressee) (parsed : SchemaPath.parse text = .ok type)
    (input : Option Payload) :
    ∃ (called : State) (script : List Step) (answer : Answer),
      Relayed addressee (direct.answer s.parties type input) answer ∧
      s.invoke target text input =
        called.push [.script script, .answer answer, .letGo addressee.resource] ∧
      called.invocations = s.invocations ++ direct.invocations s.parties type input := by
  obtain ⟨called, script, result, invocations⟩ := callRouter_direct mirrors.there type input
  rw [State.invoke, withTarget_eq, addressed, parsed]
  cases addressee with
  | facade id found =>
    obtain ⟨-, there⟩ := addressee?_facade addressed
    refine ⟨called, script, _, relayed_facadeVerdict id found _, ?_, invocations⟩
    simp only [withRead, (mirrors.booked id found there).service, callService, result]
    rfl
  | router id found =>
    obtain ⟨rfl, -⟩ := mirrors.addressed addressed
    refine ⟨called, script, _, .router _ found _, ?_, invocations⟩
    simp only [withRead, result]
    rfl

/-- A session stands to the router that is used directly as it corresponds to it. -/
theorem Corresponds.standsFor (corresponds : Corresponds 0 direct s) : s.StandsFor direct := by
  have mirrors := corresponds.mirrors
  constructor
  case router => exact mirrors.there
  case enrolled =>
    intro id facade there name through opened
    exact mirrors.mem_enrolled there through opened
  case answers =>
    intro facade facade2 frames log target addressee text type input now addressed parsed
    have mirrors' : now.Mirrors 0 direct :=
      (corresponds.aiming facade facade2).same rfl rfl rfl rfl rfl
    exact mirrors'.invoke_eq addressed parsed input
  case outside =>
    intro facade facade2 step rest calm live passive
    exact (corresponds.outside rest calm facade facade2 live passive).pauses
      (by simp [State.aiming, rest])
  case within =>
    intro step later below top calm live passive
    exact (corresponds.within top calm live passive).pauses (corresponds.trailing_within top)

/-- A session of live facades over one router, with passive listeners, is one of the router used
directly in their place: step by step the same is told to listeners, in the same order, and every
call is answered as the router answers it. -/
theorem facades_stand_for_direct_use (gathered : 0 < count)
    (run : Run Unfolds (gathering settings count order) episodes s)
    (live : ∀ episode ∈ episodes, episode.step.isLive = true) :
    ∃ direct exchanges, Run Direct.Step (.ofSettings settings) exchanges direct ∧
      List.Forall₂ Episode.Matches episodes exchanges ∧ s.StandsFor direct := by
  obtain ⟨direct, exchanges, run, matched, corresponds⟩ := run_corresponds gathered run live
  exact ⟨direct, exchanges, run, matched, corresponds.standsFor⟩

/-! Sessions that are run with a pause after each step. -/

/-- Works until a step can be taken, at most so many pieces. -/
def pause : Nat → State → State
  | 0, s => s
  | fuel + 1, s => if s.isReady || s.frames.isEmpty then s else pause fuel s.advance

theorem pause_proceeds (fuel : Nat) (s : State) : Proceeds s (pause fuel s) := by
  induction fuel generalizing s with
  | zero => exact .still s
  | succ fuel ih =>
    rw [pause]
    split
    · exact .still s
    · rename_i goes
      simp only [Bool.or_eq_true, not_or, Bool.not_eq_true, List.isEmpty_eq_false_iff] at goes
      exact .onward goes.2 goes.1 (ih _)

/-- Takes a step from outside, where the session calls its first two facades by names. -/
def begin (s : State) (step : Step) : State := (s.aiming (some 0) (some 1)).take step

def passTime (s : State) (step : Step) : State := pause 60 (s.begin step)

/-- What becomes of a session while steps are taken from outside, one after the other. -/
def episodesOf (s : State) : List Step → List Episode
  | [] => []
  | step :: later =>
    ⟨s.aiming (some 0) (some 1), step, (s.begin step).parties, (s.passTime step).heard⟩ ::
      (s.passTime step).episodesOf later

/-- Whether each step comes to a pause, with nothing left to do and with passive listeners. -/
def pausesAfter (s : State) : List Step → Bool
  | [] => true
  | step :: later => s.frames.isEmpty && s.panic.isNone && decide (s.begin step).Passive &&
      (s.passTime step).isReady && (s.passTime step).pausesAfter later

theorem run_unfolds {steps : List Step} (pauses : s.pausesAfter steps = true) :
    Run Unfolds s (s.episodesOf steps) (steps.foldl passTime s) := by
  induction steps generalizing s with
  | nil => exact .still
  | cons step later ih =>
    simp only [pausesAfter, Bool.and_eq_true, List.isEmpty_iff, Option.isNone_iff_eq_none,
      decide_eq_true_eq] at pauses
    obtain ⟨⟨⟨⟨rest, calm⟩, passive⟩, ready⟩, later⟩ := pauses
    have first : Unfolds s _ (s.passTime step) :=
      .outside rest calm (some 0) (some 1) step passive (.ready (pause_proceeds 60 _) ready)
    exact (Run.single first).append (ih later)

/-- A listener of one facade hears of what is registered through the other, which is then closed. -/
def mixed : List Step :=
  [.listen .facade "heard" "hearer" (some ⟨some (.rejecting [5]), [], []⟩),
    .register .facade "own" "dear" (some ⟨5, .echo, []⟩) [⟨"a", none⟩],
    .register .facade2 "other" "foreign" (some ⟨5, .echo, []⟩) [⟨"b", none⟩],
    .register .router "straight" "plain" (some ⟨1, .echo, []⟩) [⟨"c", none⟩],
    .invoke .facade "b" none, .closeFacade .facade2]

def everywhere (name : QualifiedName) : Legacy.Identifier := .global (.create false [name])

theorem facades_stand_for_direct_use_mixed :
    let together := gathering .default 2 fun _ => .asEntered
    let episodes := together.episodesOf mixed
    let s := mixed.foldl passTime together
    (0 < 2 ∧ Run Unfolds together episodes s ∧
      ∀ episode ∈ episodes, episode.step.isLive = true) ∧
    episodes.map (·.heard) = [[], [], [.legacy "hearer" true [everywhere ⟨"b", by decide⟩]],
      [.legacy "hearer" true [everywhere ⟨"c", by decide⟩]], [],
      [.legacy "hearer" false [everywhere ⟨"b", by decide⟩]]] ∧
    ∃ direct exchanges, Run Direct.Step (.ofSettings .default) exchanges direct ∧
      List.Forall₂ Episode.Matches episodes exchanges ∧ s.StandsFor direct := by
  intro together episodes s
  have run : Run Unfolds together episodes s := run_unfolds (by decide +kernel)
  have live : ∀ episode ∈ episodes, episode.step.isLive = true := by decide +kernel
  exact ⟨⟨by decide, run, live⟩, by decide +kernel,
    facades_stand_for_direct_use (by decide) run live⟩

end State
end RpcRouting.Session
