import RpcRouting.Proofs.Router.Ticketing
import RpcRouting.Proofs.Session.Errands
/-! Registrations that are closed leave no trace. Whatever has been done to a router, directly or
through facades, nobody can tell it from one to which the same has been done but for what is about
some registrations that are closed in the end. Nor can anybody tell in which order a facade has
closed its registrations. -/
namespace RpcRouting.Session

/-- What a router answers a call, and whom it calls for that. -/
def Parties.answers (parties : Parties) (router : Router Server Watcher) (type : SchemaPath)
    (input : Option Payload) : Verdict .current × List Event :=
  let direct : Direct := ⟨router, fun _ => none⟩
  (direct.answer parties type input, direct.invocations parties type input)

variable {N : Type}

/-- Whoever calls, asks or listens cannot tell one router from the other. -/
structure SameToAll (first second : Followed N Server Watcher) : Prop where
  answers : ∀ (parties : Parties) type input,
    parties.answers second.router type input = parties.answers first.router type input
  isAvailable : ∀ rpc, second.router.isAvailable rpc = first.router.isAvailable rpc
  available : ∀ rpc, rpc ∈ second.router.available ↔ rpc ∈ first.router.available
  folded : ∀ name, second.folded? name = first.folded? name

theorem sameToAll_of_alike {first second : Followed N Server Watcher} (alike : first.Alike second) :
    SameToAll first second where
  answers parties type input := by
    simp only [Parties.answers, Direct.answer, Direct.invocations, alike.choose]
  isAvailable := alike.isAvailable
  available := alike.available
  folded := alike.folded

variable [DecidableEq N]

/-- Nothing tells when what is about registrations that are closed in the end has been left out
altogether, nor in which order registrations have been closed one after the other. -/
structure Traceless (settings : RouterSettings) (errands : List (Errand N Server Watcher)) :
    Prop where
  left_out : ∀ out : Finset N,
    (∀ name ∈ out, ((Followed.ofSettings settings).after errands).registered name = none) →
      SameToAll ((Followed.ofSettings settings).after errands)
        ((Followed.ofSettings settings).after (errands.filter (·.isBeside out)))
  reordered : ∀ earlier now names order later, errands = earlier ++ closings now names ++ later →
    order.Perm names → SameToAll ((Followed.ofSettings settings).after errands)
      ((Followed.ofSettings settings).after (earlier ++ closings now order ++ later))

theorem traceless_of_fitAll {settings : RouterSettings} {errands : List (Errand N Server Watcher)}
    {custom : Custom N Server Watcher}
    (lasting : ∀ name, ((Followed.ofSettings settings).after errands).registered name ≠ none →
      custom.lasts name)
    (fit : (Ledger.ofSettings settings).FitAll custom errands) : Traceless settings errands where
  left_out _ closed := sameToAll_of_alike (Followed.alike_without lasting fit closed)
  reordered := by
    rintro earlier now names order later rfl ordered
    exact sameToAll_of_alike (Followed.alike_reorder ordered lasting fit)

namespace State

variable {s : State} {target : Target} {id : Nat} {facade : Facade}

/-- To close a facade is to close what is on its roster. -/
theorem errands_closeFacade {episode : Episode} (closes : episode.step = .closeFacade target)
    (addressed : episode.before.addressee? target = some (.facade id facade)) :
    episode.errands = closings episode.parties.accepts (facade.enrolled id) := by
  rw [Episode.errands, closes, deeds, addressed]
  simp only [List.flatMap_map, Deed.errands, closings]
  exact List.flatMap_pure_eq_map ..

/-- Registrations that are closed leave no trace. This is so for a router in any session with
passive listeners, where whatever is done to the router is done by tickets, as long as whoever
listens there accepts whoever is offered there as for good. It is so for live facades over one
router, where what is done directly in the place of steps is done by the names that the session has
for it, as long as preferences and costs stay as they are; and there a facade is closed by closing
what is on its roster, in any order. -/
theorem closed_leave_no_trace :
    (∀ settings wiring router acts s accepts, router < 2 →
      Run (PassiveMove router) (start settings wiring) acts s →
      Constant ⟨(· ∈ (s.desk router).router.tickets), accepts⟩ acts →
      let errands := errandsOf accepts acts
      let fresh := Followed.ofSettings (configured settings router)
      let whole := fresh.after errands
      whole.router = (s.desk router).router.atRest ∧
      (∀ ticket, whole.registered ticket = none ↔ ticket ∉ (s.desk router).router.tickets) ∧
      (fresh.toldOf errands).flatMap Delivery.calls = called acts ++ (s.desk router).waiting ∧
      Traceless (configured settings router) errands) ∧
    ∀ settings count order episodes s accepts, 0 < count →
      Run Unfolds (gathering settings count order) episodes s →
      (∀ episode ∈ episodes, episode.step.isLive = true) →
      (∀ episode ∈ episodes, episode.parties.Fixed accepts) →
      let errands := episodes.flatMap Episode.errands
      let fresh := Followed.ofSettings settings
      let whole := fresh.after errands
      s.Mirrors 0 (.of whole) ∧
      (∃ exchanges, Run Direct.Step (.ofSettings settings) exchanges (.of whole) ∧
        List.Forall₂ Episode.Matches episodes exchanges ∧
        fresh.toldOf errands = exchanges.flatMap (·.told)) ∧
      (∀ episode ∈ episodes, ∀ target id facade, episode.step = .closeFacade target →
        episode.before.addressee? target = some (.facade id facade) →
          episode.errands = closings episode.parties.accepts (facade.enrolled id)) ∧
      Traceless settings errands := by
  constructor
  · intro settings wiring router acts s accepts there run constant errands fresh whole
    obtain ⟨-, calm⟩ := run_steady run (start_steady settings wiring there)
    obtain ⟨-, -, steps⟩ := steps_of_start there calm
    obtain ⟨fit, ticketed, told⟩ := Desk.turns_repeat (steps.mono .step) constant
    refine ⟨ticketed.router, fun ticket => ticketed.registered_eq_none_iff, ?_, ?_⟩
    · rw [told]
      exact (List.nil_append _).symm.trans (Desk.run_waiting steps)
    · refine traceless_of_fitAll (fun ticket opened => ?_) fit
      exact not_not.mp fun absent => opened (ticketed.registered_eq_none_iff.mpr absent)
  · intro settings count order episodes s accepts gathered run live fixed errands fresh whole
    let custom : Custom Release Server Watcher := ⟨fun _ => True, accepts⟩
    have done : DoneBy custom settings episodes s := run_doneBy gathered run live fixed
    exact ⟨done.corresponds.mirrors, done.exchanges, fun episode _ _ _ _ => errands_closeFacade,
      traceless_of_fitAll (fun _ _ => trivial) done.fit⟩

/-- One listener stays, while implementations come and go: directly, through its own facade, and
through a second one that leaves in the end. -/
def passing (leave : Target → Step) : List Step :=
  [.listen .facade "heard" "hearer" (some ⟨some (.rejecting [5]), [], []⟩),
    .register .facade2 "other" "foreign" (some ⟨7, .echo, []⟩) [⟨"a", none⟩],
    .register .router "straight" "plain" (some ⟨1, .echo, []⟩) [⟨"a", none⟩],
    .register .facade "own" "dear" (some ⟨5, .echo, []⟩) [⟨"b", none⟩],
    .register .router "spare" "last" (some ⟨9, .echo, []⟩) [⟨"a", none⟩],
    .close "straight", leave .facade2]

def couple : State := gathering .default 2 fun _ => .asEntered

/-- All through it the listener rejects the same cost, and nobody changes what a call costs. -/
theorem fixed_passing : ∀ episode ∈ couple.episodesOf (passing .closeFacade),
    episode.parties.Fixed ((passing .closeFacade).foldl passTime couple).parties.accepts := by
  intro episode member
  have preferences : (couple.episodesOf (passing .closeFacade)).map (·.parties.listeners) =
      List.replicate 7 [("hearer", some (.rejecting [5]))] := by cbv
  have last : ((passing .closeFacade).foldl passTime couple).parties.listeners =
      [("hearer", some (.rejecting [5]))] := by cbv
  have costs : ∀ episode ∈ couple.episodesOf (passing .closeFacade),
      episode.parties.implementations.map (·.cost) <+:
        ((passing .closeFacade).foldl passTime couple).parties.implementations.map (·.cost) := by
    decide +kernel
  have preference := List.mem_map_of_mem (f := (·.parties.listeners)) member
  rw [preferences] at preference
  refine Parties.fixed_of_prefix ?_ (costs episode member)
  rw [last, List.eq_of_mem_replicate preference]

theorem closed_leave_no_trace_passing :
    (let acts := (start .default .two).actsAfter 0 80 (passing .abandon)
      let s := (start .default .two).after 80 (passing .abandon)
      let errands := errandsOf s.parties.accepts acts
      let fresh := Followed.ofSettings (configured .default 0)
      let left := errands.filter (·.isBeside {.offer 2, .offer 3})
      (0 < 2 ∧ Run (PassiveMove 0) (start .default .two) acts s ∧
        Constant ⟨(· ∈ (s.desk 0).router.tickets), s.parties.accepts⟩ acts) ∧
      (errands.map (·.doing.name?) = [some (.subscription 1), some (.offer 2), some (.offer 3),
        some (.offer 4), some (.offer 5), some (.offer 3), some (.offer 2)]) ∧
      SameToAll (fresh.after errands) (fresh.after left)) ∧
    (let episodes := couple.episodesOf (passing .closeFacade)
      let s := (passing .closeFacade).foldl passTime couple
      let errands := episodes.flatMap Episode.errands
      let fresh := Followed.ofSettings .default
      let left := errands.filter (·.isBeside {.offer 0 3, .facadeImplementation 1 1})
      (0 < 2 ∧ Run Unfolds couple episodes s ∧
        (∀ episode ∈ episodes, episode.step.isLive = true) ∧
        ∀ episode ∈ episodes, episode.parties.Fixed s.parties.accepts) ∧
      (errands.map (·.doing.name?) = [some (.facadeListener 0 1),
        some (.facadeImplementation 1 1), some (.offer 0 3), some (.facadeImplementation 0 2),
        some (.offer 0 5), some (.offer 0 3), some (.facadeImplementation 1 1)]) ∧
      SameToAll (fresh.after errands) (fresh.after left)) := by
  constructor
  · intro acts s errands fresh left
    have run : Run (PassiveMove 0) (start .default .two) acts s :=
      run_passive_after (by decide +kernel)
    have constant : Constant ⟨(· ∈ (s.desk 0).router.tickets), s.parties.accepts⟩ acts := by
      decide +kernel
    refine ⟨⟨by decide, run, constant⟩, by decide +kernel, ?_⟩
    obtain ⟨-, closed, -, traceless⟩ :=
      closed_leave_no_trace.1 .default .two 0 acts s s.parties.accepts (by decide) run constant
    refine traceless.left_out _ fun ticket out => (closed ticket).mpr ?_
    revert ticket
    decide +kernel
  · intro episodes s errands fresh left
    have run : Run Unfolds couple episodes s := run_unfolds (by decide +kernel)
    have live : ∀ episode ∈ episodes, episode.step.isLive = true := by decide +kernel
    refine ⟨⟨by decide, run, live, fixed_passing⟩, by decide +kernel, ?_⟩
    obtain ⟨-, -, -, traceless⟩ := closed_leave_no_trace.2 .default 2 (fun _ => .asEntered)
      episodes s s.parties.accepts (by decide) run live fixed_passing
    exact traceless.left_out _ (by decide +kernel)

end State
end RpcRouting.Session
