import RpcRouting.Proofs.Router.Following
import RpcRouting.Proofs.Session.Simulating
/-! What is done directly in the place of a session with facades, as things that are done to a
router whose registrations go by names. Each name is given once, and whoever is registered is one of
the session's own, so that all of it fits a ledger as long as preferences and costs stay as they
are. -/
namespace RpcRouting.Session

/-- What a deed does to a router. What changes nothing is left out. -/
def Deed.errands (parties : Parties) : Deed → List (Errand Release Server Watcher)
  | .register name server rpcs =>
    if rpcs.isEmpty then []
    else [⟨parties.accepts, .register name server (parties.costOf server.implementation) rpcs⟩]
  | .listen name watcher => [⟨parties.accepts, .listen name watcher⟩]
  | .close name => [⟨parties.accepts, .close name⟩]
  | .updateSchema schema => [⟨parties.accepts, .updateSchema schema⟩]
  | .invoke _ _ => []

/-- What is done directly in the place of a step. -/
def Episode.errands (episode : Episode) : List (Errand Release Server Watcher) :=
  (episode.before.deeds episode.step).flatMap (·.errands episode.parties)

/-- The name by which a new registration goes. -/
def Deed.opens? : Deed → Option Release
  | .register name _ _ | .listen name _ => some name
  | .close _ | .updateSchema _ | .invoke _ _ => none

/-- Whoever is registered is one of the parties. -/
def Deed.KnownTo (parties : Parties) : Deed → Prop
  | .register _ server _ => server.implementation < parties.implementations.length
  | .listen _ watcher => watcher.listener < parties.listeners.length
  | .close _ | .updateSchema _ | .invoke _ _ => True

/-- Listeners accept implementations as they do for good. -/
def Parties.Fixed (accepts : Acceptance Server Watcher) (parties : Parties) : Prop :=
  ∀ watcher server, watcher.listener < parties.listeners.length →
    server.implementation < parties.implementations.length →
      parties.accepts watcher server = accepts watcher server

theorem Deed.knownTo_of_opens? {deed : Deed} (opens : deed.opens? = none) (parties : Parties) :
    deed.KnownTo parties := by
  cases deed with
  | register | listen => contradiction
  | close | updateSchema | invoke => trivial

/-- Preferences and costs that stay as they are make for fixed listeners. -/
theorem Parties.fixed_of_prefix {parties last : Parties}
    (listeners : parties.listeners <+: last.listeners)
    (costs : parties.implementations.map (·.cost) <+: last.implementations.map (·.cost)) :
    parties.Fixed last.accepts := by
  intro watcher server there serves
  obtain ⟨others, costs⟩ := costs
  obtain ⟨strangers, listeners⟩ := listeners
  have cost : parties.costOf server.implementation = last.costOf server.implementation := by
    rw [costOf, costOf, ← List.getElem?_map, ← List.getElem?_map, ← costs,
      List.getElem?_append_left (by simpa using serves)]
  have admits (listener : Nat) (other : Server) (inside : listener < parties.listeners.length)
      (same : other.implementation = server.implementation) :
      parties.admits listener other = last.admits listener other := by
    rw [Parties.admits, Parties.admits, ← listeners, List.getElem?_append_left inside, same, cost]
  cases watcher with
  | native listener => exact admits listener server there rfl
  | wrapped facade listener =>
    cases server with
    | native => rfl
    | adapted other id implementation =>
      by_cases own : other = facade
      · simpa [Parties.accepts, Server.original?, own] using
          admits listener (.native implementation) there rfl
      · simp [Parties.accepts, Server.original?, own]

/-! A router that is used directly, followed by its listeners. -/

/-- The router that is followed, and what takes back what is open with it. -/
def Direct.of (followed : Followed Release Server Watcher) : Direct :=
  ⟨followed.router, followed.registered⟩

section
variable {episodes : List Episode} {exchanges : List Exchange} {direct : Direct}

theorem of_after_errands (followed : Followed Release Server Watcher) (parties : Parties)
    (deed : Deed) : Direct.of (followed.after (deed.errands parties)) =
      (Direct.of followed).take parties deed ∧
    followed.toldOf (deed.errands parties) = (Direct.of followed).told parties deed := by
  cases deed with
  | register name server rpcs =>
    cases empty : rpcs.isEmpty with
    | true =>
      obtain ⟨take, told⟩ := (Direct.of followed).take_register_of_empty parties name server empty
      rw [take, told, Deed.errands, if_pos empty]
      exact ⟨rfl, rfl⟩
    | false =>
      obtain ⟨take, told⟩ := (Direct.of followed).take_register parties name server empty
      rw [take, told, Deed.errands, if_neg (by rw [empty]; exact nofun)]
      exact ⟨rfl, List.append_nil _⟩
  | listen name watcher => exact ⟨rfl, List.append_nil _⟩
  | close name =>
    refine ⟨?_, List.append_nil _⟩
    cases registered : followed.registered name with
    | none =>
      have closed : (Direct.of followed).registered name = none := registered
      obtain ⟨take, -⟩ := Direct.take_close_of_none parties closed
      rw [take]
      exact congrArg Direct.of (Followed.take_close_of_none parties.accepts registered)
    | some change =>
      simp only [Deed.errands, Followed.after, List.foldl_cons, List.foldl_nil, Followed.take,
        Followed.change?, registered, Followed.registeredAfter, Direct.of, Direct.take,
        Direct.change?, Direct.registeredAfter]
  | updateSchema | invoke => exact ⟨rfl, rfl⟩

theorem of_after_deeds (followed : Followed Release Server Watcher) (parties : Parties)
    (deeds : List Deed) : Direct.of (followed.after (deeds.flatMap (·.errands parties))) =
      (Direct.of followed).takeAll parties deeds ∧
    followed.toldOf (deeds.flatMap (·.errands parties)) =
      (Direct.of followed).toldOfAll parties deeds := by
  induction deeds generalizing followed with
  | nil => exact ⟨rfl, rfl⟩
  | cons deed later ih =>
    obtain ⟨take, told⟩ := of_after_errands followed parties deed
    obtain ⟨takes, tells⟩ := ih (followed.after (deed.errands parties))
    rw [List.flatMap_cons, Followed.after_append, Followed.toldOf_append, takes, tells, take, told]
    exact ⟨rfl, rfl⟩

/-- What is done directly in the place of steps is what becomes of the router, and of what is told.
-/
theorem of_after_episodes {followed : Followed Release Server Watcher}
    (step : Direct.Step (.of followed) exchanges direct)
    (matched : List.Forall₂ Episode.Matches episodes exchanges) :
    Direct.of (followed.after (episodes.flatMap Episode.errands)) = direct ∧
      followed.toldOf (episodes.flatMap Episode.errands) = exchanges.flatMap (·.told) := by
  cases step with
  | exchange parties deeds =>
    cases matched with
    | cons same none =>
      obtain ⟨rfl, rfl, -⟩ := same
      cases none
      rw [List.flatMap_singleton, List.flatMap_singleton]
      exact of_after_deeds followed _ _

end

/-! What fits a ledger. -/

/-- Whoever is registered is one of the parties. -/
structure KnownTo (parties : Parties) (ledger : Ledger Release Server Watcher) : Prop where
  offers : ∀ offer ∈ ledger.offers,
    offer.2.implementation.implementation < parties.implementations.length
  listeners : ∀ listener ∈ ledger.listeners, listener.2.listener < parties.listeners.length

namespace KnownTo

variable {parties : Parties} {ledger : Ledger Release Server Watcher}
  {custom : Custom Release Server Watcher} {deed : Deed} {deeds : List Deed}

theorem agrees (known : KnownTo parties ledger) (fixed : parties.Fixed custom.accepts) :
    ledger.Agrees custom parties.accepts := fun listener member _ offer inside =>
  fixed listener.2 offer.2.implementation (known.listeners listener member)
    (known.offers offer inside)

theorem after (known : KnownTo parties ledger) (new : deed.KnownTo parties) :
    KnownTo parties (ledger.after (deed.errands parties)) := by
  cases deed with
  | register name server rpcs =>
    simp only [Deed.errands]
    split
    · exact known
    · refine ⟨fun offer member => ?_, known.listeners⟩
      rcases List.mem_append.mp member with old | last
      · exact known.offers offer old
      · exact List.mem_singleton.mp last ▸ new
  | listen name watcher =>
    refine ⟨known.offers, fun listener member => ?_⟩
    rcases List.mem_append.mp member with old | last
    · exact known.listeners listener old
    · exact List.mem_singleton.mp last ▸ new
  | close name =>
    exact ⟨fun offer member => known.offers offer (List.mem_of_mem_filter member),
      fun listener member => known.listeners listener (List.mem_of_mem_filter member)⟩
  | updateSchema | invoke => exact ⟨known.offers, known.listeners⟩

/-- What is done fits, where a new registration has a new name. -/
theorem fits (known : KnownTo parties ledger) (fixed : parties.Fixed custom.accepts)
    (new : deed.KnownTo parties) (fresh : ∀ name, deed.opens? = some name → name ∉ ledger.names) :
    ledger.FitAll custom (deed.errands parties) := by
  have before := known.agrees fixed
  have after := (known.after new).agrees fixed
  cases deed with
  | register name server rpcs =>
    simp only [Deed.errands] at after ⊢
    split
    · trivial
    · rename_i filled
      rw [if_neg filled] at after
      exact ⟨⟨fresh, before, after⟩, trivial⟩
  | listen name watcher => exact ⟨⟨fresh, before, after⟩, trivial⟩
  | close name => exact ⟨⟨by rintro _ ⟨⟩, before, after⟩, trivial⟩
  | updateSchema schema => exact ⟨⟨by rintro _ ⟨⟩, before, after⟩, trivial⟩
  | invoke => trivial

theorem fitAll_of_quiet (known : KnownTo parties ledger) (fixed : parties.Fixed custom.accepts)
    (quiet : ∀ deed ∈ deeds, deed.opens? = none) :
    ledger.FitAll custom (deeds.flatMap (·.errands parties)) := by
  induction deeds generalizing ledger with
  | nil => trivial
  | cons deed later ih =>
    obtain ⟨first, others⟩ := List.forall_mem_cons.mp quiet
    have new := deed.knownTo_of_opens? first parties
    have fits := known.fits fixed new fun name opens => absurd (first.symm.trans opens) nofun
    exact Ledger.fitAll_append.mpr ⟨fits, ih (known.after new) others⟩

/-- What is done at one time fits, where only the first thing opens a registration. -/
theorem fitAll (known : KnownTo parties ledger) (fixed : parties.Fixed custom.accepts)
    (fresh : ∀ deed ∈ deeds.head?, deed.KnownTo parties ∧
      ∀ name, deed.opens? = some name → name ∉ ledger.names)
    (quiet : ∀ deed ∈ deeds.tail, deed.opens? = none) :
    ledger.FitAll custom (deeds.flatMap (·.errands parties)) := by
  cases deeds with
  | nil => trivial
  | cons deed later =>
    obtain ⟨new, fresh⟩ := fresh deed rfl
    exact Ledger.fitAll_append.mpr ⟨known.fits fixed new fresh,
      (known.after new).fitAll_of_quiet fixed quiet⟩

end KnownTo

namespace State

variable {s t u : State} {direct : Direct} {router : Nat} {step : Step}
  {episodes : List Episode} {custom : Custom Release Server Watcher}
  {ledger : Ledger Release Server Watcher} {followed : Followed Release Server Watcher}
  {settings : RouterSettings} {count : Nat}

/-! What a step opens. -/

theorem opens?_of_closing {handle : Nat} : ∀ deed ∈ s.closing handle, deed.opens? = none := by
  intro deed member
  obtain ⟨name, -, rfl⟩ := Option.map_eq_some_iff.mp (Option.mem_toList.mp member)
  rfl

theorem opens?_of_displacing {name : String} :
    ∀ deed ∈ s.displacing name, deed.opens? = none := by
  intro deed member
  obtain ⟨handle, -, inside⟩ := List.mem_flatMap.mp member
  exact opens?_of_closing deed inside

/-- The next number of a facade's roster is no name yet. -/
theorem Mirrors.fresh_facade (mirrors : s.Mirrors router direct) {id : Nat} {facade : Facade}
    (there : s.facade? id = some facade) :
    direct.registered (.facadeImplementation id facade.roster.nextNumber) = none ∧
      direct.registered (.facadeListener id facade.roster.nextNumber) = none := by
  have numbered := (mirrors.booked id facade there).numbered
  constructor
  · rw [mirrors.behind _ id rfl, behind?, recordOf?, there, Option.bind_some,
      Roster.record?_next numbered]
    rfl
  · rw [mirrors.behind _ id rfl, behind?, there, Option.bind_some, Roster.listener?_next numbered]
    rfl

/-- Of what is done at a time only the first thing opens a registration, by a new name and of
somebody who is there. -/
structure Opens (direct : Direct) (parties : Parties) (deeds : List Deed) : Prop where
  first : ∀ deed ∈ deeds.head?, deed.KnownTo parties ∧
    ∀ name, deed.opens? = some name → direct.registered name = none
  later : ∀ deed ∈ deeds.tail, deed.opens? = none

namespace Opens

variable {parties : Parties} {deeds : List Deed} {deed : Deed}

theorem quiet (none : ∀ deed ∈ deeds, deed.opens? = none) : Opens direct parties deeds := by
  refine ⟨fun deed first => ?_, fun deed later => none deed (List.mem_of_mem_tail later)⟩
  have opens := none deed (List.mem_of_mem_head? first)
  refine ⟨deed.knownTo_of_opens? opens _, fun name opened => ?_⟩
  exact absurd (opens.symm.trans opened) nofun

theorem nothing : Opens direct parties [] := quiet nofun

theorem displacing {name : Release} {handle : String} (known : deed.KnownTo parties)
    (opens : deed.opens? = some name) (fresh : direct.registered name = none) :
    Opens direct parties (deed :: s.displacing handle) := by
  refine ⟨?_, opens?_of_displacing⟩
  rintro first ⟨⟩
  refine ⟨known, fun other opened => ?_⟩
  rwa [← Option.some.inj (opens.symm.trans opened)]

end Opens

theorem register_opens (mirrors : s.Mirrors router direct) (known : s.NamesKnown)
    {target : Target} {handle name : String} {plan : Option (ImplementationPlan Step)}
    {rpcs : List IdentifierText} :
    Opens direct (s.take (.register target handle name plan rpcs)).parties
      (s.deeds (.register target handle name plan rpcs)) := by
  rw [deeds]
  cases introduces : s.introduceImplementation name plan with
  | none => exact .nothing
  | some introduction =>
    obtain ⟨introduced, implementation⟩ := introduction
    obtain ⟨-, there⟩ := introduceImplementation_grows known introduces
    have begun : s.take (.register target handle name plan rpcs) =
        introduced.register target handle implementation rpcs := by
      rw [State.take, introduces]
    have serves : implementation <
        (s.take (.register target handle name plan rpcs)).parties.implementations.length := by
      rw [begun]
      exact Nat.lt_of_lt_of_le there
        (Grows.register introduced target handle rpcs there).implementations
    dsimp only [Option.map_some]
    cases addressed : s.addressee? target with
    | none => exact .nothing
    | some addressee =>
      cases addressee with
      | facade id facade =>
        dsimp only
        split
        · exact .displacing serves rfl (mirrors.fresh_facade (addressee?_facade addressed).2).1
        · exact .nothing
      | router id found =>
        obtain ⟨rfl, rfl⟩ := mirrors.addressed addressed
        dsimp only
        split
        · exact .displacing serves rfl (mirrors.fresh _ (Nat.le_refl _)).1
        · exact .nothing

theorem listen_opens (mirrors : s.Mirrors router direct) (known : s.NamesKnown)
    {target : Target} {handle name : String} {plan : Option (ListenerPlan Step)} :
    Opens direct (s.take (.listen target handle name plan)).parties
      (s.deeds (.listen target handle name plan)) := by
  rw [deeds]
  cases introduces : s.introduceListener name plan with
  | none => exact .nothing
  | some introduction =>
    obtain ⟨introduced, listener⟩ := introduction
    obtain ⟨-, there⟩ := introduceListener_grows known introduces
    have begun : s.take (.listen target handle name plan) =
        introduced.listen target handle listener := by
      rw [State.take, introduces]
    have listens : listener <
        (s.take (.listen target handle name plan)).parties.listeners.length := by
      rw [begun, parties, List.length_map]
      exact Nat.lt_of_lt_of_le there (Grows.listen introduced target handle there).listeners
    dsimp only [Option.map_some]
    cases addressed : s.addressee? target with
    | none => exact .nothing
    | some addressee =>
      cases addressee with
      | facade id facade =>
        exact .displacing listens rfl (mirrors.fresh_facade (addressee?_facade addressed).2).2
      | router id found =>
        obtain ⟨rfl, rfl⟩ := mirrors.addressed addressed
        exact .displacing listens rfl (mirrors.fresh _ (Nat.le_refl _)).2

/-- Whatever step is taken, what it comes to opens at most one registration. -/
theorem deeds_opens (mirrors : s.Mirrors router direct) (known : s.NamesKnown) (step : Step) :
    Opens direct (s.take step).parties (s.deeds step) := by
  cases step with
  | register target handle name plan rpcs => exact register_opens mirrors known
  | listen target handle name plan => exact listen_opens mirrors known
  | close handle | forget handle => exact .quiet opens?_of_displacing
  | updateSchema target definitions =>
    rw [deeds]
    split
    · exact .quiet (by simp [Deed.opens?])
    · exact .nothing
  | invoke target type input =>
    rw [deeds]
    split
    · exact .quiet (by simp [Deed.opens?])
    · exact .nothing
  | closeFacade target =>
    rw [deeds]
    split
    · refine .quiet fun deed member => ?_
      obtain ⟨name, -, rfl⟩ := List.mem_map.mp member
      rfl
    · exact .nothing
  | _ => exact .nothing

/-- What the ledger has, the parties have. -/
theorem KnowsRouter.knownTo (known : s.KnowsRouter followed.router)
    (keeps : followed.Keeps custom ledger) : KnownTo s.parties ledger where
  offers entry member := by
    obtain ⟨offer, opened, -, same⟩ := exists_entry keeps.offers.flip member
    rw [same]
    exact known.offers offer opened
  listeners entry member := by
    obtain ⟨subscription, opened, -, same⟩ := exists_entry keeps.listeners.flip member
    rw [same, parties, List.length_map]
    exact known.subscriptions subscription opened

/-- What a step comes to fits the ledger. -/
theorem deeds_fit (mirrors : s.Mirrors router (.of followed)) (known : s.NamesKnown)
    (knows : s.KnowsRouter followed.router) (keeps : followed.Keeps custom ledger)
    (fixed : (s.take step).parties.Fixed custom.accepts) :
    ledger.FitAll custom ((s.deeds step).flatMap (·.errands (s.take step).parties)) := by
  have grows := take_grows known step
  have knows : (s.take step).KnowsRouter followed.router :=
    knows.mono grows.implementations grows.listeners
  have opens := deeds_opens mirrors known step
  refine (knows.knownTo keeps).fitAll fixed (fun deed first => ?_) opens.later
  refine ⟨(opens.first deed first).1, fun name opened member => ?_⟩
  exact keeps.registered_of_mem member ((opens.first deed first).2 name opened)

/-- Whatever step is taken, what is done directly in its place fits the ledger. -/
theorem Corresponds.fits (corresponds : Corresponds router (.of followed) s)
    (unfolds : Unfolds s episodes t) (keeps : followed.Keeps custom ledger)
    (fixed : ∀ episode ∈ episodes, episode.parties.Fixed custom.accepts) :
    ledger.FitAll custom (episodes.flatMap Episode.errands) := by
  obtain ⟨⟨implementations, listeners⟩, routers, -⟩ := corresponds.steady.known
  obtain ⟨offers, subscriptions, pending⟩ :=
    routers _ (List.mem_of_getElem? corresponds.mirrors.there)
  cases unfolds with
  | outside rest calm facade facade2 step passive pauses =>
    rw [List.flatMap_singleton]
    exact deeds_fit (corresponds.aiming facade facade2) ⟨implementations, listeners⟩
      ⟨offers, subscriptions, pending⟩ keeps (fixed _ List.mem_cons_self)
  | @within _ step later below heard top calm passive pauses hears =>
    rw [List.flatMap_singleton, Episode.errands, advance_step top calm, ← deeds_congr]
    refine deeds_fit (corresponds.mirrors.same rfl rfl rfl rfl rfl) ⟨implementations, listeners⟩
      ⟨offers, subscriptions, pending⟩ keeps ?_
    rw [← advance_step top calm]
    exact fixed _ List.mem_cons_self

/-- A session of facades, and the router that is used directly in its place by names. -/
structure DoneBy (custom : Custom Release Server Watcher) (settings : RouterSettings)
    (episodes : List Episode) (s : State) : Prop where
  fit : (Ledger.ofSettings settings).FitAll custom (episodes.flatMap Episode.errands)
  corresponds : Corresponds 0
    (.of ((Followed.ofSettings settings).after (episodes.flatMap Episode.errands))) s
  exchanges : ∃ exchanges, Run Direct.Step (.ofSettings settings) exchanges
      (.of ((Followed.ofSettings settings).after (episodes.flatMap Episode.errands))) ∧
    List.Forall₂ Episode.Matches episodes exchanges ∧
    (Followed.ofSettings settings).toldOf (episodes.flatMap Episode.errands) =
      exchanges.flatMap (·.told)

/-- Over a whole run, what is done directly in the place of steps makes of the router what has
become of it. -/
theorem run_doneBy (gathered : 0 < count)
    (run : Run Unfolds (gathering settings count order) episodes s)
    (live : ∀ episode ∈ episodes, episode.step.isLive = true)
    (fixed : ∀ episode ∈ episodes, episode.parties.Fixed custom.accepts) :
    DoneBy custom settings episodes s := by
  induction run with
  | still => exact ⟨trivial, corresponds_gathering settings order gathered, [], .still, .nil, rfl⟩
  | onward _ unfolds ih =>
    obtain ⟨fit, corresponds, exchanges, run, matched, told⟩ :=
      ih (fun episode member => live episode (List.mem_append_left _ member))
        fun episode member => fixed episode (List.mem_append_left _ member)
    have keeps := (Followed.Keeps.ofSettings custom settings).after fit
    have fits := corresponds.fits unfolds keeps
      fun episode member => fixed episode (List.mem_append_right _ member)
    obtain ⟨next, later, step, matched', corresponds'⟩ := corresponds.unfolds unfolds
      fun episode member => live episode (List.mem_append_right _ member)
    obtain ⟨direct, told'⟩ := of_after_episodes step matched'
    refine ⟨?_, ?_, _, ?_, List.rel_append matched matched', ?_⟩
    · rw [List.flatMap_append]
      exact Ledger.fitAll_append.mpr ⟨fit, fits⟩
    · rw [List.flatMap_append, Followed.after_append, direct]
      exact corresponds'
    · rw [List.flatMap_append, Followed.after_append, direct]
      exact run.onward step
    · rw [List.flatMap_append, Followed.toldOf_append, told, told', List.flatMap_append]

end State
end RpcRouting.Session
