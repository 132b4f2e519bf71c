import RpcRouting.Proofs.Session.Entering
/-! How a facade finds what has been registered with it by the adapter that a router knows. An adapter
that a router has been offered is entered in the roster for as long as the router has it, also while
it is being registered and while it is being released. -/
namespace RpcRouting.Session

/-- What has been registered with a facade, for a server that a router knows. -/
def Server.original? (facade : Nat) : Server → Option Nat
  | .native _ => none
  | .adapted other _ implementation => if other = facade then some implementation else none

/-- What a facade is given for an implementation. -/
def offered (router registration : Nat) : Handle := .opened () (.offer router registration)

namespace State

variable {s t : State} {deals now : List (Deal Handle)} {services : List (Option Nat)}
  {facade id implementation router registration : Nat} {found : Facade}
  {record : Record Nat Server Handle}

/-- Where the registration of an adapter with a router is: it is held by the entry of the adapter, or
it is about to be, or it is being released. -/
inductive Linked (s : State) (facade id router registration : Nat)
    (record : Record Nat Server Handle) : Prop
  | held (holds : record.underlying = some (offered router registration))
  | waits (waits : .complete facade id (offered router registration) ∈ s.frames)
  | closes (calm : s.panic = none) {rest : List Frame}
      (top : s.frames = .close (offered router registration) :: rest)
  | leaves (calm : s.panic = none) {rest : List Frame}
      (top : s.frames = .change router (.unregister registration) :: rest)

/-- Where the entry of an adapter is that a router has been offered. A panic may have kept the facade
from being given the registration; the entry is gone then when it has been given up. -/
inductive Seated (deals : List (Deal Handle)) (s : State) (found : Facade)
    (facade id implementation router registration : Nat) : Prop
  | entered {record : Record Nat Server Handle} (entry : (id, record) ∈ found.roster.records)
      (its : record.implementation = implementation)
      (linked : Linked s facade id router registration record ∨
        s.custody.Stranded deals facade id)
  | lost (stranded : s.custody.Stranded deals facade id) (given : GivenUp deals facade id)

/-- Every adapter of a facade that a router has is entered. -/
def Seats (deals : List (Deal Handle)) (s : State) (facade : Nat) : Prop :=
  ∀ found, s.facade? facade = some found → found.life = .alive → ∀ router delegate,
    s.router? router = some delegate → ∀ offer ∈ delegate.offers, ∀ id implementation,
      offer.implementation = .adapted facade id implementation →
        router = found.provider ∧
          Seated deals s found facade id implementation router offer.registration

/-- No implementation of a facade has been taken out of the roster while it is still being
registered. -/
def Whole (s : State) (facade : Nat) : Prop :=
  ∀ found, s.facade? facade = some found → ∀ id underlying,
    .complete facade id underlying ∈ s.frames → id ∈ found.roster.numbers

/-! Registrations that a panic has cut short. -/

theorem holding_of_facade? (there : s.facade? facade = some found) :
    s.custody.facades[facade]? = some found.holding := by
  rw [custody_facade?, there]
  rfl

theorem Observed.stranded (observed : Observed deals s) (dealing : Dealing s now t) {found' : Facade}
    (there : t.facade? facade = some found') (stranded : s.custody.Stranded deals facade id) :
    t.custody.Stranded (deals ++ now) facade id := by
  obtain ⟨services, tidy⟩ := observed.tidy
  obtain ⟨path, -⟩ := run_dealings (.single dealing) tidy observed.sound
  exact Custody.run_stranded path observed.sound observed.kept (holding_of_facade? there) stranded

/-- A panic that passes through the making of a registration leaves it stranded. -/
theorem stranded_of_panic {below : State} {underlying : Handle}
    (observed : Observed deals (below.push [.complete facade id underlying]))
    (dealing : Dealing (below.push [.complete facade id underlying]) now t)
    (panicked : below.panic ≠ none) (there : below.facade? facade = some found)
    (minor : Minor below t) : t.custody.Stranded (deals ++ now) facade id := by
  have kept := observed.kept (holding_of_facade? (s := below.push _) there)
  obtain ⟨began, unhanded⟩ := kept.making List.mem_cons_self
  refine ⟨List.mem_append_left _ began, fun making => ?_, fun given made => ?_⟩
  · obtain ⟨frame, member, duty⟩ := List.mem_filterMap.mp making
    obtain ⟨pushed, frames, plain⟩ := minor.frames
    rw [frames] at member
    rcases List.mem_append.mp member with new | old
    · have minor := plain frame new
      cases frame with
      | complete => cases minor
      | letGo resource => cases resource <;> cases duty
      | _ => cases duty
    · have again : .complete facade id ∈ below.custody.duties :=
        List.mem_filterMap.mpr ⟨frame, old, duty⟩
      cases (observed.sound.stacked : Stacked (.complete facade id :: below.custody.duties)) with
      | cons _ fresh _ => exact fresh.1 again
  · rcases List.mem_append.mp made with early | late
    · exact unhanded given early
    · exact panicked (top_of_handed (s := below.push _) (dealing.1 ▸ late)).1

/-! What becomes of one adapter by one move. -/

section
variable {below : State} {top : Option Frame} {found' : Facade}

/-- The registration of an adapter is handed to its entry. -/
theorem linked_complete {underlying : Handle} (numbered : found.roster.Numbered)
    (there : below.facade? facade = some found) (entry : (id, record) ∈ found.roster.records)
    (there' : (below.enter (.complete facade id underlying)).facade? facade = some found') :
    (id, { record with underlying := some underlying }) ∈ found'.roster.records := by
  simp only [enter, State.complete, there, Roster.complete,
    Roster.record?_of_mem numbered entry] at there'
  cases (facade?_modifyFacade there _).symm.trans there'
  exact mem_setUnderlying_self _ entry

/-- The registration of an adapter is taken from its entry to be closed next. -/
theorem linked_release {underlying : Handle} (numbered : found.roster.Numbered)
    (there : below.facade? facade = some found) (entry : (id, record) ∈ found.roster.records)
    (holds : record.underlying = some underlying)
    (there' : (below.enter (.release facade id)).facade? facade = some found') :
    (id, { record with underlying := none }) ∈ found'.roster.records ∧
      (below.enter (.release facade id)).panic = below.panic ∧
      (below.enter (.release facade id)).frames =
        [.close underlying, .finishRelease facade id] ++ below.frames := by
  have begins : below.enter (.release facade id) =
      (below.modifyRoster facade fun _ => found.roster.setUnderlying id none).push
        [.close underlying, .finishRelease facade id] := by
    simp only [enter, beginRelease, there, Option.bind_some, Roster.detach?,
      Roster.record?_of_mem numbered entry, Option.map_some, holds]
    rfl
  rw [begins] at there'
  cases (facade?_modifyFacade there _).symm.trans there'
  rw [begins]
  exact ⟨mem_setUnderlying_self _ entry, rfl, rfl⟩

variable (observed : Observed deals (below.push top.toList))
  (dealing : Dealing (below.push top.toList) now t)
  (there : below.facade? facade = some found) (there' : t.facade? facade = some found')
  (amends : Amends facade top found.roster found'.roster)
  (minor : below.panic ≠ none → Minor below t)
include observed dealing there there' amends minor

theorem seated_of_stranded (entry : (id, record) ∈ found.roster.records)
    (stranded : (below.push top.toList).custody.Stranded deals facade id) :
    Seated (deals ++ now) t found' facade id record.implementation router registration := by
  have stranded' := observed.stranded dealing there' stranded
  by_cases calm : below.panic = none
  · rcases amends.stays entry with ⟨new, inside, its⟩ | rfl
    · exact .entered inside its (.inr stranded')
    · have kept := observed.kept (holding_of_facade? (s := below.push _) there)
      refine .lost stranded' ?_
      rcases kept.releasing (.inr List.mem_cons_self) with closed | given
      · exact (observed.entering.closed facade id closed).imp
          (·.trans (List.sublist_append_left _ _)) (·.trans (List.sublist_append_left _ _))
      · exact .inr (given.trans (List.sublist_append_left _ _))
  · obtain ⟨old, same, -, -, records, -⟩ := (minor calm).entries there'
    cases there.symm.trans same
    exact .entered (records ▸ entry) rfl (.inr stranded')

theorem seated_of_held (entry : (id, record) ∈ found.roster.records)
    (holds : record.underlying = some (offered router registration)) :
    Seated (deals ++ now) t found' facade id record.implementation router registration := by
  have accounts := observed.sound.accounts (holding_of_facade? (s := below.push _) there)
  have filled (nothing : found.roster.HoldsNothing id) : False := by
    cases (nothing record entry).symm.trans holds
  by_cases calm : below.panic = none
  · rcases amends.kept entry with inside | ⟨underlying, rfl⟩ | rfl | rfl
    · exact .entered inside rfl (.inl (.held holds))
    · exact (filled (accounts.pending.complete List.mem_cons_self).2).elim
    · obtain rfl := Dealing.enters dealing calm
      obtain ⟨inside, quiet, next⟩ :=
        linked_release accounts.owned.numbered there entry holds there'
      exact .entered inside rfl (.inl (.closes (quiet.trans calm) next))
    · exact (filled (accounts.pending.finish List.mem_cons_self).2).elim
  · obtain ⟨old, same, -, -, records, -⟩ := (minor calm).entries there'
    cases there.symm.trans same
    exact .entered (records ▸ entry) rfl (.inl (.held holds))

theorem seated_of_waits (grows : ∃ pushed, t.frames = pushed ++ below.frames)
    (whole : t.Whole facade) (entry : (id, record) ∈ found.roster.records)
    (waits : .complete facade id (offered router registration) ∈ (below.push top.toList).frames) :
    Seated (deals ++ now) t found' facade id record.implementation router registration := by
  have accounts := observed.sound.accounts (holding_of_facade? (s := below.push _) there)
  have kept (panicked : below.panic ≠ none) : (id, record) ∈ found'.roster.records := by
    obtain ⟨old, same, -, -, records, -⟩ := (minor panicked).entries there'
    cases there.symm.trans same
    exact records ▸ entry
  rcases List.mem_append.mp waits with first | later
  · obtain rfl := Option.mem_toList.mp first
    by_cases calm : below.panic = none
    · obtain rfl := Dealing.enters dealing calm
      exact .entered (linked_complete accounts.owned.numbered there entry there') rfl
        (.inl (.held rfl))
    · exact .entered (kept calm) rfl
        (.inr (stranded_of_panic observed dealing calm there (minor calm)))
  · obtain ⟨pushed, frames⟩ := grows
    have waits : .complete facade id (offered router registration) ∈ t.frames :=
      frames ▸ List.mem_append_right _ later
    by_cases calm : below.panic = none
    · rcases amends.stays entry with ⟨new, inside, its⟩ | rfl
      · exact .entered inside its (.inl (.waits waits))
      · obtain rfl := Dealing.enters dealing calm
        have member := whole found' there' id _ waits
        cases (facade?_modifyFacade there _).symm.trans there'
        rw [Roster.numbers_remove] at member
        simp at member
    · exact .entered (kept calm) rfl (.inl (.waits waits))

end

/-- What is to be closed is released by a router that its facade keeps alive. -/
theorem seated_of_closes {below : State} {found' : Facade}
    (dealing : Dealing (below.push [.close (offered router registration)]) now t)
    (calm : below.panic = none) (there : below.facade? facade = some found)
    (alive : found.life = .alive) (provider : router = found.provider)
    (entry : (id, record) ∈ found.roster.records) (there' : t.facade? facade = some found') :
    Seated (deals ++ now) t found' facade id record.implementation router registration := by
  obtain rfl := Dealing.enters dealing calm
  have kept : below.routerAlive router = true := by
    simp only [routerAlive, Bool.or_eq_true, List.any_eq_true]
    refine .inl (.inr ⟨found, List.mem_of_getElem? there, ?_⟩)
    simp [Facade.uses, alive, provider]
  have next : below.enter (.close (offered router registration)) =
      below.push [.change router (.unregister registration)] := by
    simp only [enter, State.close, offered, Registration.opened, State.release, kept, if_true]
  rw [next] at there' ⊢
  cases there.symm.trans there'
  exact .entered entry rfl (.inl (.leaves calm rfl))

/-- A registration that is released leaves its router. -/
theorem not_offered_of_leaves {below : State} {after : Router Server Watcher}
    {offer : Offer Server}
    (dealing : Dealing (below.push [.change router (.unregister registration)]) now t)
    (calm : below.panic = none) (known : t.router? router = some after)
    (member : offer ∈ after.offers) : offer.registration ≠ registration := by
  obtain rfl := Dealing.enters dealing calm
  obtain ⟨before, -, same⟩ := router?_of_change known
  rw [same, if_pos rfl] at member
  simpa using (List.mem_filter.mp member).2

theorem top_of_frames {below : State} {top : Option Frame} {frame : Frame} {rest : List Frame}
    (idle : top = none → below.frames = [])
    (same : (below.push top.toList).frames = frame :: rest) : top = some frame := by
  cases top with
  | none => cases (idle rfl).symm.trans same
  | some first => exact congrArg some (List.cons.inj same).1

/-- The adapters that routers have been offered stay entered for as long as they are offered. -/
theorem Seats.onward (seats : Seats deals s facade) (observed : Observed deals s)
    (dealing : Dealing s now t) (whole : t.Whole facade) : Seats (deals ++ now) t facade := by
  intro found' there' alive' router delegate' known' offer member id implementation adapter
  obtain ⟨services, tidy⟩ := observed.tidy
  obtain ⟨acts, move⟩ := Dealing.move dealing router
  obtain ⟨below, top, rfl, idle, effect, panicked⟩ := Move.effect move tidy.secure
  have minor : below.panic ≠ none → Minor below t := panicked
  obtain ⟨found, there, provider, alive, amends⟩ := effect.facade? there'
  obtain ⟨delegate, known, offers⟩ := effect.router? known'
  obtain ⟨pushed, frames, -⟩ := effect.frames
  rcases offers offer member with old | ⟨fresh, cost, rpcs, rfl⟩
  · obtain ⟨routed, seated⟩ :=
      seats found there (alive alive') router delegate known offer old id implementation adapter
    refine ⟨routed.trans provider.symm, ?_⟩
    cases seated with
    | lost stranded given =>
      exact .lost (observed.stranded dealing there' stranded) (given.imp
        (·.trans (List.sublist_append_left _ _)) (·.trans (List.sublist_append_left _ _)))
    | @entered record entry its linked =>
      subst its
      rcases linked with (holds | waits | ⟨calm, first⟩ | ⟨calm, first⟩) | stranded
      · exact seated_of_held observed dealing there there' amends minor entry holds
      · exact seated_of_waits observed dealing there there' amends minor ⟨pushed, frames⟩ whole
          entry waits
      · obtain rfl := top_of_frames idle first
        exact seated_of_closes dealing calm there (alive alive') routed entry there'
      · obtain rfl := top_of_frames idle first
        exact absurd rfl (not_offered_of_leaves dealing calm known' member)
      · exact seated_of_stranded observed dealing there there' amends minor entry stranded
  · -- The adapter is offered now: its entry was made before, and waits for the registration.
    obtain ⟨home, record, there₂, provided, entry, its, given⟩ :=
      observed.entering.offers router facade id implementation cost rpcs below.frames
        (by rw [← adapter]; rfl)
    cases there.symm.trans there₂
    have entry' := (amends.kept entry).resolve_right (by simp)
    refine ⟨provided.symm.trans provider.symm, .entered entry' its (.inl (.waits ?_))⟩
    rw [frames, fresh]
    exact List.mem_append_right _ (given delegate known)

theorem start_seats (settings : RouterSettings) (wiring : Wiring) (facade : Nat) :
    Seats [] (start settings wiring) facade := by
  intro found _ _ router delegate known offer member
  have empty : delegate.offers = [] := by
    have inside := List.mem_of_getElem? known
    simp only [start, List.mem_cons, List.not_mem_nil, or_false] at inside
    rcases inside with rfl | rfl <;> rfl
  rw [empty] at member
  cases member

/-! Finding. -/

/-- A piece of a session's work that takes no implementation of a facade out of its roster while it
is still being registered. -/
def WholeDealing (facade : Nat) (s : State) (deals : List (Deal Handle)) (t : State) : Prop :=
  Dealing s deals t ∧ t.Whole facade

theorem run_seats (run : Run (WholeDealing facade) s now t) (observed : Observed deals s)
    (seats : Seats deals s facade) : Seats (deals ++ now) t facade := by
  induction run with
  | still => exact (List.append_nil deals).symm ▸ seats
  | onward path dealing ih =>
    exact List.append_assoc .. ▸
      ih.onward (observed.run (path.mono And.left)) dealing.1 dealing.2

/-! Runs without a panic. -/

/-- A registration is made until it is handed over. -/
theorem making_or_handed (dealing : Dealing s now t) (calm : s.panic = none)
    (secure : s.Secure services) (making : .complete facade id ∈ s.custody.duties) :
    .complete facade id ∈ t.custody.duties ∨
      ∃ underlying, .handed facade id underlying ∈ now := by
  obtain ⟨acts, move⟩ := Dealing.move dealing 0
  obtain ⟨below, top, rfl, -, effect, -⟩ := Move.effect move secure
  obtain ⟨pushed, frames, -⟩ := effect.frames
  obtain ⟨frame, member, duty⟩ := List.mem_filterMap.mp making
  rcases List.mem_append.mp member with first | later
  · obtain rfl := Option.mem_toList.mp first
    cases frame with
    | complete other number underlying =>
      cases duty
      refine .inr ⟨underlying, dealing.1 ▸ List.mem_append_left _ ?_⟩
      simp [passes, push, deals, show below.panic = none from calm]
    | letGo resource => cases resource <;> cases duty
    | _ => cases duty
  · exact .inl (List.mem_filterMap.mpr ⟨frame, frames ▸ List.mem_append_right _ later, duty⟩)

/-- Without a panic every registration that begins is completed, and every release too. -/
theorem calm_completes {settings : RouterSettings} {wiring : Wiring}
    (run : Run CalmDealing (start settings wiring) deals s) :
    ∀ facade id, .cut facade id ∉ deals ∧ ¬ s.custody.Stranded deals facade id := by
  induction run with
  | still => exact fun facade id => ⟨nofun, fun stranded => nomatch stranded.began⟩
  | @onward passed between now t path dealing ih =>
    obtain ⟨dealing, calm⟩ := dealing
    obtain ⟨⟨services, tidy⟩, -⟩ := (start_observed settings wiring).run (path.mono And.left)
    intro facade id
    obtain ⟨uncut, unstranded⟩ := ih facade id
    refine ⟨fun cut => ?_, fun ⟨began, unmade, unhanded⟩ => ?_⟩
    · rcases List.mem_append.mp cut with early | late
      · exact uncut early
      · exact panic_of_cut (dealing.1 ▸ late) calm
    · rcases List.mem_append.mp began with early | late
      · refine unstranded ⟨early, fun making => ?_,
          fun underlying given => unhanded underlying (List.mem_append_left _ given)⟩
        rcases making_or_handed dealing calm tidy.secure making with still | ⟨underlying, given⟩
        · exact unmade still
        · exact unhanded underlying (List.mem_append_right _ given)
      · exact unmade (making_of_began (dealing.1 ▸ late))

/-! What a facade finds. -/

/-- How the listeners of a facade judge a server: by what has been registered with the facade, which
they are asked about; and without it they accept the server and are not asked. -/
structure Judges (s : State) (facade : Nat) (server : Server) (original : Option Nat) : Prop where
  registered : s.registered? facade server = original
  accepts : ∀ listener, s.accepts (.wrapped facade listener) server =
    original.all fun implementation => s.listenerAccepts listener (.native implementation)
  asks : ∀ (t : State) listener, t.facades = s.facades →
    t.consult (.wrapped facade listener, server) = if original.isSome then t.ask listener
      else t.note .trace "implementation not registered through the facade; accepting" []

theorem judges_of_registered? {server : Server} {original : Option Nat}
    (registered : s.registered? facade server = original) :
    Judges s facade server original := by
  subst registered
  refine ⟨rfl, fun listener => ?_, fun t listener same => ?_⟩
  · simp only [State.accepts]
    cases s.registered? facade server <;> rfl
  · have registered : t.registered? facade server = s.registered? facade server := by
      simp only [State.registered?, State.facade?, same]
    simp only [State.consult, registered]
    cases s.registered? facade server <;> rfl

/-- What has not been registered with a facade is foreign to it. -/
theorem Observed.foreign {server : Server} (observed : Observed deals s)
    (there : s.facade? facade = some found) (foreign : server.original? facade = none) :
    s.registered? facade server = none := by
  have missing : server ∉ found.roster.adapters := by
    intro member
    obtain ⟨⟨number, record⟩, entry, rfl⟩ := List.mem_map.mp member
    have named : record.adapter = _ := observed.entering.named there entry
    simp [named, Server.original?] at foreign
  have none := (observed.entering.paired there).implementation?_eq_none missing
  simp only [State.registered?, there, none, ite_self]

theorem Observed.finds (observed : Observed deals s) (there : s.facade? facade = some found)
    (alive : found.life = .alive) (entry : (id, record) ∈ found.roster.records) :
    s.registered? facade (.adapted facade id record.implementation) =
      some record.implementation := by
  have numbered : found.roster.Numbered :=
    (observed.sound.accounts (holding_of_facade? there)).owned.numbered
  have finds := (observed.entering.paired there).implementation? numbered
    (observed.entering.apart there numbered) entry
  rw [observed.entering.named there entry] at finds
  simp [State.registered?, there, alive, finds]

/-- A panic has kept the facade of an adapter from being given its registration, and the facade has
been closed since. -/
def Abandoned (deals : List (Deal Handle)) (s : State) (facade : Nat) : Server → Prop
  | .native _ => False
  | .adapted other id _ =>
    other = facade ∧ s.custody.Stranded deals facade id ∧ GivenUp deals facade id

/-- A facade tells apart what has been registered with it and what has not. -/
theorem Observed.judges {server : Server} (observed : Observed deals s)
    (there : s.facade? facade = some found) (alive : found.life = .alive)
    (own : ∀ id implementation, server = .adapted facade id implementation →
      (∃ record, (id, record) ∈ found.roster.records ∧ record.implementation = implementation) ∨
        s.custody.Stranded deals facade id ∧ GivenUp deals facade id) :
    Judges s facade server (server.original? facade) ∨ Abandoned deals s facade server := by
  cases original : server.original? facade with
  | none => exact .inl (judges_of_registered? (observed.foreign there original))
  | some implementation =>
    cases server with
    | native => cases original
    | adapted other id its =>
      obtain ⟨rfl, rfl⟩ : other = facade ∧ its = implementation := by
        simpa [Server.original?] using original
      rcases own id its rfl with ⟨record, entry, rfl⟩ | lost
      · exact .inl (judges_of_registered? (observed.finds there alive entry))
      · exact .inr ⟨rfl, lost⟩

/-- Whom a change asks about what, before it is published and as it is. -/
def asked (s : State) (delegate : Router Server Watcher) (change : Change Server Watcher) :
    List (Watcher × Server) :=
  delegate.consultationsFor change ++ (delegate.apply s.accepts change).consultations

/-- Listeners are asked about what a router has been offered, or is offered now. -/
theorem mem_asked {delegate : Router Server Watcher} {change : Change Server Watcher}
    {watcher : Watcher} {server : Server} (member : (watcher, server) ∈ s.asked delegate change) :
    (∃ offer ∈ delegate.offers, offer.implementation = server) ∨
      ∃ cost rpcs, change = .register server cost rpcs := by
  rcases List.mem_append.mp member with before | after
  · cases change with
    | listen listener =>
      simp only [Router.consultationsFor] at before
      split at before
      · cases before
      · obtain ⟨offer, inside, same⟩ := List.mem_map.mp before
        exact .inl ⟨offer, inside, (Prod.mk.inj same).2⟩
    | register | unregister | unlisten => cases before
  · obtain ⟨subscription, -, seen⟩ := List.mem_flatMap.mp after
    obtain ⟨offer, inside, same⟩ := List.mem_map.mp seen
    obtain rfl := (Prod.mk.inj same).2
    rw [Router.offers_apply] at inside
    cases change with
    | register server cost rpcs =>
      rcases List.mem_append.mp inside with old | new
      · exact .inl ⟨offer, old, rfl⟩
      · cases List.mem_singleton.mp new
        exact .inr ⟨cost, rpcs, rfl⟩
    | unregister => exact .inl ⟨offer, List.mem_of_mem_filter inside, rfl⟩
    | listen | unlisten => exact .inl ⟨offer, inside, rfl⟩

theorem mem_asked_of_register {delegate : Router Server Watcher}
    {subscription : Subscription Watcher} (server : Server) (cost : Nat)
    (rpcs : List Current.Identifier) (opened : subscription ∈ delegate.subscriptions) :
    (subscription.listener, server) ∈ s.asked delegate (.register server cost rpcs) := by
  let change : Change Server Watcher := .register server cost rpcs
  have kept := List.mem_map_of_mem (f := fun other : Subscription Watcher =>
    other.refresh ((delegate.amend s.accepts change).visible s.accepts other.listener)) opened
  refine List.mem_append_right _ (List.mem_flatMap.mpr ⟨_, kept, ?_⟩)
  rw [listener_refresh]
  exact List.mem_map.mpr ⟨_, List.mem_append_right _ List.mem_cons_self, rfl⟩

theorem Seats.judges {delegate : Router Server Watcher} {server : Server}
    (seats : Seats deals s facade) (observed : Observed deals s)
    (there : s.facade? facade = some found) (alive : found.life = .alive)
    (known : s.router? router = some delegate)
    (inside : (∃ offer ∈ delegate.offers, offer.implementation = server) ∨
      ∃ cost rpcs rest, s.frames = .change router (.register server cost rpcs) :: rest) :
    Judges s facade server (server.original? facade) ∨ Abandoned deals s facade server := by
  refine observed.judges there alive fun id implementation same => ?_
  subst same
  rcases inside with ⟨offer, member, same⟩ | ⟨cost, rpcs, rest, top⟩
  · obtain ⟨-, seated⟩ := seats found there alive router delegate known offer member _ _ same
    cases seated with
    | entered entry its => exact .inl ⟨_, entry, its⟩
    | lost stranded given => exact .inr ⟨stranded, given⟩
  · obtain ⟨home, record, there', -, entry, its, -⟩ :=
      observed.entering.offers router facade id implementation cost rpcs rest top
    cases there.symm.trans there'
    exact .inl ⟨record, entry, its⟩

/-! All together. -/

/-- Over anything at all, and over routers in particular, the books of a facade balance while nothing
of it is under way; and over routers it finds what has been registered with it, and nothing else, by
whatever a router has been offered, also while registrations are being made and released. What a
panic has cut short is left out, and without one nothing is cut short. -/
theorem facade_finds_its_own (facade : Nat) :
    (∀ {I A U : Type} [DecidableEq A] [DecidableEq U] (count : Nat) (deals : List (Deal U))
      (custody : Custody I A U) (holding : Holding I A U),
      Run Custody.ApartStep (.fresh count) deals custody →
      custody.facades[facade]? = some holding → holding.life ≠ .gone → custody.Idle facade →
      (∀ id, .closed facade id ∈ deals → GivenUp deals facade id) →
        Balanced facade deals custody holding.roster) ∧
    ∀ (settings : RouterSettings) (wiring : Wiring) (deals : List (Deal Handle)) (s : State)
      (found : Facade), s.facade? facade = some found → found.life = .alive →
      (Run Dealing (start settings wiring) deals s → s.custody.Idle facade →
        Balanced facade deals s.custody found.roster) ∧
      (Run CalmDealing (start settings wiring) deals s → ∀ id,
        .cut facade id ∉ deals ∧ ¬ s.custody.Stranded deals facade id) ∧
      (Run (WholeDealing facade) (start settings wiring) deals s → ∀ router delegate,
        s.router? router = some delegate →
        (∀ offer ∈ delegate.offers, Judges s facade offer.implementation
            (offer.implementation.original? facade) ∨
          Abandoned deals s facade offer.implementation) ∧
        ∀ change rest watcher server, s.frames = .change router change :: rest →
          (watcher, server) ∈ s.asked delegate change →
            Judges s facade server (server.original? facade) ∨
              Abandoned deals s facade server) := by
  constructor
  · intro I A U _ _ count deals custody holding run there alive idle made
    have plain := run.mono And.left
    have sound := Custody.run_sound plain
    obtain ⟨apart, paired⟩ := Custody.fresh_apart (I := I) (A := A) (U := U) count
    obtain ⟨apart, paired⟩ := Custody.run_paired run (sound_fresh count) apart paired
    have inside := List.mem_of_getElem? there
    exact sound.balanced there
      (Custody.run_kept plain (sound_fresh count) Custody.kept_fresh there) alive idle
      (paired holding inside) (apart holding inside) made
  · intro settings wiring deals s found there alive
    have observed (run : Run Dealing (start settings wiring) deals s) : Observed deals s :=
      (start_observed settings wiring).run run
    refine ⟨fun run idle => ?_, fun run => calm_completes run facade,
      fun run router delegate known => ?_⟩
    · have observed := observed run
      have held := holding_of_facade? there
      have numbered : found.roster.Numbered := (observed.sound.accounts held).owned.numbered
      refine observed.sound.balanced held (observed.kept held) ?_ idle
        (observed.entering.paired there) (observed.entering.apart there numbered)
        (observed.entering.closed facade)
      show found.life ≠ .gone
      rw [alive]
      exact nofun
    · have observed := observed (run.mono And.left)
      have seats : Seats deals s facade :=
        run_seats run (start_observed settings wiring) (start_seats settings wiring facade)
      refine ⟨fun offer member => ?_, fun change rest watcher server top member => ?_⟩
      · exact seats.judges observed there alive known (.inl ⟨offer, member, rfl⟩)
      · refine seats.judges observed there alive known ((mem_asked member).imp_right ?_)
        rintro ⟨cost, rpcs, rfl⟩
        exact ⟨cost, rpcs, rest, top⟩

/-! A listener of a facade that registers a second implementation through it when it is told of the
first, while that is still being registered. -/

/-- Whether all that a facade is registering is in its roster. -/
def isWhole (s : State) (facade : Nat) : Bool :=
  s.frames.all fun
    | .complete other id _ => other != facade ||
        (s.facade? facade).all fun found => found.roster.numbers.contains id
    | _ => true

theorem whole_of_isWhole (whole : s.isWhole facade = true) : s.Whole facade := by
  intro found there id underlying member
  have entered := List.all_eq_true.mp whole _ member
  simpa [there] using entered

/-- Whether no panic comes up in so many pieces of work, and all that a facade registers stays in its
roster. -/
def wholeFor (facade : Nat) : Nat → State → Bool
  | 0, _ => true
  | fuel + 1, s => s.frames.isEmpty ||
      s.panic.isNone && s.advance.isWhole facade && wholeFor facade fuel s.advance

theorem run_whole_work {fuel : Nat} (whole : wholeFor facade fuel s = true) :
    Run (fun s deals t => CalmDealing s deals t ∧ t.Whole facade) s (dealingsFor fuel s)
      (State.run fuel s) := by
  refine run_of_work dealingsFor (wholeFor facade · · = true) (fun _ => rfl) (fun _ _ => rfl) ?_
    whole
  intro fuel s busy whole
  obtain ⟨⟨calm, here⟩, later⟩ : (s.panic = none ∧ s.advance.isWhole facade = true) ∧
      wholeFor facade fuel s.advance = true := by
    simpa [wholeFor, busy] using whole
  exact ⟨⟨⟨⟨rfl, 0, _, .work busy⟩, calm⟩, whole_of_isWhole here⟩, later⟩

def greeting : State := State.take (start .default .single)
  (.listen .facade "heard" "hearer" (some ⟨some ([9] : List Nat),
    [[.register .facade "second" "helper" (some ⟨9, .echo, []⟩) [⟨"b", none⟩]]], []⟩))

def introducing : State := State.take { State.run 40 greeting with log := [] }
  (.register .facade "served" "server" (some ⟨1, .echo, []⟩) [⟨"a", none⟩])

/-- The second implementation is being registered while the first still is. -/
def nesting : State := State.run 4 introducing

theorem run_introducing (fuel : Nat) (whole : wholeFor 0 fuel introducing = true) :
    Run (fun s deals t => CalmDealing s deals t ∧ t.Whole 0) (start .default .single)
      ([] ++ (start .default .single).dealings greeting ++ dealingsFor 40 greeting ++
        (State.run 40 greeting).dealings introducing ++ dealingsFor fuel introducing)
      (State.run fuel introducing) := by
  have greets : CalmDealing (start .default .single) _ greeting := calm_take rfl rfl _
  have greeted : Run (fun s deals t => CalmDealing s deals t ∧ t.Whole 0) greeting _
      (State.run 40 greeting) := run_whole_work (by decide +kernel)
  have introduces : CalmDealing (State.run 40 greeting) _ introducing :=
    calm_take (by cbv) (by cbv) _
  exact ((((Run.still).onward ⟨greets, whole_of_isWhole (by decide +kernel)⟩).append greeted).onward
    ⟨introduces, whole_of_isWhole (by decide +kernel)⟩).append (run_whole_work whole)

/-- A facade over something that hands out numbers, with an implementation whose registration is
complete. -/
def filled : Holding Nat Nat Nat := ⟨(numbering true).roster.setUnderlying 1 (some 7), .alive⟩

theorem run_filled :
    Run Custody.ApartStep (.fresh 1) [.began 0 1, .handed 0 1 7] ⟨[filled], []⟩ := by
  have apart (custody : Custody Nat Nat Nat)
      (single : custody.facades.map (·.roster.adapters) = [[6]]) : custody.Apart := by
    intro holding member
    have only := List.mem_map_of_mem (f := (·.roster.adapters)) member
    rw [single, List.mem_singleton] at only
    rw [only]
    exact List.nodup_singleton 6
  have registers : Custody.Step (.fresh 1) [.began 0 1] (numbered true [.complete 0 1, .call 0]) :=
    .turn 0 [] rfl rfl (Turn.register 5 6 : Turn 0 _ ⟨.empty, .alive⟩ _ _ _ _)
  have attach : Turn 0 [.call 0] (numbering true) [.complete 0 1] [.handed 0 1 7] filled [] :=
    .attach 7 (show (numbering true).roster.record? 1 = some ⟨5, 6, none⟩ from rfl)
  have attaches : Custody.Step (numbered true [.complete 0 1, .call 0]) [.handed 0 1 7]
      ⟨[filled], [.call 0]⟩ := .turn 0 [.complete 0 1] rfl rfl attach
  have back : Turn 0 [] filled [.call 0] [] filled [] := .back
  have returns : Custody.Step ⟨[filled], [.call 0]⟩ [] ⟨[filled], []⟩ :=
    .turn 0 [.call 0] rfl rfl back
  have first : Custody.ApartStep (.fresh 1) [.began 0 1] (numbered true [.complete 0 1, .call 0]) :=
    ⟨registers, apart _ rfl⟩
  exact ((Run.single first).onward ⟨attaches, apart _ rfl⟩).onward ⟨returns, apart _ rfl⟩

/-- What has been registered is found while it is being registered, and the listener is asked about
it; afterwards every entry holds its registration. -/
theorem facade_finds_its_own_nested :
    filled.roster.implementation? 6 = some 5 ∧
    nesting.registered? 0 (.adapted 0 2 0) = some 0 ∧ Judges nesting 0 (.adapted 0 3 1) (some 1) ∧
    ∀ found, (State.run 60 introducing).facade? 0 = some found → found.life = .alive →
      ∀ id record, (id, record) ∈ found.roster.records → record.underlying ≠ none := by
  obtain ⟨balances, finds⟩ := facade_finds_its_own 0
  have nests := run_introducing 4 (by decide +kernel)
  obtain ⟨found, there, alive⟩ := (Option.any_eq_true (·.life == .alive) (nesting.facade? 0)).mp
    (by decide +kernel)
  obtain ⟨-, calm, finds'⟩ := finds .default .single _ nesting found there (by simpa using alive)
  have stays (id implementation : Nat) :
      ¬ Abandoned _ nesting 0 (.adapted 0 id implementation) := fun abandoned =>
    (calm (nests.mono And.left) id).2 abandoned.2.1
  have known : (nesting.router? 0).any (fun delegate =>
      delegate.offers.any (·.implementation == .adapted 0 2 0) &&
        delegate.subscriptions.any (·.listener == .wrapped 0 0)) = true := by decide +kernel
  obtain ⟨delegate, known, inside⟩ := (Option.any_eq_true _ _).mp known
  obtain ⟨⟨offer, offered, own⟩, subscription, opened, wrapper⟩ :
      (∃ offer ∈ delegate.offers, offer.implementation = .adapted 0 2 0) ∧
        ∃ subscription ∈ delegate.subscriptions, subscription.listener = .wrapped 0 0 := by
    simpa using inside
  obtain ⟨offers, asks⟩ := finds' (nests.mono fun ⟨dealing, whole⟩ => ⟨dealing.1, whole⟩) 0 delegate
    known
  refine ⟨?_, ?_, ?_, ?_⟩
  · have balanced := balances 1 _ _ filled run_filled rfl nofun nofun (by simp)
    exact balanced.found 1 ⟨5, 6, some 7⟩ List.mem_cons_self
  · have judges := offers offer offered
    rw [own] at judges
    exact (judges.resolve_right (stays 2 0)).registered
  · obtain ⟨rpcs, rest, top⟩ : ∃ rpcs rest, nesting.frames =
        .change 0 (.register (.adapted 0 3 1) 9 rpcs) :: rest := ⟨_, _, by cbv⟩
    have member := mem_asked_of_register (s := nesting) (.adapted 0 3 1) 9 rpcs opened
    exact (asks _ _ _ _ top member).resolve_right (stays 3 1)
  · intro found there alive id record entry
    have ends := run_introducing 60 (by decide +kernel)
    obtain ⟨balances, calm, -⟩ := finds .default .single _ _ found there alive
    have rests : (State.run 60 introducing).custody.duties = [] := by cbv
    have balanced := balances (ends.mono fun step => step.1.1) (by simp [Custody.Idle, rests])
    obtain ⟨uncut, completed⟩ := calm (ends.mono And.left) id
    obtain ⟨underlying, holds, -⟩ := balanced.holds id record entry uncut completed
    rw [holds]
    exact Option.some_ne_none _

/-! A listener that panics when it is told of an implementation that is being registered through a
facade. -/

/-- The implementation is being registered. -/
def alarming : State := State.take { State.run 40 (State.take (start .default .single)
    (.listen .router "first" "panicker" (some ⟨none, [[.panic "boom"]], []⟩))) with log := [] }
  (.register .facade "served" "server" (some ⟨5, .echo, []⟩) [⟨"a", none⟩])

/-- The panic has gone through. -/
def alarmed : State :=
  { State.run 40 alarming with answer := .panicked "boom", panic := none }

/-- The facade has been closed. -/
def forsaken : State :=
  State.run 40 (State.take { alarmed with log := [] } (.closeFacade .facade))

theorem run_alarmed : ∃ deals, Run Dealing (start .default .single) deals alarmed := by
  let hearing : State := State.take (start .default .single)
    (.listen .router "first" "panicker" (some ⟨none, [[.panic "boom"]], []⟩))
  have hears : Dealing (start .default .single) _ hearing := ⟨rfl, 0, _, .take rfl rfl _⟩
  have registers : Dealing (State.run 40 hearing) _ alarming :=
    ⟨rfl, 0, _, .take (by cbv) (by cbv) _⟩
  have lands : Dealing (State.run 40 alarming) _ alarmed := ⟨rfl, 0, _, .land (by cbv) (by cbv)⟩
  exact ⟨_, ((((Run.single hears).append (run_dealing_work 40 hearing)).onward registers).append
    (run_dealing_work 40 alarming)).onward lands⟩

/-- A panic can leave an entry that holds no registration, and what has been registered stays with
the router when the facade is closed then. -/
theorem panic_leaves_entry_empty :
    (¬ ∀ settings wiring deals s facade found, Run Dealing (start settings wiring) deals s →
      s.frames = [] → s.panic = none → s.facade? facade = some found → found.life = .alive →
        ∀ id record, (id, record) ∈ found.roster.records → record.underlying ≠ none) ∧
    ∃ deals found delegate, Run Dealing (start .default .single) deals forsaken ∧
      forsaken.frames = [] ∧ forsaken.panic = none ∧ forsaken.facade? 0 = some found ∧
      found.life = .alive ∧ found.roster.records = [] ∧ forsaken.router? 0 = some delegate ∧
      ∃ offer ∈ delegate.offers, offer.implementation = .adapted 0 1 0 := by
  obtain ⟨deals, run⟩ := run_alarmed
  constructor
  · intro always
    have empty : (alarmed.facade? 0).any (fun found => found.life == .alive &&
        found.roster.records.any fun entry => entry.2.underlying.isNone) = true := by decide +kernel
    obtain ⟨found, there, facts⟩ := (Option.any_eq_true _ _).mp empty
    obtain ⟨alive, id, record, entry, none⟩ : found.life = .alive ∧ ∃ id record,
        (id, record) ∈ found.roster.records ∧ record.underlying = none := by
      simpa using facts
    exact always _ _ _ _ 0 found run (by cbv) rfl there alive id record entry none
  · have closes : Dealing alarmed _ (State.take { alarmed with log := [] } (.closeFacade .facade)) :=
      ⟨rfl, 0, _, .take (by cbv) rfl _⟩
    have dropped : (forsaken.facade? 0).any (fun found =>
        found.life == .alive && found.roster.records.isEmpty) = true := by decide +kernel
    have kept : (forsaken.router? 0).any (fun delegate =>
        delegate.offers.any (·.implementation == .adapted 0 1 0)) = true := by decide +kernel
    obtain ⟨found, there, facts⟩ := (Option.any_eq_true _ _).mp dropped
    obtain ⟨delegate, known, offered⟩ := (Option.any_eq_true _ _).mp kept
    obtain ⟨alive, gone⟩ : found.life = .alive ∧ found.roster.records = [] := by simpa using facts
    exact ⟨_, found, delegate, (run.onward closes).append (run_dealing_work 40 _), by cbv, by cbv,
      there, alive, gone, known, by simpa using offered⟩

end State
end RpcRouting.Session
