import RpcRouting.Proofs.Session.Serving
/-! Registrations that are made, through facades and directly. What is registered through a facade
is on its roster before listeners are told of it, and what stands behind it is attached
afterwards. -/
namespace RpcRouting

variable {I A U : Type} {roster : Roster I A U}

namespace Roster

theorem record?_next (numbered : roster.Numbered) : roster.record? roster.nextNumber = none :=
  record?_eq_none.mpr fun member => Nat.lt_irrefl _ (numbered.records_lt _ member)

theorem listener?_next (numbered : roster.Numbered) : roster.listener? roster.nextNumber = none :=
  listener?_eq_none.mpr fun member => Nat.lt_irrefl _ (numbered.listeners_lt _ member)

/-- Who is entered under the next number is found there. -/
theorem record?_entered (numbered : roster.Numbered) (implementation : I) (adapter : A)
    (number : Nat) :
    (roster.takeNumber.enter roster.nextNumber implementation adapter).record? number =
      if number = roster.nextNumber then some ⟨implementation, adapter, none⟩
      else roster.record? number := by
  have taken : roster.takeNumber.record? number = roster.record? number := rfl
  rw [record?_enter, taken]
  split
  · rename_i next
    rw [next, record?_next numbered]
    rfl
  · simp

theorem record?_attached (numbered : roster.Numbered) (implementation : I) (adapter : A)
    (underlying : U) (number : Nat) :
    ((roster.takeNumber.enter roster.nextNumber implementation adapter).setUnderlying
        roster.nextNumber (some underlying)).record? number =
      if number = roster.nextNumber then some ⟨implementation, adapter, some underlying⟩
      else roster.record? number := by
  rw [record?_setUnderlying, record?_entered numbered]
  split <;> simp

theorem listener?_entered (numbered : roster.Numbered) (underlying : U) (number : Nat) :
    (roster.takeNumber.enterListener roster.nextNumber underlying).listener? number =
      if number = roster.nextNumber then some underlying else roster.listener? number := by
  have taken : roster.takeNumber.listener? number = roster.listener? number := rfl
  rw [listener?_enterListener, taken]
  split
  · rename_i next
    rw [next, listener?_next numbered]
    rfl
  · simp

end Roster

namespace Session

variable {direct : Direct} {name : Release}

namespace Direct

variable (parties : Parties) (direct : Direct)

theorem take_register (name : Release) (server : Server) {rpcs : List Current.Identifier}
    (filled : rpcs.isEmpty = false) :
    direct.take parties (.register name server rpcs) =
      ⟨direct.router.settle parties.accepts
          (.register server (parties.costOf server.implementation) rpcs),
        Function.update direct.registered name (some (.unregister direct.router.nextNumber))⟩ ∧
      direct.told parties (.register name server rpcs) = direct.router.queuedBy parties.accepts
        (.register server (parties.costOf server.implementation) rpcs) := by
  simp [take, told, change?, registeredAfter, filled]

theorem take_register_of_empty (name : Release) (server : Server) {rpcs : List Current.Identifier}
    (empty : rpcs.isEmpty = true) :
    direct.take parties (.register name server rpcs) = direct ∧
      direct.told parties (.register name server rpcs) = [] := by
  simp [take, told, change?, empty]

end Direct

namespace State

variable {s t : State} {router id implementation listener : Nat} {found : Facade} {text : String}
  {rest : List Frame}

/-- What is new on the rosters leaves what can be taken back as it is. -/
theorem Mirrors.reentered (mirrors : s.Mirrors router direct)
    (there : t.router? router = s.router? router) (targets : t.targets = s.targets)
    (handles : t.handles = s.handles) (handleNames : t.handleNames = s.handleNames)
    (booked : t.Booked router) (facades : t.facades ≠ [])
    (behind : ∀ other facade, other.facade? = some facade →
      (t.behind? other).bind withdrawal? = (s.behind? other).bind withdrawal?)
    (entries : ∀ id number record, s.recordOf? id number = some record →
      t.recordOf? id number = some record) : t.Mirrors router direct := by
  constructor
  case there => exact there.trans mirrors.there
  case targets => exact targets ▸ mirrors.targets
  case booked => exact booked
  case facades => exact facades
  case behind =>
    intro name facade through
    rw [behind name facade through]
    exact mirrors.behind name facade through
  case entered =>
    intro offer member id number implementation adapter
    obtain ⟨record, entry, facts⟩ := mirrors.entered offer member id number implementation adapter
    exact ⟨record, entries id number record entry, facts⟩
  case handles => exact handles ▸ mirrors.handles
  case apart =>
    unfold releaseOf?
    rw [handles]
    exact mirrors.apart
  case fresh => exact mirrors.fresh
  case withdraws => exact mirrors.withdraws
  case names =>
    rw [handles, handleNames]
    exact mirrors.names

theorem Mirrors.beside (mirrors : s.Mirrors router direct) (beside : Beside s t)
    (there : t.router? router = s.router? router) : t.Mirrors router direct := by
  refine mirrors.less there (fun _ => beside.targets ▸ id) beside.facades
    (by rw [beside.handles]) (fun index handle inside _ => beside.handles ▸ inside) ?_
  rw [beside.handleNames]
  exact fun _ member => member

/-- An implementation is registered with the router as it is registered directly. -/
theorem registerWith_relays (name : Release) {server : Server} {rpcs : List Current.Identifier}
    (steady : (s.registerWith router server rpcs).Steady router) (calm : s.panic = none)
    (there : s.router? router = some direct.router) (booked : s.Booked router)
    (enters : ∀ offer ∈ direct.router.offers, s.Enters offer.implementation)
    (own : s.Enters server) :
    ∃ t, Relays router (s.parties.hearings (direct.told s.parties (.register name server rpcs)))
        (s.registerWith router server rpcs) t ∧ t.frames = s.frames ∧ Beside s t ∧
      t.router? router = some (direct.take s.parties (.register name server rpcs)).router := by
  unfold registerWith at steady ⊢
  cases empty : rpcs.isEmpty with
  | true =>
    obtain ⟨take, told⟩ := direct.take_register_of_empty s.parties name server empty
    rw [empty, if_pos rfl] at steady
    rw [if_pos rfl, take, told]
    exact ⟨_, .still steady, rfl, .work s s.routers s.frames _, there⟩
  | false =>
    obtain ⟨take, told⟩ := direct.take_register s.parties name server empty
    rw [empty, if_neg Bool.false_ne_true] at steady
    rw [if_neg Bool.false_ne_true, take, told]
    apply change_relays steady calm there booked
    intro offer member
    rcases List.mem_append.mp member with old | new
    · exact enters offer old
    · rw [List.mem_singleton.mp new]
      exact own

theorem registerWith_parties (router : Nat) (server : Server) (rpcs : List Current.Identifier) :
    (s.registerWith router server rpcs).parties = s.parties := by
  unfold registerWith
  split <;> rfl

/-! Registrations through a facade. -/

/-- An implementation has been entered, and what stands behind it attached. Without identifiers
nothing stands there. -/
theorem Mirrors.attached (mirrors : s.Mirrors router direct) (there : s.facade? id = some found)
    (rpcs : List Current.Identifier) :
    let number := found.roster.nextNumber
    let server : Server := .adapted id number implementation
    let deed : Deed := .register (.facadeImplementation id number) server rpcs
    t.router? router = some (direct.take s.parties deed).router → t.targets = s.targets →
    t.handles = s.handles → t.handleNames = s.handleNames →
    t.facades = (s.modifyRoster id fun _ =>
      (found.roster.takeNumber.enter number implementation server).setUnderlying number
        (some (s.offerHandle router rpcs))).facades →
    t.Mirrors router (direct.take s.parties deed) := by
  intro number server deed routed targets handles handleNames facades
  have booked := mirrors.booked id found there
  have booked' : t.Booked router := mirrors.booked.reroster there facades
    ((booked.enter implementation).attach fun underlying same =>
      Option.some.inj same ▸ routedTo_offerHandle s router rpcs)
  have handle : s.offerHandle router rpcs =
      if rpcs.isEmpty then .inert () else offered router direct.router.nextNumber := by
    rw [offerHandle, mirrors.there]
    rfl
  have record := Roster.record?_attached booked.numbered implementation server
    (s.offerHandle router rpcs)
  have new : s.recordOf? id number = none := by
    rw [recordOf?, there]
    exact Roster.record?_next booked.numbered
  have entries : ∀ other number record, s.recordOf? other number = some record →
      t.recordOf? other number = some record := by
    intro other entry before inside
    rw [recordOf?_reroster there facades, record]
    split
    · rename_i hit
      rw [if_neg]
      · rwa [hit, recordOf?, there] at inside
      · rintro rfl
        rw [hit, new] at inside
        contradiction
    · exact inside
  have behind : ∀ other, t.behind? other = if other = .facadeImplementation id number then
      some (s.offerHandle router rpcs) else s.behind? other := by
    apply behind?_reroster there facades
    · intro other
      rw [record]
      split <;> rfl
    · rfl
  cases empty : rpcs.isEmpty with
  | true =>
    obtain ⟨take, -⟩ :=
      direct.take_register_of_empty s.parties (.facadeImplementation id number) server empty
    rw [take] at routed ⊢
    refine mirrors.reentered (routed.trans mirrors.there.symm) targets handles handleNames booked'
      (facades_reroster there facades) ?_ entries
    intro other facade _
    rw [behind]
    split
    · rename_i same
      rw [same, handle, empty, behind?, new]
      rfl
    · rfl
  | false =>
    obtain ⟨take, -⟩ :=
      direct.take_register s.parties (.facadeImplementation id number) server empty
    rw [take] at routed ⊢
    rw [empty, if_neg Bool.false_ne_true] at handle
    refine mirrors.opened rfl trivial (.inr (.inr (Option.some_ne_none _))) routed targets handles
      handleNames booked' (facades_reroster there facades) ?_ entries ?_
    · intro other facade _
      rw [behind, handle]
      split <;> rfl
    · intro offer member
      rcases List.mem_append.mp member with old | new
      · exact .inl old
      · rw [List.mem_singleton.mp new]
        refine .inr fun other number' implementation' adapter => ?_
        obtain ⟨rfl, rfl, rfl⟩ := Server.adapted.inj adapter
        refine ⟨⟨implementation, server, some (s.offerHandle router rpcs)⟩, ?_, rfl,
          congrArg some handle⟩
        rw [recordOf?_reroster there facades, if_pos rfl, record, if_pos rfl]

theorem registerThrough_serves {rpcs : List Legacy.Identifier}
    (steady : (s.registerThrough id found text implementation rpcs).Steady router)
    (calm : s.panic = none) (mirrors : s.Mirrors router direct)
    (there : s.facade? id = some found) :
    ∃ t, Serves router direct
        (.register (.facadeImplementation id found.roster.nextNumber)
          (.adapted id found.roster.nextNumber implementation) (rpcs.map (·.toCurrent)) ::
            s.displacing text)
        (s.registerThrough id found text implementation rpcs) t ∧
      t.frames = [.answer (.registered false), .letGo (.facade id)] ++ s.frames ∧
      t.targets = s.targets := by
  have booked := mirrors.booked id found there
  let number := found.roster.nextNumber
  let server : Server := .adapted id number implementation
  let identifiers := rpcs.map (·.toCurrent)
  let underlying := s.offerHandle router identifiers
  let waiting : List Frame := .keep text (.opened () (.facadeImplementation id number))
    (.registered false) :: .letGo (.facade id) :: s.frames
  -- The adapter is entered before it is registered.
  let roster := found.roster.takeNumber.enter number implementation server
  let entered : State := State.note
    { s.modifyRoster id fun _ => roster with frames := .complete id number underlying :: waiting }
    .debug "registering legacy RPC implementation"
    [("registration", registrationText number), ("rpcs", toString identifiers.length)]
  have facades : entered.facades = (s.modifyRoster id fun _ => roster).facades := rfl
  have shape : s.registerThrough id found text implementation rpcs =
      entered.registerWith router server identifiers := by
    rw [registerThrough, booked.provider, modifyRoster_found there]
    rfl
  rw [shape] at steady ⊢
  have record : roster.record? number = some ⟨implementation, server, none⟩ :=
    (Roster.record?_entered booked.numbered ..).trans (if_pos rfl)
  have enters : ∀ offer ∈ direct.router.offers, entered.Enters offer.implementation := by
    apply mirrors.enters_reroster there facades
    intro other before inside
    refine ⟨before, (Roster.record?_entered booked.numbered ..).trans ?_, rfl⟩
    rw [if_neg]
    · exact inside
    · rintro rfl
      rw [Roster.record?_next booked.numbered] at inside
      contradiction
  have own : entered.Enters server := by
    intro other number' implementation' adapter
    obtain ⟨rfl, rfl, rfl⟩ := Server.adapted.inj adapter
    exact ⟨_, (recordOf?_reroster there facades id number).trans ((if_pos rfl).trans record), rfl⟩
  obtain ⟨between, first, frames, beside, settled⟩ :=
    registerWith_relays (.facadeImplementation id number) steady calm mirrors.there
      (mirrors.booked.reroster there facades (booked.enter implementation)) enters own
  -- What stands behind it is attached.
  let attached := roster.setUnderlying number (some underlying)
  let t : State := { between with frames := waiting }.modifyRoster id fun _ => attached
  have goes : State.complete { between with frames := waiting } id number underlying = t := by
    have there' : State.facade? { between with frames := waiting } id =
        some { found with roster := roster } :=
      (facade?_reroster there (t := { between with frames := waiting })
        (beside.facades.trans facades) id).trans (if_pos rfl)
    simp only [complete, there', Roster.complete, record]
    rfl
  have second : Relays router [] between t :=
    .quiet first.steady (beside.panic.trans calm) frames goes rfl rfl rfl rfl rfl rfl
  have mirrors' := mirrors.attached (t := t) there identifiers settled beside.targets beside.handles
    beside.handleNames (reroster_again (beside.facades.trans facades) fun _ => attached)
  have parties := registerWith_parties (s := entered) router server identifiers
  have third := Serves.single (parties ▸ first.on second) (parties ▸ mirrors')
  exact third.keep (beside.panic.trans calm) rfl beside.targets beside.handles beside.handleNames
    (by rintro _ ⟨⟩ through; contradiction) (by rintro _ ⟨⟩ through; contradiction)

/-- A listener has been entered, whom the router has told by then what is available. -/
theorem Mirrors.attachedListener (mirrors : s.Mirrors router direct)
    (there : s.facade? id = some found) :
    let number := found.roster.nextNumber
    let deed : Deed := .listen (.facadeListener id number) (.wrapped id listener)
    t.router? router = some (direct.take s.parties deed).router → t.targets = s.targets →
    t.handles = s.handles → t.handleNames = s.handleNames →
    t.facades = (s.modifyRoster id fun _ =>
      found.roster.takeNumber.enterListener number (s.subscriptionHandle router)).facades →
    t.Mirrors router (direct.take s.parties deed) := by
  intro number deed routed targets handles handleNames facades
  have booked := mirrors.booked id found there
  have handle : s.subscriptionHandle router =
      .opened () (.subscription router direct.router.nextNumber) := by
    rw [subscriptionHandle, mirrors.there]
  refine mirrors.opened rfl trivial (.inr (.inr (Option.some_ne_none _))) routed targets handles
    handleNames (mirrors.booked.reroster there facades
      (booked.enterListener (routedTo_subscriptionHandle s router)))
    (facades_reroster there facades) ?_ ?_ fun offer member => .inl member
  · intro other facade _
    rw [behind?_relisten there facades rfl (Roster.listener?_entered booked.numbered _), handle]
    split <;> rfl
  · intro other number' record inside
    rw [recordOf?_reroster there facades]
    split
    · rename_i hit
      rw [hit, recordOf?, there] at inside
      exact inside
    · exact inside

theorem listenThrough_serves (steady : (s.listenThrough id found text listener).Steady router)
    (calm : s.panic = none) (mirrors : s.Mirrors router direct)
    (there : s.facade? id = some found) :
    ∃ t, Serves router direct
        (.listen (.facadeListener id found.roster.nextNumber) (.wrapped id listener) ::
          s.displacing text)
        (s.listenThrough id found text listener) t ∧
      t.frames = [.answer (.listening false), .letGo (.facade id)] ++ s.frames ∧
      t.targets = s.targets := by
  have booked := mirrors.booked id found there
  let number := found.roster.nextNumber
  let underlying := s.subscriptionHandle router
  let waiting : List Frame := .keep text (.opened () (.facadeListener id number))
    (.listening false) :: .letGo (.facade id) :: s.frames
  let roster := found.roster.takeNumber
  let counted : State :=
    { s.modifyRoster id fun _ => roster with
      frames := .completeListener id number underlying :: waiting }
  have facades : counted.facades = (s.modifyRoster id fun _ => roster).facades := rfl
  have shape : s.listenThrough id found text listener =
      counted.push [.change router (.listen (.wrapped id listener))] := by
    rw [listenThrough, booked.service, modifyRoster_found there]
    rfl
  rw [shape] at steady ⊢
  have enters : ∀ offer ∈ direct.router.offers, counted.Enters offer.implementation :=
    mirrors.enters_reroster there facades fun _ record inside => ⟨record, inside, rfl⟩
  have numbered : Facade.Booked router id { found with roster := roster } :=
    booked.reroster booked.numbered.takeNumber booked.paired booked.adapters booked.routed
  obtain ⟨between, first, frames, beside, settled⟩ := change_relays steady calm mirrors.there
    (mirrors.booked.reroster there facades numbered) enters
  let t : State := State.completeListener { between with frames := waiting } id number underlying
  have second : Relays router [] between t :=
    .quiet first.steady (beside.panic.trans calm) frames rfl rfl rfl rfl rfl rfl rfl
  have mirrors' := mirrors.attachedListener (t := t) there settled beside.targets beside.handles
    beside.handleNames
    (reroster_again (beside.facades.trans facades) (·.enterListener number underlying))
  have third : Serves router direct [.listen (.facadeListener id number) (.wrapped id listener)]
      (counted.push [.change router (.listen (.wrapped id listener))]) t :=
    .single (first.on second) mirrors'
  exact third.keep (beside.panic.trans calm) rfl beside.targets beside.handles beside.handleNames
    (by rintro _ ⟨⟩ through; contradiction) (by rintro _ ⟨⟩ through; contradiction)

/-! Registrations with the router itself. -/

/-- A name with the router's next number is new. -/
theorem Mirrors.unused (mirrors : s.Mirrors router direct)
    (named : name = .offer router direct.router.nextNumber ∨
      name = .subscription router direct.router.nextNumber) :
    ∀ handle ∈ s.handles, handle.release ≠ some name := by
  intro handle member released
  obtain ⟨first, second⟩ := mirrors.fresh _ (Nat.le_refl _)
  have through : name.facade? = none := by rcases named with rfl | rfl <;> rfl
  have new : direct.registered name = none := by
    rcases named with rfl | rfl
    · exact first
    · exact second
  obtain ⟨-, known⟩ := mirrors.handles handle member name released through
  rw [new] at known
  rcases named with rfl | rfl <;> simp [withdrawal?, released] at known

/-- What is registered with the router itself leaves the facades alone. -/
theorem Mirrors.openedDirectly {change taken : Change Server Watcher}
    (mirrors : s.Mirrors router direct) (beside : Beside s t)
    (next :
      (direct.router.amend s.parties.accepts change).nextNumber = direct.router.nextNumber + 1)
    (withdraws : taken.Withdraws)
    (named : name = .offer router direct.router.nextNumber ∨
      name = .subscription router direct.router.nextNumber)
    (routed : t.router? router = some (direct.router.settle s.parties.accepts change))
    (entered : ∀ offer ∈ (direct.router.amend s.parties.accepts change).offers,
      offer ∈ direct.router.offers ∨
        ∀ id number implementation, offer.implementation ≠ .adapted id number implementation) :
    t.Mirrors router ⟨direct.router.settle s.parties.accepts change,
      Function.update direct.registered name (some taken)⟩ := by
  refine mirrors.opened next withdraws (or_assoc.mp (.inl named)) routed beside.targets
    beside.handles beside.handleNames (mirrors.booked.congr beside.facades)
    (beside.facades ▸ mirrors.facades) ?_ ?_ ?_
  · intro other facade through
    rw [behind?_congr beside.facades, if_neg]
    rintro rfl
    rcases named with rfl | rfl <;> contradiction
  · intro id number record inside
    rw [recordOf?_congr beside.facades]
    exact inside
  · intro offer member
    refine (entered offer member).imp_right fun native id number implementation adapter => ?_
    exact absurd adapter (native id number implementation)

theorem registerDirectly_serves {rpcs : List Current.Identifier}
    (steady : (s.registerDirectly router text implementation rpcs).Steady router)
    (calm : s.panic = none) (mirrors : s.Mirrors router direct) :
    ∃ t closed, Serves router direct
        (.register (.offer router direct.router.nextNumber) (.native implementation) rpcs ::
          s.displacing text)
        (s.registerDirectly router text implementation rpcs) t ∧
      t.frames = [.answer (.registered closed), .letGo (.router router)] ++ s.frames ∧
      t.targets = s.targets := by
  let name : Release := .offer router direct.router.nextNumber
  let kept := s.offerHandle router rpcs
  have handle : kept = if rpcs.isEmpty then .inert () else .opened () name := by
    simp only [kept, offerHandle, mirrors.there, name]
  let waiting : State :=
    s.push [.keep text kept (.registered kept.isClosed), .letGo (.router router)]
  have shape : s.registerDirectly router text implementation rpcs =
    waiting.registerWith router (.native implementation) rpcs := rfl
  rw [shape] at steady ⊢
  obtain ⟨t, first, frames, beside, settled⟩ :=
    registerWith_relays name steady calm mirrors.there mirrors.booked
      (fun offer => mirrors.enters) (by rintro _ _ _ ⟨⟩)
  have beside' : Beside s t := (Beside.work s s.routers waiting.frames s.log).trans beside
  let deed : Deed := .register name (.native implementation) rpcs
  replace settled : t.router? router = some (direct.take s.parties deed).router := settled
  obtain ⟨mirrors', known⟩ : t.Mirrors router (direct.take s.parties deed) ∧
      ∀ other, kept.release = some other → other = name ∧
        (direct.take s.parties deed).registered name = withdrawal? kept := by
    cases empty : rpcs.isEmpty with
    | true =>
      obtain ⟨take, -⟩ :=
        direct.take_register_of_empty s.parties name (.native implementation) empty
      rw [take] at settled ⊢
      rw [handle, empty]
      exact ⟨mirrors.beside beside' (settled.trans mirrors.there.symm), by rintro _ ⟨⟩⟩
    | false =>
      obtain ⟨take, -⟩ := direct.take_register s.parties name (.native implementation) empty
      rw [take] at settled ⊢
      rw [handle, empty]
      refine ⟨mirrors.openedDirectly beside' rfl trivial (.inl rfl) settled ?_, ?_⟩
      · intro offer member
        refine (List.mem_append.mp member).imp_right fun new => ?_
        rw [List.mem_singleton.mp new]
        simp
      · rintro other ⟨⟩
        exact ⟨rfl, Function.update_self ..⟩
  have parties := registerWith_parties (s := waiting) router (.native implementation) rpcs
  have second := Serves.single (parties ▸ first) (parties ▸ mirrors')
  obtain ⟨u, third⟩ := second.keep (beside.panic.trans calm) frames beside.targets beside.handles
    beside.handleNames (fun other released _ => by
      obtain ⟨rfl, registered⟩ := known other released
      exact ⟨routedTo_offerHandle s router rpcs, parties ▸ registered⟩)
    (fun other released _ => by
      obtain ⟨rfl, -⟩ := known other released
      exact mirrors.unused (.inl rfl))
  exact ⟨u, _, third⟩

theorem listenDirectly_serves (steady : (s.listenDirectly router text listener).Steady router)
    (calm : s.panic = none) (mirrors : s.Mirrors router direct) :
    ∃ t closed, Serves router direct
        (.listen (.subscription router direct.router.nextNumber) (.native listener) ::
          s.displacing text)
        (s.listenDirectly router text listener) t ∧
      t.frames = [.answer (.listening closed), .letGo (.router router)] ++ s.frames ∧
      t.targets = s.targets := by
  let name : Release := .subscription router direct.router.nextNumber
  let kept := s.subscriptionHandle router
  have handle : kept = .opened () name := by
    simp only [kept, subscriptionHandle, mirrors.there, name]
  let waiting : State :=
    s.push [.keep text kept (.listening kept.isClosed), .letGo (.router router)]
  have shape : s.listenDirectly router text listener =
    waiting.push [.change router (.listen (.native listener))] := rfl
  rw [shape] at steady ⊢
  obtain ⟨t, first, frames, beside, settled⟩ :=
    change_relays steady calm mirrors.there mirrors.booked fun offer => mirrors.enters
  have beside' : Beside s t := (Beside.work s s.routers waiting.frames s.log).trans beside
  have mirrors' : t.Mirrors router (direct.take s.parties (.listen name (.native listener))) :=
    mirrors.openedDirectly beside' rfl trivial (.inr rfl) settled fun offer member => .inl member
  have second : Serves router direct [.listen name (.native listener)]
    (waiting.push [.change router (.listen (.native listener))]) t := .single first mirrors'
  have known (other : Release) (released : kept.release = some other) : other = name := by
    rw [handle] at released
    exact (Option.some.inj released).symm
  have registered : (direct.take s.parties (.listen name (.native listener))).registered name =
      withdrawal? kept := by
    rw [handle]
    exact Function.update_self ..
  obtain ⟨u, third⟩ := second.keep (beside.panic.trans calm) frames beside.targets beside.handles
    beside.handleNames (fun other released _ => by
      obtain rfl := known other released
      exact ⟨routedTo_subscriptionHandle s router, registered⟩)
    (fun other released _ => by
      obtain rfl := known other released
      exact mirrors.unused (.inr rfl))
  exact ⟨u, _, third⟩

/-! The schema. -/

theorem adopt_serves {schema : Schema} (steady : s.Steady router) (calm : s.panic = none)
    (top : s.frames = .adopt router schema :: rest) (mirrors : s.Mirrors router direct) :
    ∃ t, Serves router direct [.updateSchema schema] s t ∧ t.frames = rest := by
  let below : State := { s with frames := rest }
  have there : below.router? router = some direct.router := mirrors.there
  have changes := adopt_changes there schema
  let t : State := (below.modifyRouter router (·.updateSchema schema)).note .debug
    "schema context updated"
    [("generation", toString (direct.router.generation + 1)), ("rpcs", toString schema.size)]
  have goes : below.adopt router schema = t := by simp only [State.adopt, there, t]
  rw [goes] at changes
  refine ⟨t, .single ?_ ?_, rfl⟩
  · exact .work steady calm top goes rfl rfl rfl rfl rfl changes.notifications
  · exact mirrors.adopted schema (router?_modify there changes.routers) rfl rfl rfl rfl

end State
end Session
end RpcRouting
