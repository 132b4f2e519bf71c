import RpcRouting.Proofs.Session.Mirroring
/-! Work on the stack that comes to what is done directly. Each piece is done as a whole, with all
that is told meanwhile, and leaves the session corresponding to the router that is used directly. -/
namespace RpcRouting.Session

variable {parties : Parties} {direct : Direct} {name : Release}

theorem Parties.hearings_append (parties : Parties) (first second : List (Delivery Watcher)) :
    parties.hearings (first ++ second) = parties.hearings first ++ parties.hearings second := by
  simp [Parties.hearings]

namespace Direct

theorem takeAll_append (parties : Parties) (direct : Direct) (first second : List Deed) :
    direct.takeAll parties (first ++ second) =
      (direct.takeAll parties first).takeAll parties second :=
  List.foldl_append

theorem toldOfAll_append (parties : Parties) (direct : Direct) (first second : List Deed) :
    direct.toldOfAll parties (first ++ second) =
      direct.toldOfAll parties first ++
        (direct.takeAll parties first).toldOfAll parties second := by
  induction first generalizing direct with
  | nil => rfl
  | cons deed later ih => exact (congrArg _ (ih _)).trans (List.append_assoc ..).symm

/-- What makes no change of the registrations, and is no update of the schema, comes to nothing. -/
theorem take_close_of_none (parties : Parties) (closed : direct.registered name = none) :
    direct.take parties (.close name) = direct ∧ direct.told parties (.close name) = [] := by
  simp [take, told, change?, closed]

end Direct

namespace State

variable {s t u : State} {router id number index : Nat} {frame : Frame} {rest : List Frame}
  {found : Facade} {handle : Handle} {deeds later : List Deed} {told toldNext : List Hearing}

theorem Mirrors.same (mirrors : s.Mirrors router direct) (routers : t.routers = s.routers)
    (targets : t.targets = s.targets) (facades : t.facades = s.facades)
    (handles : t.handles = s.handles) (handleNames : t.handleNames = s.handleNames) :
    t.Mirrors router direct := by
  refine mirrors.less (by rw [router?, routers, router?]) (fun _ => targets ▸ id) facades
    (by rw [handles]) (fun index handle inside _ => handles ▸ inside) ?_
  rw [handleNames]
  exact fun _ member => member

/-- Work goes on while listeners are told something. -/
structure Relays (router : Nat) (told : List Hearing) (s t : State) : Prop where
  proceeds : Proceeds s t
  steady : t.Steady router
  targets : t.targets = s.targets
  panic : t.panic = s.panic
  parties : t.parties = s.parties
  heard : t.heard = s.heard ++ told

namespace Relays

theorem still (steady : s.Steady router) : Relays router [] s s :=
  ⟨.still s, steady, rfl, rfl, rfl, (List.append_nil _).symm⟩

theorem append (first : Relays router told s t) (second : Relays router toldNext t u) :
    Relays router (told ++ toldNext) s u := by
  refine ⟨first.proceeds.append second.proceeds, second.steady, second.targets.trans first.targets,
    second.panic.trans first.panic, second.parties.trans first.parties, ?_⟩
  rw [second.heard, first.heard, List.append_assoc]

/-- Work goes on of which nothing is told. -/
theorem on (first : Relays router told s t) (second : Relays router [] t u) :
    Relays router told s u := by
  rw [← List.append_nil told]
  exact first.append second

theorem of_beside (proceeds : Proceeds s t) (steady : t.Steady router) (beside : Beside s t)
    (heard : t.heard = s.heard ++ told) : Relays router told s t :=
  ⟨proceeds, steady, beside.targets, beside.panic, beside.parties_eq, heard⟩

/-- Work that leaves implementations and listeners alone, and of which nobody is told. -/
theorem work (steady : s.Steady router) (calm : s.panic = none)
    (top : s.frames = frame :: rest) (goes : State.enter { s with frames := rest } frame = t)
    (unscripted : frame.isScripted = false) (targets : t.targets = s.targets)
    (panic : t.panic = s.panic) (implementations : t.implementations = s.implementations)
    (listeners : t.listeners = s.listeners) (silent : t.notifications = s.notifications) :
    Relays router [] s t := by
  obtain ⟨below, rfl, rfl⟩ := eq_push_of_top top
  have next : (below.push [frame]).advance = t := (advance_push (s := below) calm frame).trans goes
  have busy : (below.push [frame]).frames ≠ [] := List.cons_ne_nil _ _
  have passive : t.Passive := fun listener member => steady.passive listener (listeners ▸ member)
  refine ⟨next ▸ .onward busy ?_ (.still _), ?_, targets, panic, ?_, ?_⟩
  · simp [isReady, push, unscripted]
  · have move : Move router _ _ _ := .work busy
    rw [next] at move
    exact (PassiveMove.steady ⟨move, passive⟩ steady).1
  · rw [State.parties, implementations, listeners, State.parties]
  · rw [List.append_nil, State.heard, silent, State.heard]

/-- Work that is neither a change nor a delivery. -/
theorem quiet (steady : s.Steady router) (calm : s.panic = none)
    (top : s.frames = frame :: rest) (goes : State.enter { s with frames := rest } frame = t)
    (quiet : frame.isQuiet = true) (unscripted : frame.isScripted = false)
    (targets : t.targets = s.targets) (panic : t.panic = s.panic)
    (implementations : t.implementations = s.implementations)
    (listeners : t.listeners = s.listeners) : Relays router [] s t := by
  refine .work steady calm top goes unscripted targets panic implementations listeners ?_
  obtain ⟨below, rfl, rfl⟩ := eq_push_of_top top
  have grows : Grows below (below.enter frame) :=
    enter_grows steady.known.below.1.toNamesKnown quiet
  exact goes ▸ grows.notifications

end Relays

/-- What is done on the way from one state to another comes to deeds that are done directly. -/
structure Serves (router : Nat) (direct : Direct) (deeds : List Deed) (s t : State) : Prop where
  relays : Relays router (s.parties.hearings (direct.toldOfAll s.parties deeds)) s t
  mirrors : t.Mirrors router (direct.takeAll s.parties deeds)

namespace Serves

theorem still (steady : s.Steady router) (mirrors : s.Mirrors router direct) :
    Serves router direct [] s s :=
  ⟨.still steady, mirrors⟩

theorem append (first : Serves router direct deeds s t)
    (second : Serves router (direct.takeAll s.parties deeds) later t u) :
    Serves router direct (deeds ++ later) s u := by
  obtain ⟨relays, mirrors⟩ := second
  rw [first.relays.parties] at relays mirrors
  constructor
  · rw [Direct.toldOfAll_append, Parties.hearings_append]
    exact first.relays.append relays
  · rwa [Direct.takeAll_append]

/-- Work of which nothing is told comes first. -/
theorem after (second : Serves router direct deeds t u) (first : Relays router [] s t) :
    Serves router direct deeds s u := by
  obtain ⟨relays, mirrors⟩ := second
  rw [first.parties] at relays mirrors
  exact ⟨first.append relays, mirrors⟩

theorem single {deed : Deed}
    (relays : Relays router (s.parties.hearings (direct.told s.parties deed)) s t)
    (mirrors : t.Mirrors router (direct.take s.parties deed)) :
    Serves router direct [deed] s t := by
  refine ⟨?_, mirrors⟩
  rw [Direct.toldOfAll, Direct.toldOfAll, List.append_nil]
  exact relays

/-- What is not open is not closed. -/
theorem closing (relays : Relays router [] s t) (mirrors : t.Mirrors router direct)
    (closed : direct.registered name = none) : Serves router direct [.close name] s t := by
  obtain ⟨take, told⟩ := Direct.take_close_of_none s.parties closed
  refine .single ?_ ?_
  · rw [told]
    exact relays
  · rwa [take]

end Serves

/-! Registrations with the router are closed. -/

/-- A change of the router is made as it is made directly. -/
theorem change_relays {change : Change Server Watcher}
    (steady : (s.push [.change router change]).Steady router) (calm : s.panic = none)
    (there : s.router? router = some direct.router) (booked : s.Booked router)
    (enters : ∀ offer ∈ (direct.router.amend s.parties.accepts change).offers,
      s.Enters offer.implementation) :
    ∃ t, Relays router (s.parties.hearings (direct.router.queuedBy s.parties.accepts change))
        (s.push [.change router change]) t ∧ t.frames = s.frames ∧ Beside s t ∧
      t.router? router = some (direct.router.settle s.parties.accepts change) := by
  let opened : State := s.push [.change router change]
  obtain ⟨t, proceeds, frames, beside, steady', routed, heard⟩ :=
    change_proceeds (s := opened) steady rfl calm there booked enters
  exact ⟨t, .of_beside proceeds steady' beside heard, frames,
    (Beside.work s s.routers opened.frames s.log).trans beside, routed⟩

theorem withdrawals_of_alive (alive : s.routerAlive router = true) (handle : Handle) :
    s.withdrawals router [handle] = (withdrawal? handle).toList := by
  rw [withdrawals, if_pos alive]
  cases made : withdrawal? handle <;> simp [made]

/-- A registration with the router is closed as it is closed directly. -/
theorem close_relays (steady : (s.close handle).Steady router) (calm : s.panic = none)
    (routed : RoutedTo router handle) (there : s.router? router = some direct.router)
    (booked : s.Booked router) (facades : s.facades ≠ [])
    (enters : ∀ offer ∈ direct.router.offers, s.Enters offer.implementation)
    (known : direct.registered name = withdrawal? handle) :
    ∃ t, Relays router (s.parties.hearings (direct.told s.parties (.close name)))
        (s.close handle) t ∧ t.frames = s.frames ∧ Beside s t ∧
      t.router? router = some (direct.take s.parties (.close name)).router := by
  rw [close_of_withdrawals routed, withdrawals_of_alive (booked.routerAlive facades)] at steady ⊢
  cases made : withdrawal? handle with
  | none =>
    obtain ⟨take, told⟩ := Direct.take_close_of_none s.parties (known.trans made)
    rw [made] at steady
    rw [take, told]
    exact ⟨_, .still steady, rfl, .work s s.routers _ s.log, there⟩
  | some change =>
    rw [made] at steady
    have take : (direct.take s.parties (.close name)).router =
        direct.router.settle s.parties.accepts change := by
      simp only [Direct.take, Direct.change?, known, made]
    have told : direct.told s.parties (.close name) =
        direct.router.queuedBy s.parties.accepts change := by
      simp only [Direct.told, Direct.change?, known, made]
      rfl
    rw [take, told]
    apply change_relays steady calm there booked
    intro offer member
    exact enters offer (mem_offers_withdraw (withdraws_of_withdrawal? made) member)

/-- What stands behind a registration of a facade is closed, if there is anything. -/
theorem closes_relay (underlying : Option Handle) (name : Release) (steady : s.Steady router)
    (calm : s.panic = none) (top : s.frames = underlying.toList.map .close ++ rest)
    (routed : ∀ handle, underlying = some handle → RoutedTo router handle)
    (there : s.router? router = some direct.router) (booked : s.Booked router)
    (facades : s.facades ≠ [])
    (enters : ∀ offer ∈ direct.router.offers, s.Enters offer.implementation)
    (known : direct.registered name = underlying.bind withdrawal?) :
    ∃ t, Relays router (s.parties.hearings (direct.told s.parties (.close name))) s t ∧
      t.frames = rest ∧ Beside s t ∧
      t.router? router = some (direct.take s.parties (.close name)).router := by
  cases underlying with
  | none =>
    obtain ⟨take, told⟩ := Direct.take_close_of_none s.parties known
    rw [take, told]
    exact ⟨s, .still steady, top, .refl s, there⟩
  | some handle =>
    let below : State := { s with frames := rest }
    have closes := close_of_withdrawals (s := below) (routed handle rfl)
    have first : Relays router [] s (below.close handle) :=
      .quiet steady calm top rfl rfl rfl (closes ▸ rfl) (closes ▸ rfl) (closes ▸ rfl) (closes ▸ rfl)
    obtain ⟨t, relays, frames, beside, routed⟩ := close_relays (s := below) first.steady calm
      (routed handle rfl) there booked facades enters known
    have beside' : Beside s t := (Beside.work s s.routers rest s.log).trans beside
    exact ⟨t, first.append relays, frames, beside', routed⟩

/-! Registrations with a facade are released. -/

theorem modifyRoster_found (there : s.facade? id = some found)
    (f : Roster Nat Server Handle → Roster Nat Server Handle) :
    s.modifyRoster id f = s.modifyRoster id fun _ => f found.roster := by
  unfold modifyRoster modifyFacade
  congr 1
  exact (modify_found there _).trans
    (modify_found there fun facade => { facade with roster := f found.roster }).symm

/-- One roster is replaced after the other. -/
theorem reroster_again {roster : Roster Nat Server Handle}
    (facades : t.facades = (s.modifyRoster id fun _ => roster).facades)
    (f : Roster Nat Server Handle → Roster Nat Server Handle) :
    (t.modifyRoster id f).facades = (s.modifyRoster id fun _ => f roster).facades := by
  simp only [modifyRoster, modifyFacade] at facades ⊢
  rw [facades, List.modify_modify_eq]
  rfl

/-- Who has been entered is found as long as the roster that is replaced keeps who is on it. -/
theorem Mirrors.enters_reroster {roster : Roster Nat Server Handle}
    (mirrors : s.Mirrors router direct) (there : s.facade? id = some found)
    (facades : t.facades = (s.modifyRoster id fun _ => roster).facades)
    (kept : ∀ number record, found.roster.record? number = some record →
      ∃ after, roster.record? number = some after ∧
        after.implementation = record.implementation) :
    ∀ offer ∈ direct.router.offers, t.Enters offer.implementation := by
  intro offer member other number implementation adapter
  obtain ⟨record, inside, same⟩ := mirrors.enters member other number implementation adapter
  rw [recordOf?_reroster there facades]
  split
  · rename_i hit
    rw [hit, recordOf?, there, Option.bind_some] at inside
    obtain ⟨after, found, its⟩ := kept number record inside
    exact ⟨after, found, its.trans same⟩
  · exact ⟨record, inside, same⟩

/-- A record that is emptied and removed is no longer found, and the others are found as before. -/
theorem record?_released (roster : Roster Nat Server Handle) (number other : Nat) :
    ((roster.setUnderlying number none).remove number).record? other =
      if other = number then none else roster.record? other := by
  rw [Roster.record?_remove]
  split
  · rfl
  · rename_i ne
    simp [Roster.record?_setUnderlying, ne]

/-- An implementation of a facade is no longer on the roster, and what stood behind it is closed. -/
theorem Mirrors.released (mirrors : s.Mirrors router direct) (there : s.facade? id = some found)
    (routed : t.router? router =
      some (direct.take parties (.close (.facadeImplementation id number))).router)
    (targets : t.targets = s.targets) (handles : t.handles = s.handles)
    (handleNames : t.handleNames = s.handleNames)
    (facades : t.facades = (s.modifyRoster id fun _ =>
      (found.roster.setUnderlying number none).remove number).facades) :
    t.Mirrors router (direct.take parties (.close (.facadeImplementation id number))) := by
  have emptied : Facade.Booked router id
      { found with roster := found.roster.setUnderlying number none } :=
    (mirrors.booked id found there).attach nofun
  refine mirrors.closed routed targets handles handleNames
    (mirrors.booked.reroster there facades emptied.remove) (facades_reroster there facades) ?_ ?_
    nofun
  · apply behind?_reroster there facades
    · intro other
      rw [record?_released]
      split <;> rfl
    · exact Roster.listeners_remove
  · intro other entry ne
    rw [recordOf?_reroster there facades]
    split
    · rename_i hit
      have apart : entry ≠ number := fun also => ne (by rw [hit, also])
      rw [record?_released, if_neg apart, hit, recordOf?, there]
      rfl
    · rfl

/-- An implementation of a facade is released, whose registration behind the facade is closed
meanwhile. -/
theorem release_serves (steady : s.Steady router) (calm : s.panic = none)
    (top : s.frames = .release id number :: rest) (mirrors : s.Mirrors router direct)
    (there : s.facade? id = some found) :
    ∃ t, Serves router direct [.close (.facadeImplementation id number)] s t ∧ t.frames = rest ∧
      ∃ after, t.facade? id = some after ∧ after.arranged.listeners = found.arranged.listeners := by
  let below : State := { s with frames := rest }
  have same : below.facade? id = some found := there
  have own : s.recordOf? id number = found.roster.record? number := by
    rw [recordOf?, there]
    rfl
  have registered : direct.registered (.facadeImplementation id number) =
      (found.roster.record? number).bind fun record => record.underlying.bind withdrawal? := by
    rw [mirrors.behind (.facadeImplementation id number) id rfl, behind?, own, Option.bind_assoc]
  cases entered : found.roster.record? number with
  | none =>
    have goes : below.beginRelease id number = below := by
      simp only [beginRelease, Roster.detach?, same, Option.bind_some, entered, Option.map_none]
    have relays : Relays router [] s below := .quiet steady calm top goes rfl rfl rfl rfl rfl rfl
    refine ⟨below, .closing relays (mirrors.same rfl rfl rfl rfl rfl) ?_, rfl, found, there, rfl⟩
    rw [registered, entered, Option.bind_none]
  | some record =>
    rw [entered, Option.bind_some] at registered
    let roster := found.roster.setUnderlying number none
    let begun : State := (below.modifyRoster id fun _ => roster).push
      (record.underlying.toList.map .close ++ [.finishRelease id number])
    have goes : below.beginRelease id number = begun := by
      simp only [beginRelease, Roster.detach?, same, Option.bind_some, entered, Option.map_some,
        begun, roster]
    have first : Relays router [] s begun := .quiet steady calm top goes rfl rfl rfl rfl rfl rfl
    have detached : begun.facades = (s.modifyRoster id fun _ => roster).facades := rfl
    have booked := mirrors.booked id found there
    have routed (handle : Handle) (holds : record.underlying = some handle) :
        RoutedTo router handle :=
      booked.routed handle (Roster.mem_underlyings_of_record? entered holds)
    -- The record stays until what is behind it is closed, so that listeners who are asked find it.
    have enters : ∀ offer ∈ direct.router.offers, begun.Enters offer.implementation := by
      apply mirrors.enters_reroster there detached
      intro entry before inside
      rw [Roster.record?_setUnderlying, inside]
      refine ⟨_, rfl, ?_⟩
      split <;> rfl
    have emptied : Facade.Booked router id { found with roster := roster } :=
      booked.attach (by rintro _ ⟨⟩)
    obtain ⟨between, second, frames, beside, settled⟩ :=
      closes_relay record.underlying (.facadeImplementation id number) first.steady calm
        (List.append_assoc ..) routed mirrors.there
        (mirrors.booked.reroster there detached emptied) (facades_reroster there detached) enters
        registered
    let t : State := State.finishRelease { between with frames := rest } id number
    have facades : t.facades = (s.modifyRoster id fun _ => roster.remove number).facades :=
      reroster_again (s := s) (t := { between with frames := rest }) (beside.facades.trans detached)
        (·.remove number)
    have third : Relays router [] between t :=
      .quiet second.steady (beside.panic.trans calm) frames rfl rfl rfl rfl rfl rfl rfl
    have finished : t.Mirrors router
        (direct.take s.parties (.close (.facadeImplementation id number))) :=
      mirrors.released there settled beside.targets beside.handles beside.handleNames facades
    refine ⟨t, .single ((first.append second).on third) finished, rfl, _,
      (facade?_reroster there facades id).trans (if_pos rfl), ?_⟩
    simp only [Facade.arranged, Roster.arranged, Roster.listeners_remove, Roster.nextNumber_remove]
    rfl

/-- A listener of a facade is no longer on the roster, and what stood behind it is closed. -/
theorem Mirrors.releasedListener (mirrors : s.Mirrors router direct)
    (there : s.facade? id = some found)
    (routed : t.router? router =
      some (direct.take parties (.close (.facadeListener id number))).router)
    (targets : t.targets = s.targets) (handles : t.handles = s.handles)
    (handleNames : t.handleNames = s.handleNames)
    (facades : t.facades =
      (s.modifyRoster id fun _ => found.roster.removeListener number).facades) :
    t.Mirrors router (direct.take parties (.close (.facadeListener id number))) := by
  have booked : Facade.Booked router id
      { found with roster := found.roster.removeListener number } :=
    (mirrors.booked id found there).removeListener
  refine mirrors.closed routed targets handles handleNames
    (mirrors.booked.reroster there facades booked) (facades_reroster there facades) ?_ ?_ nofun
  · exact behind?_relisten there facades rfl (Roster.listener?_removeListener ·)
  · intro other entry _
    rw [recordOf?_reroster there facades]
    split
    · rename_i hit
      rw [hit, recordOf?, there]
      rfl
    · rfl

/-- A listener of a facade is released. The facade forgets it first. -/
theorem releaseListener_serves (steady : s.Steady router) (calm : s.panic = none)
    (top : s.frames = .releaseListener id number :: rest) (mirrors : s.Mirrors router direct) :
    ∃ t, Serves router direct [.close (.facadeListener id number)] s t ∧ t.frames = rest := by
  let below : State := { s with frames := rest }
  have registered : direct.registered (.facadeListener id number) =
      ((s.facade? id).bind (·.roster.listener? number)).bind withdrawal? :=
    mirrors.behind (.facadeListener id number) id rfl
  cases entered : (s.facade? id).bind (·.roster.listener? number) with
  | none =>
    have goes : below.beginListenerRelease id number = below := by
      simp only [beginListenerRelease, show (below.facade? id).bind _ = none from entered]
    have relays : Relays router [] s below := .quiet steady calm top goes rfl rfl rfl rfl rfl rfl
    refine ⟨below, .closing relays (mirrors.same rfl rfl rfl rfl rfl) ?_, rfl⟩
    rw [registered, entered, Option.bind_none]
  | some underlying =>
    obtain ⟨found, there, entry⟩ := Option.bind_eq_some_iff.mp entered
    let roster := found.roster.removeListener number
    let begun : State := (below.modifyRoster id (·.removeListener number)).push
      [.close underlying, .finishListenerRelease number]
    have goes : below.beginListenerRelease id number = begun := by
      simp only [beginListenerRelease, begun,
        show (below.facade? id).bind _ = some underlying from entered]
    have first : Relays router [] s begun := .quiet steady calm top goes rfl rfl rfl rfl rfl rfl
    have removed := modifyRoster_found (s := below) there (·.removeListener number)
    have facades : begun.facades = (s.modifyRoster id fun _ => roster).facades := by
      have same := congrArg State.facades removed
      exact same
    have booked := mirrors.booked id found there
    have routed : RoutedTo router underlying :=
      booked.routed underlying (Roster.mem_underlyings_of_listener? entry)
    have forgotten : begun.Booked router :=
      mirrors.booked.reroster there facades booked.removeListener
    have enters : ∀ offer ∈ direct.router.offers, begun.Enters offer.implementation :=
      mirrors.enters_reroster there facades fun _ record inside => ⟨record, inside, rfl⟩
    rw [entered] at registered
    obtain ⟨between, second, frames, beside, settled⟩ :=
      closes_relay (some underlying) (.facadeListener id number) first.steady calm rfl
        (by simpa using routed) mirrors.there forgotten (facades_reroster there facades) enters
        registered
    let t : State := State.finishListenerRelease { between with frames := rest } number
    have third : Relays router [] between t :=
      .quiet second.steady (beside.panic.trans calm) frames rfl rfl rfl rfl rfl rfl rfl
    have finished : t.facades = (s.modifyRoster id fun _ => roster).facades :=
      beside.facades.trans facades
    refine ⟨t, .single ((first.append second).on third) ?_, rfl⟩
    exact mirrors.releasedListener there settled beside.targets beside.handles beside.handleNames
      finished

/-! Handles of the session are closed and kept. -/

/-- The roster of a facade that is alive is not let go. -/
theorem letRosterGo_of_booked (booked : s.Booked router) (id : Nat) : s.letRosterGo id = s := by
  unfold letRosterGo
  split
  · rename_i found there
    rw [if_neg]
    rintro ⟨leaving, -⟩
    rw [(booked id found there).alive] at leaving
    contradiction
  · rfl

/-- What has been registered through a facade is released, and what has been kept alive for it is
let go. -/
theorem releaseThrough_serves {begin : Frame} (steady : (s.release name).Steady router)
    (calm : s.panic = none) (mirrors : s.Mirrors router direct) (through : name.facade? = some id)
    (releases : s.release name =
      if s.rosterAlive id then s.push [begin, .letGo (.roster id)] else s)
    (serves : ∀ (begun : State) found, begun.Steady router → begun.panic = none →
      begun.frames = begin :: .letGo (.roster id) :: s.frames → begun.Mirrors router direct →
      begun.facade? id = some found → ∃ t, Serves router direct [.close name] begun t ∧
        t.frames = .letGo (.roster id) :: s.frames) :
    ∃ t, Serves router direct [.close name] (s.release name) t ∧ t.frames = s.frames := by
  cases there : s.facade? id with
  | none =>
    have gone : s.rosterAlive id = false := by rw [rosterAlive, there, Option.any_none]
    rw [gone, if_neg Bool.false_ne_true] at releases
    have closed : direct.registered name = none := by
      rw [mirrors.behind name id through]
      cases name <;> cases through <;> simp [behind?, recordOf?, there]
    rw [releases] at steady ⊢
    exact ⟨s, .closing (.still steady) mirrors closed, rfl⟩
  | some found =>
    have alive : s.rosterAlive id = true := by
      simp [rosterAlive, there, (mirrors.booked id found there).alive]
    rw [alive, if_pos rfl] at releases
    rw [releases] at steady ⊢
    obtain ⟨t, first, frames⟩ := serves _ found steady calm rfl
      (mirrors.same rfl rfl rfl rfl rfl) there
    have goes : State.enter { t with frames := s.frames } (.letGo (.roster id)) =
        { t with frames := s.frames } :=
      letRosterGo_of_booked (s := { t with frames := s.frames }) first.mirrors.booked id
    have second : Relays router [] t { t with frames := s.frames } :=
      .quiet first.relays.steady (first.relays.panic.trans calm) frames goes rfl rfl rfl rfl rfl rfl
    exact ⟨_, ⟨first.relays.on second, first.mirrors.same rfl rfl rfl rfl rfl⟩, rfl⟩

/-- A handle that is still open is one of before, and not the one that has been closed. -/
theorem getElem?_modify_close {handles : List Handle} {other : Nat} {kept : Handle}
    (inside : (handles.modify index (·.close))[other]? = some kept)
    (open' : kept.release ≠ none) : other ≠ index ∧ handles[other]? = some kept := by
  obtain ⟨before, old, ⟨-, rfl⟩ | ⟨ne, rfl⟩⟩ := getElem?_of_modify inside
  · exact absurd rfl open'
  · exact ⟨Ne.symm ne, old⟩

theorem close_eq_push (s : State) (handle : Handle) :
    ∃ pushed, s.close handle = s.push pushed := by
  unfold State.close State.release
  split
  · split <;> split <;> first | exact ⟨_, rfl⟩ | exact ⟨[], rfl⟩
  · exact ⟨[], rfl⟩

/-- One of the session's handles that is for a registration with the router is closed. -/
theorem closeDirectly_serves (mirrors : s.Mirrors router direct)
    (there : s.handles[index]? = some handle) (released : handle.release = some name)
    (native : name.facade? = none) :
    let closed : State := { s with handles := s.handles.modify index (·.close) }
    closed.Mirrors router direct → (closed.close handle).Steady router → s.panic = none →
    ∃ t, Serves router direct [.close name] (closed.close handle) t ∧ t.frames = s.frames := by
  intro closed mirrors' steady calm
  obtain ⟨routed, known⟩ :=
    mirrors.handles handle (List.mem_of_getElem? there) name released native
  obtain ⟨t, relays, frames, beside, settled⟩ := close_relays steady calm routed mirrors'.there
    mirrors'.booked mirrors'.facades (fun offer => mirrors'.enters) known
  obtain ⟨pushed, closes⟩ := close_eq_push closed handle
  have parties : (closed.close handle).parties = closed.parties := by
    rw [closes]
    rfl
  refine ⟨t, .single (parties ▸ relays) (parties ▸ ?_), frames⟩
  refine mirrors'.closed settled beside.targets beside.handles beside.handleNames
    (mirrors'.booked.congr beside.facades) (beside.facades ▸ mirrors'.facades) ?_ ?_ ?_
  · intro other
    rw [behind?_congr beside.facades]
    split
    · rename_i same
      rw [same]
      cases name <;> first | rfl | contradiction
    · rfl
  · intro id number _
    rw [recordOf?_congr beside.facades]
  · -- No other handle is for the same registration.
    intro _ kept member same
    obtain ⟨other, inside⟩ := List.mem_iff_getElem?.mp member
    obtain ⟨ne, before⟩ := getElem?_modify_close inside (by rw [same]; exact nofun)
    have held : s.releaseOf? index = some name := by
      rw [releaseOf?, there]
      exact released
    have also : s.releaseOf? other = some name := by
      rw [releaseOf?, before]
      exact same
    exact ne (mirrors.apart name native other index also held)

/-- One of the session's handles is closed. -/
theorem closeKept_serves (steady : s.Steady router) (calm : s.panic = none)
    (top : s.frames = .closeKept index :: rest) (mirrors : s.Mirrors router direct) :
    ∃ t, Serves router direct (s.closing index) s t ∧ t.frames = rest := by
  let below : State := { s with frames := rest }
  cases there : s.handles[index]? with
  | none =>
    have nothing : s.closing index = [] := by rw [closing, releaseOf?, there]; rfl
    have goes : below.closeKept index = below := by
      simp only [closeKept, show below.handles[index]? = none from there]
    have relays : Relays router [] s below := .quiet steady calm top goes rfl rfl rfl rfl rfl rfl
    exact ⟨below, nothing ▸ ⟨relays, mirrors.same rfl rfl rfl rfl rfl⟩, rfl⟩
  | some handle =>
    let closed : State := { below with handles := s.handles.modify index (·.close) }
    have goes : below.closeKept index = closed.close handle := by
      simp only [closeKept, show below.handles[index]? = some handle from there]
      rfl
    have mirrors' : closed.Mirrors router direct :=
      mirrors.less rfl (fun _ => id) rfl (List.length_modify ..)
        (fun _ _ inside open' => (getElem?_modify_close inside open').2) fun _ => id
    obtain ⟨pushed, closes⟩ := close_eq_push closed handle
    have first : Relays router [] s (closed.close handle) := .quiet steady calm top goes rfl rfl
      (closes ▸ rfl) (closes ▸ rfl) (closes ▸ rfl) (closes ▸ rfl)
    suffices goes : ∃ t, Serves router direct (s.closing index) (closed.close handle) t ∧
        t.frames = rest by
      obtain ⟨t, serves, frames⟩ := goes
      exact ⟨t, serves.after first, frames⟩
    have closing : s.closing index = (handle.release.map .close).toList := by
      rw [closing, releaseOf?, there]
      rfl
    cases released : handle.release with
    | none =>
      have same : closed.close handle = closed := by rw [State.close, released]
      have steady := first.steady
      rw [same] at steady ⊢
      rw [closing, released]
      exact ⟨closed, .still steady mirrors', rfl⟩
    | some name =>
      have releases : closed.close handle = closed.release name := by rw [State.close, released]
      rw [closing, released]
      cases through : name.facade? with
      | none =>
        exact closeDirectly_serves (s := below) (mirrors.same rfl rfl rfl rfl rfl) there released
          through mirrors' first.steady calm
      | some facade =>
        have steady := first.steady
        rw [releases] at steady ⊢
        cases name with
        | offer | subscription => contradiction
        | facadeImplementation id number =>
          refine releaseThrough_serves steady calm mirrors' rfl rfl ?_
          intro begun found steady calm top mirrors there
          obtain ⟨t, serves, frames, -⟩ := release_serves steady calm top mirrors there
          exact ⟨t, serves, frames⟩
        | facadeListener id number =>
          refine releaseThrough_serves steady calm mirrors' rfl rfl ?_
          intro begun found steady calm top mirrors _
          exact releaseListener_serves steady calm top mirrors

theorem displacing_congr (handles : t.handles = s.handles)
    (handleNames : t.handleNames = s.handleNames) (text : String) :
    t.displacing text = s.displacing text := by
  have closing : t.closing = s.closing := by
    funext index
    rw [State.closing, releaseOf?, handles, State.closing, releaseOf?]
  rw [displacing, handleNames, closing, displacing]

/-- A new registration is kept under a name, and who had the name is closed. -/
theorem keep_serves {text : String} {answer : Answer} (steady : s.Steady router)
    (calm : s.panic = none) (top : s.frames = .keep text handle answer :: rest)
    (mirrors : s.Mirrors router direct)
    (known : ∀ name, handle.release = some name → name.facade? = none →
      RoutedTo router handle ∧ direct.registered name = withdrawal? handle)
    (new : ∀ name, handle.release = some name → name.facade? = none →
      ∀ other ∈ s.handles, other.release ≠ some name) :
    ∃ t, Serves router direct (s.displacing text) s t ∧ t.frames = .answer answer :: rest := by
  let kept : State := State.keep { s with frames := rest } text handle answer
  have relays : Relays router [] s kept := .quiet steady calm top rfl rfl rfl rfl rfl rfl rfl
  have mirrors' : kept.Mirrors router direct := mirrors.kept rfl rfl rfl rfl rfl known new
  have frames : kept.frames =
      (s.handleNames.lookup text).toList.map .closeKept ++ [.answer answer] ++ rest := rfl
  unfold displacing
  cases named : s.handleNames.lookup text with
  | none =>
    rw [named] at frames
    exact ⟨kept, ⟨relays, mirrors'⟩, frames⟩
  | some index =>
    rw [named] at frames
    have inside : index < s.handles.length := lookup_lt mirrors.names named
    have same : kept.closing index = s.closing index := by
      simp only [closing, releaseOf?, show kept.handles[index]? = s.handles[index]? from
        List.getElem?_append_left inside]
    obtain ⟨t, serves, frames⟩ := closeKept_serves relays.steady calm frames mirrors'
    rw [same] at serves
    refine ⟨t, ?_, frames⟩
    simpa using serves.after relays

/-- What has been registered is kept, where the names of handles are those of before. -/
theorem Serves.keep {deed : Deed} {text : String} {answer : Answer}
    (serves : Serves router direct [deed] t u) (calm : u.panic = none)
    (top : u.frames = .keep text handle answer :: rest) (targets : u.targets = s.targets)
    (handles : u.handles = s.handles) (handleNames : u.handleNames = s.handleNames)
    (known : ∀ name, handle.release = some name → name.facade? = none →
      RoutedTo router handle ∧
        (direct.take t.parties deed).registered name = withdrawal? handle)
    (new : ∀ name, handle.release = some name → name.facade? = none →
      ∀ other ∈ s.handles, other.release ≠ some name) :
    ∃ v, Serves router direct (deed :: s.displacing text) t v ∧ v.frames = .answer answer :: rest ∧
      v.targets = s.targets := by
  obtain ⟨v, later, frames⟩ :=
    keep_serves serves.relays.steady calm top serves.mirrors known (handles ▸ new)
  rw [displacing_congr handles handleNames] at later
  exact ⟨v, serves.append later, frames, later.relays.targets.trans targets⟩

/-! A facade is closed. -/

theorem releases_serve {numbers : List Nat} (steady : s.Steady router) (calm : s.panic = none)
    (top : s.frames = numbers.map (.release id) ++ rest) (mirrors : s.Mirrors router direct)
    (there : s.facade? id = some found) :
    ∃ t, Serves router direct
        (numbers.map fun number => .close (.facadeImplementation id number)) s t ∧
      t.frames = rest ∧
      ∃ after, t.facade? id = some after ∧ after.arranged.listeners = found.arranged.listeners := by
  induction numbers generalizing s direct found with
  | nil => exact ⟨s, .still steady mirrors, top, found, there, rfl⟩
  | cons number later ih =>
    obtain ⟨between, first, frames, after, there', same⟩ :=
      release_serves steady calm top mirrors there
    obtain ⟨t, second, frames', last, there'', same'⟩ :=
      ih first.relays.steady (first.relays.panic.trans calm) frames first.mirrors there'
    exact ⟨t, first.append second, frames', last, there'', same'.trans same⟩

theorem releaseListeners_serve {numbers : List Nat} (steady : s.Steady router)
    (calm : s.panic = none) (top : s.frames = numbers.map (.releaseListener id) ++ rest)
    (mirrors : s.Mirrors router direct) :
    ∃ t, Serves router direct (numbers.map fun number => .close (.facadeListener id number)) s t ∧
      t.frames = rest := by
  induction numbers generalizing s direct with
  | nil => exact ⟨s, .still steady mirrors, top⟩
  | cons number later ih =>
    obtain ⟨between, first, frames⟩ := releaseListener_serves steady calm top mirrors
    obtain ⟨t, second, frames'⟩ :=
      ih first.relays.steady (first.relays.panic.trans calm) frames first.mirrors
    exact ⟨t, first.append second, frames'⟩

/-- All registrations of a facade are released, implementations first. -/
theorem closeFacade_serves (steady : (s.closeFacade id found).Steady router)
    (calm : s.panic = none) (mirrors : s.Mirrors router direct)
    (there : s.facade? id = some found) :
    ∃ t, Serves router direct ((found.enrolled id).map .close) (s.closeFacade id found) t ∧
      t.frames = [.answer (.text "closed"), .letGo (.facade id)] ++ s.frames := by
  let waiting : List Frame := [.answer (.text "closed"), .letGo (.facade id)] ++ s.frames
  have frames : (s.closeFacade id found).frames =
      (found.arranged.records.map (·.1)).map (.release id) ++ (.releaseListeners id :: waiting) := by
    rw [List.map_map]
    exact List.append_assoc ..
  obtain ⟨between, first, frames, after, there', same⟩ :=
    releases_serve steady calm frames (mirrors.same rfl rfl rfl rfl rfl) there
  let opened : State := State.push { between with frames := waiting }
    ((found.arranged.listeners.map (·.1)).map (.releaseListener id))
  have goes : State.releaseListeners { between with frames := waiting } id = opened := by
    have there : State.facade? { between with frames := waiting } id = some after := there'
    simp only [releaseListeners, there, same, opened, List.map_map]
    rfl
  have second : Relays router [] between opened :=
    .quiet first.relays.steady (first.relays.panic.trans calm) frames goes rfl rfl rfl rfl rfl rfl
  obtain ⟨t, third, frames'⟩ := releaseListeners_serve second.steady
    (first.relays.panic.trans calm) rfl (first.mirrors.same rfl rfl rfl rfl rfl)
  refine ⟨t, ?_, frames'⟩
  have all := first.append (third.after second)
  simpa [Facade.enrolled, Function.comp_def] using all

end State
end RpcRouting.Session
