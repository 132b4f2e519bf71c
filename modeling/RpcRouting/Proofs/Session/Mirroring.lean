import RpcRouting.Proofs.Session.Direct
import RpcRouting.Proofs.Session.Vanishing
/-! How a session with facades and a router that is used directly correspond. The routers are the
same but for who is called: what a facade has on its roster is registered directly, and is taken
back by the same change. -/
namespace RpcRouting.Session

/-- A facade over one router, with its books in order. -/
structure Facade.Booked (router id : Nat) (facade : Facade) : Prop where
  service : facade.service = some router
  provider : facade.provider = router
  alive : facade.life = .alive
  numbered : facade.roster.Numbered
  paired : facade.roster.Paired
  adapters : ∀ number record, (number, record) ∈ facade.roster.records →
    record.adapter = .adapted id number record.implementation
  routed : ∀ underlying ∈ facade.roster.underlyings, RoutedTo router underlying

namespace Facade.Booked

variable {router id number : Nat} {facade : Facade} {record : Record Nat Server Handle}
  {roster : Roster Nat Server Handle}

theorem apart (booked : facade.Booked router id) : facade.roster.adapters.Nodup := by
  refine List.Nodup.map_on ?_ (List.Nodup.of_map _ booked.numbered.records)
  intro first inside second also same
  rw [booked.adapters first.1 first.2 inside, booked.adapters second.1 second.2 also] at same
  exact List.inj_on_of_nodup_map booked.numbered.records inside also (Server.adapted.inj same).2.1

theorem reroster (booked : facade.Booked router id) (numbered : roster.Numbered)
    (paired : roster.Paired)
    (adapters : ∀ number record, (number, record) ∈ roster.records →
      record.adapter = .adapted id number record.implementation)
    (routed : ∀ underlying ∈ roster.underlyings, RoutedTo router underlying) :
    Facade.Booked router id { facade with roster := roster } :=
  ⟨booked.service, booked.provider, booked.alive, numbered, paired, adapters, routed⟩

theorem enter (booked : facade.Booked router id) (implementation : Nat) :
    Facade.Booked router id { facade with
      roster := facade.roster.takeNumber.enter facade.roster.nextNumber implementation
        (.adapted id facade.roster.nextNumber implementation) } := by
  refine booked.reroster (booked.numbered.enter _ _) (booked.paired.enter _ _) ?_ ?_
  · intro number record member
    rcases List.mem_append.mp member with old | new
    · exact booked.adapters number record old
    · cases List.mem_singleton.mp new
      rfl
  · intro underlying member
    exact booked.routed underlying (by simpa using member)

theorem attach (booked : facade.Booked router id) {attached : Option Handle}
    (routed : ∀ underlying, attached = some underlying → RoutedTo router underlying) :
    Facade.Booked router id
      { facade with roster := facade.roster.setUnderlying number attached } := by
  refine booked.reroster (booked.numbered.setUnderlying _ _) (booked.paired.setUnderlying _) ?_ ?_
  · intro other record member
    rw [Roster.records_setUnderlying] at member
    obtain ⟨entry, old, same⟩ := List.mem_map.mp member
    have own := booked.adapters entry.1 entry.2 old
    split at same
    · rename_i hit
      cases same
      exact hit ▸ own
    · rw [same] at own
      exact own
  · intro underlying member
    rcases Roster.mem_underlyings_setUnderlying member with old | new
    · exact booked.routed underlying old
    · exact routed underlying new

theorem remove (booked : facade.Booked router id) :
    Facade.Booked router id { facade with roster := facade.roster.remove number } := by
  refine booked.reroster (booked.numbered.remove _)
    (booked.paired.remove booked.numbered booked.apart)
    (fun other record member => booked.adapters other record (Roster.mem_records_remove member)) ?_
  exact fun underlying member => booked.routed underlying (Roster.mem_underlyings_remove member)

theorem enterListener (booked : facade.Booked router id) {underlying : Handle}
    (routed : RoutedTo router underlying) :
    Facade.Booked router id { facade with
      roster := facade.roster.takeNumber.enterListener facade.roster.nextNumber underlying } := by
  have new : facade.roster.nextNumber ∉ facade.roster.listenerNumbers := fun member =>
    Nat.lt_irrefl _ (booked.numbered.listeners_lt _ member)
  refine booked.reroster
    (booked.numbered.takeNumber.enterListener (Nat.lt_succ_self _) new underlying) booked.paired
    booked.adapters fun other member => ?_
  rcases Roster.mem_underlyings_enterListener.mp member with old | rfl
  · exact booked.routed other (by simpa using old)
  · exact routed

theorem removeListener (booked : facade.Booked router id) :
    Facade.Booked router id { facade with roster := facade.roster.removeListener number } := by
  refine booked.reroster (booked.numbered.removeListener _) booked.paired booked.adapters ?_
  exact fun underlying member =>
    booked.routed underlying (Roster.mem_underlyings_removeListener member)

end Facade.Booked

namespace State

/-- The entry of an implementation on the roster of a facade. -/
def recordOf? (s : State) (id number : Nat) : Option (Record Nat Server Handle) :=
  (s.facade? id).bind (·.roster.record? number)

/-- What stands behind a registration that has been made through a facade. -/
def behind? (s : State) : Release → Option Handle
  | .facadeImplementation id number => (s.recordOf? id number).bind (·.underlying)
  | .facadeListener id number => (s.facade? id).bind (·.roster.listener? number)
  | .offer _ _ | .subscription _ _ => none

def Booked (router : Nat) (s : State) : Prop :=
  ∀ id facade, s.facade? id = some facade → facade.Booked router id

/-- A facade's adapter that is entered. -/
def Enters (s : State) (server : Server) : Prop :=
  ∀ id number implementation, server = .adapted id number implementation →
    ∃ record, s.recordOf? id number = some record ∧ record.implementation = implementation

variable {s t : State} {router id number : Nat}

theorem listenerAccepts_eq (s : State) : s.listenerAccepts = s.parties.admits := by
  funext listener server
  have preference : (s.parties.listeners[listener]?).bind (·.2) =
      (s.listeners[listener]?).bind (·.preference) := by
    simp only [parties, List.getElem?_map]
    cases s.listeners[listener]? <;> rfl
  simp only [listenerAccepts, Parties.admits, preference]
  rfl

/-- A facade finds its own, and nothing else, by what a router has. -/
theorem registered?_eq (booked : s.Booked router) {server : Server} (enters : s.Enters server)
    (facade : Nat) : s.registered? facade server = server.original? facade := by
  unfold registered?
  cases there : s.facade? facade with
  | none =>
    cases server with
    | native => rfl
    | adapted id number implementation =>
      refine (if_neg ?_).symm
      rintro rfl
      obtain ⟨record, entry, -⟩ := enters id number implementation rfl
      rw [recordOf?, there] at entry
      contradiction
  | some found =>
    obtain ⟨-, -, alive, numbered, paired, adapters, -⟩ := booked facade found there
    have apart := (booked facade found there).apart
    dsimp only
    rw [if_neg (by rw [alive]; exact nofun)]
    have foreign (other : ∀ number implementation, server ≠ .adapted facade number implementation) :
        found.roster.implementation? server = none := by
      refine paired.implementation?_eq_none fun member => ?_
      obtain ⟨entry, inside, same⟩ := List.mem_map.mp member
      exact other _ _ (same.symm.trans (adapters _ _ inside))
    cases server with
    | native => exact foreign nofun
    | adapted id number implementation =>
      by_cases own : id = facade
      · subst own
        obtain ⟨record, entry, rfl⟩ := enters id number implementation rfl
        rw [recordOf?, there] at entry
        have inside := Roster.mem_of_record? entry
        rw [← adapters number record inside, paired.implementation? numbered apart inside,
          adapters number record inside]
        exact (if_pos rfl).symm
      · rw [foreign fun _ _ same => own (Server.adapted.inj same).1]
        exact (if_neg own).symm

theorem accepts_eq (booked : s.Booked router) {server : Server} (enters : s.Enters server)
    (watcher : Watcher) : s.accepts watcher server = s.parties.accepts watcher server := by
  cases watcher with
  | native listener => exact congrFun (congrFun (listenerAccepts_eq s) listener) server
  | wrapped facade listener =>
    cases original : server.original? facade <;>
      simp only [State.accepts, Parties.accepts, registered?_eq booked enters, listenerAccepts_eq,
        original]

theorem Booked.routerAlive (booked : s.Booked router) (facades : s.facades ≠ []) :
    s.routerAlive router = true := by
  obtain ⟨found, member⟩ := List.exists_mem_of_ne_nil _ facades
  obtain ⟨index, there⟩ := List.mem_iff_getElem?.mp member
  have booked := booked index found there
  simp only [State.routerAlive, Bool.or_eq_true, List.any_eq_true]
  exact .inl (.inr ⟨found, member, by simp [Facade.uses, booked.alive, booked.provider]⟩)

/-! Facades that are left alone. -/

section
variable (facades : t.facades = s.facades)
include facades

theorem facade?_congr : t.facade? = s.facade? := by
  funext id
  rw [facade?, facades, facade?]

theorem recordOf?_congr : t.recordOf? = s.recordOf? := by
  funext id number
  rw [recordOf?, facade?_congr facades, recordOf?]

theorem behind?_congr : t.behind? = s.behind? := by
  funext name
  cases name <;> simp only [behind?, recordOf?_congr facades, facade?_congr facades]

theorem Booked.congr (booked : s.Booked router) : t.Booked router := fun id found there =>
  booked id found (facade?_congr facades ▸ there)

end

/-! One roster is replaced. -/

section
variable {found : Facade} {roster : Roster Nat Server Handle}
  (there : s.facade? id = some found)
  (facades : t.facades = (s.modifyRoster id fun _ => roster).facades)
include there facades

theorem facade?_reroster (other : Nat) : t.facade? other =
    if other = id then some { found with roster := roster } else s.facade? other := by
  rw [facade?, facades]
  split
  · rename_i same
    rw [same]
    exact facade?_modifyFacade there _
  · rename_i ne
    exact facade?_modifyFacade_ne (Ne.symm ne) _

theorem recordOf?_reroster (other number : Nat) : t.recordOf? other number =
    if other = id then roster.record? number else s.recordOf? other number := by
  rw [recordOf?, facade?_reroster there facades]
  split <;> rfl

/-- Only what stands behind one implementation is something else. -/
theorem behind?_reroster {underlying : Option Handle}
    (records : ∀ other, (roster.record? other).bind (·.underlying) =
      if other = number then underlying else (found.roster.record? other).bind (·.underlying))
    (listeners : roster.listeners = found.roster.listeners) (name : Release) : t.behind? name =
      if name = .facadeImplementation id number then underlying else s.behind? name := by
  cases name with
  | offer | subscription => exact (if_neg nofun).symm
  | facadeImplementation other entry =>
    simp only [behind?, recordOf?_reroster there facades]
    by_cases hit : other = id
    · simp [hit, records, recordOf?, there]
    · simp [hit]
  | facadeListener other entry =>
    simp only [behind?, facade?_reroster there facades]
    by_cases hit : other = id <;> simp [hit, Roster.listener?, listeners, there]

/-- Only what stands behind one listener is something else. -/
theorem behind?_relisten {underlying : Option Handle}
    (records : roster.records = found.roster.records)
    (listeners : ∀ other, roster.listener? other =
      if other = number then underlying else found.roster.listener? other) (name : Release) :
    t.behind? name =
      if name = .facadeListener id number then underlying else s.behind? name := by
  cases name with
  | offer | subscription => exact (if_neg nofun).symm
  | facadeImplementation other entry =>
    simp only [behind?, recordOf?_reroster there facades]
    by_cases hit : other = id <;> simp [hit, Roster.record?, records, recordOf?, there]
  | facadeListener other entry =>
    simp only [behind?, facade?_reroster there facades]
    by_cases hit : other = id
    · simp [hit, listeners, there]
    · simp [hit]

theorem Booked.reroster (booked : s.Booked router)
    (own : Facade.Booked router id { found with roster := roster }) : t.Booked router := by
  intro other facade inside
  rw [facade?_reroster there facades] at inside
  split at inside
  · rename_i same
    cases inside
    exact same ▸ own
  · exact booked other facade inside

theorem facades_reroster : t.facades ≠ [] := by
  have length : t.facades.length = s.facades.length := by
    rw [facades]
    exact List.length_modify ..
  have index := (List.getElem?_eq_some_iff.mp there).1
  intro none
  rw [none] at length
  exact absurd index (by simp [← length])

end

/-! What is heard. -/

theorem hearing_eq (s : State) (call : Call Watcher) :
    (s.notice call).filterMap Event.hearing? = s.parties.hearing call := by
  obtain ⟨registration, watcher, available, rpcs⟩ := call
  unfold notice Parties.hearing
  dsimp only
  rw [parties, List.getElem?_map]
  cases s.listeners[watcher.listener]? with
  | none => rfl
  | some found => cases watcher <;> rfl

theorem heard_eq {told : List (Delivery Watcher)} (notices : t.notifications =
    s.notifications ++ (told.flatMap Delivery.calls).flatMap s.notice) :
    t.heard = s.heard ++ s.parties.hearings told := by
  rw [heard, notices, List.filterMap_append, List.filterMap_flatMap]
  simp only [hearing_eq]
  rfl

theorem Beside.parties_eq (beside : Beside s t) : t.parties = s.parties := by
  rw [parties, beside.implementations, beside.listeners, parties]

/-- A change is made as it is made directly, and told to everybody before anything else is done. -/
theorem change_proceeds {before : Router Server Watcher} {change : Change Server Watcher}
    {rest : List Frame} (steady : s.Steady router) (top : s.frames = .change router change :: rest)
    (calm : s.panic = none) (there : s.router? router = some before) (booked : s.Booked router)
    (enters : ∀ offer ∈ (before.amend s.parties.accepts change).offers,
      s.Enters offer.implementation) :
    ∃ t, Proceeds s t ∧ t.frames = rest ∧ Beside s t ∧ t.Steady router ∧
      t.router? router = some (before.settle s.parties.accepts change) ∧
      t.heard = s.heard ++ s.parties.hearings (before.queuedBy s.parties.accepts change) := by
  obtain rfl : (s.desk router).router = before := by rw [desk, there, Option.getD_some]
  obtain ⟨t, leads, frames, routers, beside, steady', notices⟩ := change_leads steady top calm
  have same : ∀ offer ∈ ((s.desk router).router.amend s.parties.accepts change).offers, ∀ watcher,
      s.accepts watcher offer.implementation = s.parties.accepts watcher offer.implementation :=
    fun offer member => accepts_eq booked (enters offer member)
  obtain ⟨settle, queued⟩ := Router.settle_congr same
  rw [settle] at routers
  rw [queued] at notices
  exact ⟨t, leads.proceeds, frames, beside, steady', router?_modify there routers, heard_eq notices⟩

end State

/-! What is closed directly. -/

namespace Direct

variable (parties : Parties) (direct : Direct) (name : Release)

theorem take_close : direct.take parties (.close name) =
    match direct.registered name with
    | some change =>
      ⟨direct.router.settle parties.accepts change, Function.update direct.registered name none⟩
    | none => direct := by
  simp only [take, change?]
  cases direct.registered name <;> rfl

theorem registered_take_close (other : Release) :
    (direct.take parties (.close name)).registered other =
      if other = name then none else direct.registered other := by
  rw [take_close]
  cases there : direct.registered name with
  | some change => exact Function.update_apply ..
  | none =>
    by_cases same : other = name
    · rw [if_pos same, same]
      exact there
    · rw [if_neg same]

variable (withdraws : ∀ change, direct.registered name = some change → change.Withdraws)
include withdraws

theorem nextNumber_take_close :
    (direct.take parties (.close name)).router.nextNumber = direct.router.nextNumber := by
  rw [take_close]
  cases there : direct.registered name with
  | none => rfl
  | some change =>
    have withdraws := withdraws change there
    cases change <;> first | rfl | cases withdraws

/-- The offer that is taken back is gone, and there is none that was not there before. -/
theorem mem_offers_take_close {offer : Offer Server}
    (member : offer ∈ (direct.take parties (.close name)).router.offers) :
    offer ∈ direct.router.offers ∧
      direct.registered name ≠ some (.unregister offer.registration) := by
  rw [take_close] at member
  cases there : direct.registered name with
  | none =>
    rw [there] at member
    exact ⟨member, nofun⟩
  | some change =>
    rw [there] at member
    have left : offer ∈ (direct.router.amend parties.accepts change).offers := member
    refine ⟨mem_offers_withdraw (withdraws change there) left, ?_⟩
    rintro ⟨⟩
    simpa using (List.mem_filter.mp left).2

end Direct

namespace State

variable {s t : State} {router id number : Nat}

/-! The correspondence. -/

/-- A router that is used directly in the place of a session with facades over it. -/
structure Mirrors (router : Nat) (direct : Direct) (s : State) : Prop where
  there : s.router? router = some direct.router
  targets : ∀ home, s.targets.hasRouter home = true → home = router
  booked : s.Booked router
  facades : s.facades ≠ []
  /-- What has been registered through a facade is taken back as it is behind the facade. -/
  behind : ∀ name facade, name.facade? = some facade →
    direct.registered name = (s.behind? name).bind withdrawal?
  entered : ∀ offer ∈ direct.router.offers, ∀ id number implementation,
    offer.implementation = .adapted id number implementation →
      ∃ record, s.recordOf? id number = some record ∧ record.implementation = implementation ∧
        record.underlying = some (offered router offer.registration)
  handles : ∀ handle ∈ s.handles, ∀ name, handle.release = some name → name.facade? = none →
    RoutedTo router handle ∧ direct.registered name = withdrawal? handle
  apart : ∀ name, name.facade? = none → ∀ i j,
    s.releaseOf? i = some name → s.releaseOf? j = some name → i = j
  fresh : ∀ number, direct.router.nextNumber ≤ number →
    direct.registered (.offer router number) = none ∧
      direct.registered (.subscription router number) = none
  withdraws : ∀ name change, direct.registered name = some change → change.Withdraws
  names : ∀ entry ∈ s.handleNames, entry.2 < s.handles.length

namespace Mirrors

variable {direct : Direct} {name : Release} {parties : Parties} {change : Change Server Watcher}

/-- An adapter that has been offered is registered directly by its own name. -/
theorem registered_of_entered (mirrors : s.Mirrors router direct) {offer : Offer Server}
    (member : offer ∈ direct.router.offers) {implementation : Nat}
    (adapter : offer.implementation = .adapted id number implementation) :
    direct.registered (.facadeImplementation id number) =
      some (.unregister offer.registration) := by
  obtain ⟨record, entry, -, holds⟩ := mirrors.entered offer member id number implementation adapter
  rw [mirrors.behind (.facadeImplementation id number) id rfl, behind?, entry, Option.bind_some,
    holds]
  rfl

theorem enters (mirrors : s.Mirrors router direct) {offer : Offer Server}
    (member : offer ∈ direct.router.offers) : s.Enters offer.implementation := by
  intro id number implementation adapter
  obtain ⟨record, entry, its, -⟩ := mirrors.entered offer member id number implementation adapter
  exact ⟨record, entry, its⟩

/-- What a registration leaves behind when it is closed. -/
theorem closed (mirrors : s.Mirrors router direct)
    (routed : t.router? router = some (direct.take parties (.close name)).router)
    (targets : t.targets = s.targets) (handles : t.handles = s.handles)
    (handleNames : t.handleNames = s.handleNames) (booked : t.Booked router)
    (facades : t.facades ≠ [])
    (behind : ∀ other, t.behind? other = if other = name then none else s.behind? other)
    (entries : ∀ id number, .facadeImplementation id number ≠ name →
      t.recordOf? id number = s.recordOf? id number)
    (unnamed : name.facade? = none → ∀ handle ∈ s.handles, handle.release ≠ some name) :
    t.Mirrors router (direct.take parties (.close name)) := by
  have registered := direct.registered_take_close parties name
  have withdraws := mirrors.withdraws name
  constructor
  case there => exact routed
  case targets => exact targets ▸ mirrors.targets
  case booked => exact booked
  case facades => exact facades
  case behind =>
    intro other facade through
    rw [registered, behind]
    split
    · rfl
    · exact mirrors.behind other facade through
  case entered =>
    intro offer member id number implementation adapter
    obtain ⟨before, stays⟩ := direct.mem_offers_take_close parties name withdraws member
    rw [entries id number]
    · exact mirrors.entered offer before id number implementation adapter
    · rintro rfl
      exact stays (mirrors.registered_of_entered before adapter)
  case handles =>
    rw [handles]
    intro handle member other released direct
    obtain ⟨routed, own⟩ := mirrors.handles handle member other released direct
    refine ⟨routed, ?_⟩
    rw [registered, if_neg, own]
    rintro rfl
    exact unnamed direct handle member released
  case apart =>
    unfold releaseOf?
    rw [handles]
    exact mirrors.apart
  case fresh =>
    intro number later
    rw [direct.nextNumber_take_close parties name withdraws] at later
    obtain ⟨first, second⟩ := mirrors.fresh number later
    rw [registered, registered, first, second]
    simp
  case withdraws =>
    intro other change made
    rw [registered] at made
    split at made
    · contradiction
    · exact mirrors.withdraws other change made
  case names =>
    rw [handleNames, handles]
    exact mirrors.names

/-- What a new registration leaves behind, whose name is one of a facade or has the router's next
number. -/
theorem opened {taken : Change Server Watcher} (mirrors : s.Mirrors router direct)
    (next : (direct.router.amend parties.accepts change).nextNumber = direct.router.nextNumber + 1)
    (withdraws : taken.Withdraws)
    (named : name = .offer router direct.router.nextNumber ∨
      name = .subscription router direct.router.nextNumber ∨ name.facade? ≠ none)
    (routed : t.router? router = some (direct.router.settle parties.accepts change))
    (targets : t.targets = s.targets) (handles : t.handles = s.handles)
    (handleNames : t.handleNames = s.handleNames) (booked : t.Booked router)
    (facades : t.facades ≠ [])
    (behind : ∀ other facade, other.facade? = some facade → (t.behind? other).bind withdrawal? =
      if other = name then some taken else (s.behind? other).bind withdrawal?)
    (entries : ∀ id number record, s.recordOf? id number = some record →
      t.recordOf? id number = some record)
    (entered : ∀ offer ∈ (direct.router.amend parties.accepts change).offers,
      offer ∈ direct.router.offers ∨ ∀ id number implementation,
        offer.implementation = .adapted id number implementation →
          ∃ record, t.recordOf? id number = some record ∧ record.implementation = implementation ∧
            record.underlying = some (offered router offer.registration)) :
    t.Mirrors router ⟨direct.router.settle parties.accepts change,
      Function.update direct.registered name (some taken)⟩ := by
  have new (direct' : name.facade? = none) : direct.registered name = none := by
    obtain ⟨first, second⟩ := mirrors.fresh _ (Nat.le_refl _)
    rcases named with rfl | rfl | through
    · exact first
    · exact second
    · exact absurd direct' through
  let next' : Direct := ⟨direct.router.settle parties.accepts change,
    Function.update direct.registered name (some taken)⟩
  have registered (other : Release) : next'.registered other =
      if other = name then some taken else direct.registered other := Function.update_apply ..
  show t.Mirrors router next'
  constructor
  case there => exact routed
  case targets => exact targets ▸ mirrors.targets
  case booked => exact booked
  case facades => exact facades
  case behind =>
    intro other facade through
    rw [behind other facade through, registered]
    split
    · rfl
    · exact mirrors.behind other facade through
  case entered =>
    intro offer member id number implementation adapter
    rcases entered offer member with old | added
    · obtain ⟨record, entry, facts⟩ :=
        mirrors.entered offer old id number implementation adapter
      exact ⟨record, entries id number record entry, facts⟩
    · exact added id number implementation adapter
  case handles =>
    rw [handles]
    intro handle member other released own
    obtain ⟨routed, taken⟩ := mirrors.handles handle member other released own
    refine ⟨routed, ?_⟩
    rw [registered, if_neg, taken]
    -- No handle can have been given out for the new name yet.
    rintro rfl
    rw [new own] at taken
    rcases routed with closed | ⟨registration, opened | opened⟩
    · rw [released] at closed
      contradiction
    all_goals
      rw [withdrawal?, opened] at taken
      contradiction
  case apart =>
    unfold releaseOf?
    rw [handles]
    exact mirrors.apart
  case fresh =>
    intro number later
    have later : direct.router.nextNumber + 1 ≤ number := next ▸ later
    obtain ⟨first, second⟩ := mirrors.fresh number (by omega)
    have apart : .offer router number ≠ name ∧ .subscription router number ≠ name := by
      constructor <;> rintro rfl <;> rcases named with same | same | through <;>
        first | exact through rfl | (cases same <;> omega)
    rw [registered, registered, if_neg apart.1, if_neg apart.2]
    exact ⟨first, second⟩
  case withdraws =>
    intro other change made
    rw [registered] at made
    split at made
    · exact Option.some.inj made ▸ withdraws
    · exact mirrors.withdraws other change made
  case names =>
    rw [handleNames, handles]
    exact mirrors.names

/-- Work that leaves the facades alone. -/
theorem alike {other : Direct} (mirrors : s.Mirrors router direct)
    (there : t.router? router = some other.router)
    (registered : other.registered = direct.registered)
    (offers : other.router.offers = direct.router.offers)
    (nextNumber : other.router.nextNumber = direct.router.nextNumber)
    (targets : ∀ home, t.targets.hasRouter home = true → s.targets.hasRouter home = true)
    (facades : t.facades = s.facades)
    (handles : ∀ handle ∈ t.handles, ∀ name, handle.release = some name → name.facade? = none →
      RoutedTo router handle ∧ direct.registered name = withdrawal? handle)
    (apart : ∀ name, name.facade? = none → ∀ i j,
      t.releaseOf? i = some name → t.releaseOf? j = some name → i = j)
    (names : ∀ entry ∈ t.handleNames, entry.2 < t.handles.length) : t.Mirrors router other := by
  constructor
  case there => exact there
  case targets => exact fun home member => mirrors.targets home (targets home member)
  case booked => exact mirrors.booked.congr facades
  case facades => exact facades ▸ mirrors.facades
  case behind =>
    rw [registered, behind?_congr facades]
    exact mirrors.behind
  case entered =>
    rw [offers, recordOf?_congr facades]
    exact mirrors.entered
  case handles =>
    rw [registered]
    exact handles
  case apart => exact apart
  case fresh =>
    rw [registered, nextNumber]
    exact mirrors.fresh
  case withdraws => exact registered ▸ mirrors.withdraws
  case names => exact names

/-- Handles may be closed, and names be forgotten. -/
theorem less (mirrors : s.Mirrors router direct) (there : t.router? router = s.router? router)
    (targets : ∀ home, t.targets.hasRouter home = true → s.targets.hasRouter home = true)
    (facades : t.facades = s.facades) (length : t.handles.length = s.handles.length)
    (handles : ∀ (index : Nat) (handle : Handle), t.handles[index]? = some handle →
      handle.release ≠ none → s.handles[index]? = some handle)
    (names : ∀ entry ∈ t.handleNames, entry ∈ s.handleNames) : t.Mirrors router direct := by
  have old {index : Nat} {handle : Handle} {name : Release}
      (inside : t.handles[index]? = some handle) (released : handle.release = some name) :
      s.handles[index]? = some handle :=
    handles index handle inside (by rw [released]; exact nofun)
  have held {index : Nat} {name : Release} (holds : t.releaseOf? index = some name) :
      s.releaseOf? index = some name := by
    obtain ⟨handle, inside, released⟩ := Option.bind_eq_some_iff.mp holds
    rw [releaseOf?, old inside released]
    exact released
  apply mirrors.alike (there.trans mirrors.there) rfl rfl rfl targets facades
  · intro handle member name released
    obtain ⟨index, inside⟩ := List.mem_iff_getElem?.mp member
    exact mirrors.handles handle (List.mem_of_getElem? (old inside released)) name released
  · intro name direct i j first second
    exact mirrors.apart name direct i j (held first) (held second)
  · intro entry member
    rw [length]
    exact mirrors.names entry (names entry member)

/-- A new handle is kept under a name. -/
theorem kept {handle : Handle} {text : String} (mirrors : s.Mirrors router direct)
    (there : t.router? router = s.router? router) (targets : t.targets = s.targets)
    (facades : t.facades = s.facades) (handles : t.handles = s.handles ++ [handle])
    (handleNames : t.handleNames = bindName s.handleNames text s.handles.length)
    (known : ∀ name, handle.release = some name → name.facade? = none →
      RoutedTo router handle ∧ direct.registered name = withdrawal? handle)
    (new : ∀ name, handle.release = some name → name.facade? = none →
      ∀ other ∈ s.handles, other.release ≠ some name) : t.Mirrors router direct := by
  -- A release that is still held is an old one, or that of the new handle.
  have held {index : Nat} {name : Release} (holds : t.releaseOf? index = some name) :
      s.releaseOf? index = some name ∨ index = s.handles.length ∧ handle.release = some name := by
    obtain ⟨found, inside, released⟩ := Option.bind_eq_some_iff.mp holds
    rw [handles, List.getElem?_append] at inside
    split at inside
    · rw [releaseOf?, inside]
      exact .inl released
    · obtain rfl := List.mem_singleton.mp (List.mem_of_getElem? inside)
      obtain ⟨last, -⟩ := List.getElem?_eq_some_iff.mp inside
      rw [List.length_singleton] at last
      exact .inr ⟨by omega, released⟩
  have unheld {index : Nat} {name : Release} (direct : name.facade? = none)
      (released : handle.release = some name) : s.releaseOf? index ≠ some name := by
    intro holds
    obtain ⟨found, inside, same⟩ := Option.bind_eq_some_iff.mp holds
    exact new name released direct found (List.mem_of_getElem? inside) same
  apply mirrors.alike (there.trans mirrors.there) rfl rfl rfl (fun _ => targets ▸ id) facades
  · rw [handles]
    intro other member
    rcases List.mem_append.mp member with old | last
    · exact mirrors.handles other old
    · rw [List.mem_singleton.mp last]
      exact known
  · intro name direct i j first second
    rcases held first with old | ⟨rfl, released⟩ <;> rcases held second with old' | ⟨rfl, released'⟩
    · exact mirrors.apart name direct i j old old'
    · exact absurd old (unheld direct released')
    · exact absurd old' (unheld direct released)
    · rfl
  · rw [handleNames, handles, List.length_append]
    exact bindName_lt (fun entry member => Nat.lt_succ_of_lt (mirrors.names entry member))
      (Nat.lt_succ_self _) text

theorem adopted (mirrors : s.Mirrors router direct) (schema : Schema)
    (routed : t.router? router = some (direct.router.updateSchema schema))
    (targets : t.targets = s.targets) (facades : t.facades = s.facades)
    (handles : t.handles = s.handles) (handleNames : t.handleNames = s.handleNames) :
    t.Mirrors router { direct with router := direct.router.updateSchema schema } := by
  refine mirrors.alike routed rfl rfl rfl (fun _ => targets ▸ id) facades ?_ ?_ ?_
  · rw [handles]
    exact mirrors.handles
  · unfold releaseOf?
    rw [handles]
    exact mirrors.apart
  · rw [handleNames, handles]
    exact mirrors.names

end Mirrors
end State
end RpcRouting.Session
