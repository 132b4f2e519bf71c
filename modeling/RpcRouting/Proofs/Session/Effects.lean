import RpcRouting.Proofs.Facade.Keeping
import RpcRouting.Proofs.Session.Pushing
import RpcRouting.Proofs.Session.Releasing
/-! What a piece of work does to what facades have entered, to what routers have been offered and to
the handles that are kept, said once for all moves. Most work does nothing of this. -/
namespace RpcRouting.Session

/-- A frame that neither completes a registration nor changes a router nor keeps the handle of an
implementation that has been registered through a facade. -/
def Frame.isMinor : Frame → Bool
  | .complete _ _ _ | .change _ _ => false
  | .keep _ handle _ =>
    match handle.release with
    | some (.facadeImplementation _ _) => false
    | _ => true
  | _ => true

/-- Rosters that have the same implementations entered. -/
def Alike (after before : Roster Nat Server Handle) : Prop :=
  after.records = before.records ∧ after.owners = before.owners

/-- Whether a change offers a router the adapter of a facade. -/
def offersAdapter : Change Server Watcher → Bool
  | .register (.adapted _ _ _) _ _ => true
  | _ => false

namespace State

/-- Work that leaves alone what has been entered and offered, and keeps no new handles. -/
structure Minor (s t : State) : Prop where
  offers : ∀ {router found'}, t.router? router = some found' →
    ∃ found, s.router? router = some found ∧ found'.offers = found.offers
  entries : ∀ {id found'}, t.facade? id = some found' →
    ∃ found, s.facade? id = some found ∧ found'.provider = found.provider ∧
      (found'.life = .alive → found.life = .alive) ∧ Alike found'.roster found.roster
  handles : ∀ handle ∈ t.handles, handle ∈ s.handles ∨ handle.release = none
  frames : ∃ pushed, t.frames = pushed ++ s.frames ∧ ∀ frame ∈ pushed, frame.isMinor = true

/-- What a piece of work does, after the frame that called for it has been taken off the stack. -/
inductive Effect (s : State) : Option Frame → State → Prop
  | minor {top : Option Frame} {t : State} (minor : Minor s t) : Effect s top t
  | pushes {top : Option Frame} {between t : State} (router : Nat) (change : Change Server Watcher)
      (plain : offersAdapter change = false) (minor : Minor s between)
      (leaves : between.Leaves t [.change router change]) (calm : t.panic = none) : Effect s top t
  | offer {top : Option Frame} {between t : State} {id implementation cost : Nat} {found : Facade}
      (name : String) (rpcs : List Current.Identifier) (minor : Minor s between)
      (there : between.facade? id = some found) (alive : found.life = .alive)
      (leaves : (between.modifyRoster id
          (·.takeNumber.enter found.roster.nextNumber implementation
            (.adapted id found.roster.nextNumber implementation))).Leaves t
        (offerFrames found.provider (.adapted id found.roster.nextNumber implementation) cost rpcs ++
          [.complete id found.roster.nextNumber (between.offerHandle found.provider rpcs),
            .keep name (.opened () (.facadeImplementation id found.roster.nextNumber))
              (.registered false),
            .letGo (.facade id)])) (calm : t.panic = none) : Effect s top t
  | change (router : Nat) (change : Change Server Watcher) :
      Effect s (some (.change router change)) (s.change router change)
  | keep (name : String) (handle : Handle) (answer : Answer) :
      Effect s (some (.keep name handle answer)) (s.keep name handle answer)
  | attach {id number : Nat} {found : Facade} {record : Record Nat Server Handle}
      (underlying : Handle) (there : s.facade? id = some found)
      (entered : found.roster.record? number = some record) :
      Effect s (some (.complete id number underlying))
        (s.modifyRoster id fun _ => found.roster.setUnderlying number (some underlying))
  | release {id number : Nat} {found : Facade} {record : Record Nat Server Handle}
      (there : s.facade? id = some found) (entered : found.roster.record? number = some record) :
      Effect s (some (.release id number))
        ((s.modifyRoster id fun _ => found.roster.setUnderlying number none).push
          (record.underlying.toList.map .close ++ [.finishRelease id number]))
  | finish (id number : Nat) :
      Effect s (some (.finishRelease id number)) (s.finishRelease id number)

variable {s t u : State} {router id : Nat} {frame : Frame} {pushed : List Frame}
  {found : Facade} {services : List (Option Nat)}

theorem Frame.isMinor_of_idle (idle : frame.isIdle = true) : frame.isMinor = true := by
  cases frame with
  | keep name handle answer =>
    simp only [Frame.isIdle, isOfRouter, Frame.isMinor] at idle ⊢
    split at idle <;> simp_all
  | complete | change => cases idle
  | _ => rfl

namespace Minor

theorem refl (s : State) : Minor s s :=
  ⟨fun there => ⟨_, there, rfl⟩, fun there => ⟨_, there, rfl, fun alive => alive, rfl, rfl⟩,
    fun _ member => .inl member, [], rfl, nofun⟩

theorem trans (first : Minor s t) (second : Minor t u) : Minor s u := by
  obtain ⟨above, frames, minor⟩ := first.frames
  obtain ⟨later, frames', minor'⟩ := second.frames
  refine ⟨fun there => ?_, fun there => ?_, fun handle member => ?_, later ++ above, ?_, ?_⟩
  · obtain ⟨between, there, same⟩ := second.offers there
    obtain ⟨found, there, same'⟩ := first.offers there
    exact ⟨found, there, same.trans same'⟩
  · obtain ⟨between, there, provider, alive, records, owners⟩ := second.entries there
    obtain ⟨found, there, provider', alive', records', owners'⟩ := first.entries there
    exact ⟨found, there, provider.trans provider', alive' ∘ alive, records.trans records',
      owners.trans owners'⟩
  · exact (second.handles handle member).elim (first.handles handle) .inr
  · rw [frames', frames, List.append_assoc]
  · exact List.forall_mem_append.mpr ⟨minor', minor⟩

theorem leaves (leaves : s.Leaves t pushed) (minor : ∀ frame ∈ pushed, frame.isMinor = true) :
    Minor s t := by
  refine ⟨fun there => ⟨_, ?_, rfl⟩, fun there => ⟨_, ?_, rfl, fun alive => alive, rfl, rfl⟩,
    fun _ member => .inl (leaves.handles ▸ member), pushed, leaves.frames, minor⟩
  · rw [router?, ← leaves.routers]
    exact there
  · rw [facade?, ← leaves.facades]
    exact there

theorem push (s : State) {frames : List Frame} (minor : ∀ frame ∈ frames, frame.isMinor = true) :
    Minor s (s.push frames) := leaves (.push s frames) minor

theorem of_eq (routers : t.routers = s.routers) (facades : t.facades = s.facades)
    (frames : t.frames = s.frames) (handles : t.handles = s.handles) : Minor s t := by
  refine ⟨fun there => ⟨_, ?_, rfl⟩, fun there => ⟨_, ?_, rfl, fun alive => alive, rfl, rfl⟩,
    fun _ member => .inl (handles ▸ member), [], frames, nofun⟩
  · rw [router?, ← routers]
    exact there
  · rw [facade?, ← facades]
    exact there

theorem modifyFacade {f : Facade → Facade}
    (kept : ∀ found, s.facade? id = some found → (f found).provider = found.provider ∧
      ((f found).life = .alive → found.life = .alive) ∧ Alike (f found).roster found.roster) :
    Minor s (s.modifyFacade id f) := by
  refine ⟨fun there => ⟨_, there, rfl⟩, fun {other found'} there => ?_,
    fun _ member => .inl member, [], rfl, nofun⟩
  obtain ⟨found, old, ⟨rfl, rfl⟩ | ⟨-, rfl⟩⟩ := getElem?_of_modify there
  · exact ⟨found, old, kept found old⟩
  · exact ⟨found, old, rfl, fun alive => alive, rfl, rfl⟩

theorem modifyRoster {f : Roster Nat Server Handle → Roster Nat Server Handle}
    (kept : ∀ found, s.facade? id = some found → Alike (f found.roster) found.roster) :
    Minor s (s.modifyRoster id f) :=
  modifyFacade fun found there => ⟨rfl, fun alive => alive, kept found there⟩

theorem changes {found : Router Server Watcher} {after : Router Server Watcher}
    (changes : Changes router after pushed s t) (there : s.router? router = some found)
    (offers : after.offers = found.offers) (minor : ∀ frame ∈ pushed, frame.isMinor = true) :
    Minor s t := by
  refine ⟨fun {other found'} there' => ?_, fun there => ⟨_, ?_, rfl, fun alive => alive, rfl, rfl⟩,
    fun _ member => .inl (changes.handles ▸ member), pushed, changes.frames, minor⟩
  · by_cases same : router = other
    · subst same
      rw [changes.router?_eq (List.getElem?_eq_some_iff.mp there).1] at there'
      cases Option.some.inj there'
      exact ⟨found, there, offers⟩
    · exact ⟨found', changes.router?_ne same ▸ there', rfl⟩
  · rw [facade?, ← changes.facades]
    exact there

theorem letsGo (goes : s.LetsGo id t) : Minor s t := by
  cases goes with
  | kept => exact refl s
  | leaving => exact modifyFacade fun _ _ => ⟨rfl, nofun, rfl, rfl⟩
  | gone there before leaves' =>
    have turned : Minor s (s.modifyFacade id ({ · with life := .gone })) :=
      modifyFacade fun _ _ => ⟨rfl, nofun, rfl, rfl⟩
    exact turned.trans (leaves leaves' (by simp [Frame.isMinor]))

end Minor

/-! Steps. -/

/-- A change is put on top of work that is minor. -/
theorem Effect.of_change {top : Option Frame} {change : Change Server Watcher}
    (plain : offersAdapter change = false) (leaves : s.Leaves t (.change router change :: pushed))
    (minor : ∀ frame ∈ pushed, frame.isMinor = true) (calm : t.panic = none) : Effect s top t := by
  refine .pushes router change plain (.push s minor) ?_ calm
  exact ⟨leaves.routers, leaves.facades, leaves.frames, leaves.handles, leaves.panic⟩

theorem Effect.of_taken {top : Option Frame} (taken : s.Taken t) (calm : s.panic = none) :
    Effect s top t := by
  have idle {frames : List Frame} (idle : ∀ frame ∈ frames, frame.isIdle = true) :
      ∀ frame ∈ frames, frame.isMinor = true := fun frame member =>
    Frame.isMinor_of_idle (idle frame member)
  cases taken with
  | idle leaves free => exact .minor (.leaves leaves (idle free))
  | panic routers facades frames handles => exact .minor (.of_eq routers facades frames handles)
  | offer home implementation cost rpcs leaves free =>
    have calm := leaves.panic.trans calm
    unfold offerFrames at leaves
    split at leaves
    · exact .minor (.leaves leaves (idle free))
    · exact .of_change rfl leaves (idle free) calm
  | listen home listener leaves free =>
    exact .of_change rfl leaves (idle free) (leaves.panic.trans calm)
  | offerThrough name rpcs there alive leaves =>
    exact .offer name rpcs (.refl s) there alive leaves (leaves.panic.trans calm)
  | @listenThrough _ id listener found name there alive leaves =>
    have counted : Minor s (s.modifyRoster id (·.takeNumber)) := .modifyRoster fun _ _ => ⟨rfl, rfl⟩
    cases service : found.service with
    | none =>
      refine .minor (counted.trans (.leaves leaves ?_))
      simp [service, Frame.isMinor, Registration.opened]
    | some router =>
      have calm := leaves.panic.trans calm
      rw [service] at leaves
      let waiting : List Frame := [.completeListener id found.roster.nextNumber
        (s.subscriptionHandle router), .keep name (.opened () (.facadeListener id
          found.roster.nextNumber)) (.listening false), .letGo (.facade id)]
      have waits : Minor (s.modifyRoster id (·.takeNumber))
          ((s.modifyRoster id (·.takeNumber)).push waiting) :=
        .push _ (by simp [waiting, Frame.isMinor, Registration.opened])
      refine .pushes router (.listen (.wrapped id listener)) rfl (counted.trans waits) ?_ calm
      exact ⟨leaves.routers, leaves.facades, leaves.frames, leaves.handles, leaves.panic⟩
  | callThrough there alive leaves => exact .minor (.leaves leaves (by simp [Frame.isMinor]))
  | closeFacade there alive leaves =>
    refine .minor (.leaves leaves ?_)
    simp only [List.forall_mem_append, List.forall_mem_map]
    simp [Frame.isMinor]
  | abandon leaves goes =>
    exact .minor ((Minor.leaves leaves (by simp [Frame.isMinor])).trans (.letsGo goes))

theorem Effect.after {top : Option Frame} (minor : Minor s t) (calm : t.panic = none)
    (taken : t.Taken u) : Effect s top u := by
  have effect : Effect t none u := .of_taken taken calm
  cases effect with
  | minor later => exact .minor (minor.trans later)
  | pushes router change plain between leaves calm =>
    exact .pushes router change plain (minor.trans between) leaves calm
  | offer name rpcs between there alive leaves calm =>
    exact .offer name rpcs (minor.trans between) there alive leaves calm

/-! Frames. -/

theorem Effect.of_close {top : Option Frame} (minor : Minor s t) (calm : t.panic = none)
    (handle : Handle) : Effect s top (t.close handle) := by
  unfold State.close
  split
  · unfold State.release
    split <;> split <;>
      first
      | exact .minor minor
      | exact .pushes _ _ rfl minor (.push t _) calm
      | exact .minor (minor.trans (.push t (by simp [Frame.isMinor])))
  · exact .minor minor

theorem enter_effect (secure : s.Secure services) (calm : s.panic = none) (frame : Frame) :
    Effect s (some frame) (s.enter frame) := by
  have same {t : State} (routers : t.routers = s.routers) (facades : t.facades = s.facades)
      (frames : t.frames = s.frames) (handles : t.handles = s.handles) :
      Effect s (some frame) t := .minor (.of_eq routers facades frames handles)
  cases frame with
  | script steps =>
    cases steps with
    | nil => exact same rfl rfl rfl rfl
    | cons step rest =>
      have aside : Aside s (s.push [.report step.name, .script rest]) :=
        .push s (by simp [Frame.duty?])
      exact .after (.push s (by simp [Frame.isMinor])) calm
        (take_taken (aside.secure secure) step)
  | report | answer | answerClosed | finishListenerRelease | resume => exact same rfl rfl rfl rfl
  | change router change => exact .change router change
  | adopt router schema =>
    cases there : s.router? router with
    | none =>
      rw [(enter_missing there).2.1]
      exact same rfl rfl rfl rfl
    | some found =>
      exact .minor (.changes (adopt_changes there schema) there rfl (List.forall_mem_nil _))
  | deliver router =>
    cases there : s.router? router with
    | none =>
      rw [(enter_missing there).2.2]
      exact same rfl rfl rfl rfl
    | some found =>
      cases next : found.nextDelivery? with
      | none =>
        exact .minor (.changes (deliverNext_changes_of_none there next) there rfl
          (List.forall_mem_nil _))
      | some taken =>
        obtain ⟨queue, rest⟩ := (Router.nextDelivery?_eq_some ..).mp next
        refine .minor (.changes (deliverNext_changes_of_some there next) there (rest ▸ rfl) ?_)
        simp only [List.forall_mem_append, List.forall_mem_map]
        simp [Frame.isMinor]
  | call router call =>
    refine .minor ?_
    simp only [enter, State.callListener]
    split
    · exact .refl s
    · refine ⟨fun there => ⟨_, there, rfl⟩, fun there => ⟨_, there, rfl, fun alive => alive, rfl, rfl⟩,
        fun _ member => .inl member, [_, _], rfl, by simp [Frame.isMinor]⟩
  | keep name handle answer => exact .keep name handle answer
  | close handle => exact .of_close (.refl s) calm handle
  | closeKept handle =>
    simp only [enter, State.closeKept]
    split
    · rename_i found there
      refine .of_close (t := { s with handles := s.handles.modify handle (·.close) }) ?_ calm found
      refine ⟨fun there => ⟨_, there, rfl⟩, fun there => ⟨_, there, rfl, fun alive => alive, rfl, rfl⟩,
        fun kept member => ?_, [], rfl, List.forall_mem_nil _⟩
      rcases mem_of_modify member with ⟨before, -, rfl⟩ | old
      · exact .inr rfl
      · exact .inl old
    · exact same rfl rfl rfl rfl
  | complete id number underlying =>
    simp only [enter, State.complete]
    split
    · exact same rfl rfl rfl rfl
    · rename_i found there
      simp only [Roster.complete]
      cases entered : found.roster.record? number with
      | some record => exact .attach underlying there entered
      | none =>
        refine .minor ((Minor.modifyRoster (f := fun _ => found.roster) ?_).trans
          (.leaves (.trans (.note _ _ _ _) (.push _ _)) (by simp [Frame.isMinor])))
        intro other same
        exact Option.some.inj (there.symm.trans same) ▸ ⟨rfl, rfl⟩
  | completeListener id number underlying =>
    exact .minor ((Minor.modifyRoster (s := s) (f := (·.enterListener number underlying))
      fun _ _ => ⟨rfl, rfl⟩).trans (.leaves (.note _ _ _ _) (List.forall_mem_nil _)))
  | release id number =>
    simp only [enter, State.beginRelease]
    split
    · exact same rfl rfl rfl rfl
    · rename_i roster underlying begun
      obtain ⟨found, there, detached⟩ := Option.bind_eq_some_iff.mp begun
      obtain ⟨record, entered, rfl, rfl⟩ := Roster.detach?_eq_some.mp detached
      exact .release there entered
  | finishRelease id number => exact .finish id number
  | releaseListener id number =>
    simp only [enter, State.beginListenerRelease]
    split
    · exact same rfl rfl rfl rfl
    · exact .minor ((Minor.modifyRoster (s := s) (f := (·.removeListener number))
        fun _ _ => ⟨rfl, rfl⟩).trans (.push _ (by simp [Frame.isMinor])))
  | releaseListeners id =>
    simp only [enter, State.releaseListeners]
    split
    · exact same rfl rfl rfl rfl
    · refine .minor (.push s ?_)
      simp only [List.forall_mem_map]
      simp [Frame.isMinor]
  | letGo resource =>
    cases resource with
    | facade id => exact .minor (.letsGo (.of_letFacadeGo s id))
    | roster id => exact .minor (.letsGo (.of_letRosterGo s id))
    | router id => exact same rfl rfl rfl rfl
  | closeAll handles =>
    cases handles with
    | nil => exact same rfl rfl rfl rfl
    | cons handle rest => exact .minor (.push s (by simp [Frame.isMinor]))

/-- A panic leaves alone what has been entered and offered. -/
theorem giveUp_minor (message : String) (frame : Frame) : Minor s (s.giveUp message frame) := by
  have calmed : Minor s { s with panic := none } := .of_eq rfl rfl rfl rfl
  cases frame with
  | deliver router =>
    cases there : s.router? router with
    | none =>
      rw [giveUp, modifyRouter_missing there]
      exact .refl s
    | some found => exact .changes (stop_changes there) there rfl (List.forall_mem_nil _)
  | letGo resource =>
    have resumed : Minor s (State.push { s with panic := none } [.resume message]) :=
      calmed.trans (.push _ (by simp [Frame.isMinor]))
    cases resource with
    | facade id => exact resumed.trans (.letsGo (.of_letFacadeGo _ id))
    | roster id => exact resumed.trans (.letsGo (.of_letRosterGo _ id))
    | router id => exact resumed
  | closeAll handles =>
    have resumed : Minor s (State.push { s with panic := none } [.closeAll handles, .resume message]) :=
      calmed.trans (.push _ (by simp [Frame.isMinor]))
    exact resumed
  | _ => exact .refl s

/-- What a move does, with the work on top taken off the stack, or at rest. -/
theorem Move.effect {acts : List (Act Server Watcher)} (move : Move router s acts t)
    (secure : s.Secure services) :
    ∃ (below : State) (top : Option Frame), s = below.push top.toList ∧
      (top = none → below.frames = []) ∧ Effect below top t ∧ (s.panic ≠ none → Minor below t) := by
  cases move with
  | take rest calm step =>
    refine ⟨s, none, rfl, fun _ => rest, ?_, fun panicked => absurd calm panicked⟩
    have cleared : Aside s { s with log := [] } := .of_eq rfl rfl rfl
    exact .after (t := { s with log := [] }) (.of_eq rfl rfl rfl rfl) calm
      (take_taken (cleared.secure secure) step)
  | land rest panicked =>
    exact ⟨s, none, rfl, fun _ => rest, .minor (.of_eq rfl rfl rfl rfl),
      fun _ => .of_eq rfl rfl rfl rfl⟩
  | work busy =>
    obtain ⟨below, frame, rfl⟩ := eq_push_of_busy busy
    refine ⟨below, some frame, rfl, nofun, ?_⟩
    cases panicked : below.panic with
    | none =>
      rw [advance_push panicked]
      exact ⟨enter_effect (s := below) secure panicked frame, fun other => absurd panicked other⟩
    | some message =>
      rw [advance_push_of_panic panicked]
      exact ⟨.minor (giveUp_minor message frame), fun _ => giveUp_minor message frame⟩

/-! What becomes of the entries of a facade. -/

/-- Entries stay as they are, but for the one that the work on top is about; and a new one is named
after its adapter. -/
structure Amends (facade : Nat) (top : Option Frame) (before after : Roster Nat Server Handle) :
    Prop where
  from? : ∀ {id record}, (id, record) ∈ after.records →
    (∃ old, (id, old) ∈ before.records ∧ record.adapter = old.adapter ∧
      record.implementation = old.implementation) ∨
    record.adapter = .adapted facade id record.implementation
  kept : ∀ {id record}, (id, record) ∈ before.records → (id, record) ∈ after.records ∨
    (∃ underlying, top = some (.complete facade id underlying)) ∨
      top = some (.release facade id) ∨ top = some (.finishRelease facade id)
  stays : ∀ {id record}, (id, record) ∈ before.records →
    (∃ new, (id, new) ∈ after.records ∧ new.implementation = record.implementation) ∨
      top = some (.finishRelease facade id)
  paired : before.Paired → before.Numbered → before.adapters.Nodup → after.Paired

theorem Amends.of_alike {facade : Nat} {top : Option Frame}
    {before after : Roster Nat Server Handle} (alike : Alike after before) :
    Amends facade top before after := by
  obtain ⟨records, owners⟩ := alike
  refine ⟨fun member => .inl ⟨_, records ▸ member, rfl, rfl⟩, fun member => .inl (records ▸ member),
    fun member => .inl ⟨_, records ▸ member, rfl⟩, fun paired _ _ => ?_⟩
  rw [Roster.Paired, records, owners]
  exact paired

theorem mem_records_of_setUnderlying {I A U : Type} {roster : Roster I A U} {id number : Nat}
    {attached : Option U} {record : Record I A U}
    (member : (number, record) ∈ (roster.setUnderlying id attached).records) :
    ∃ old, (number, old) ∈ roster.records ∧ record.adapter = old.adapter ∧
      record.implementation = old.implementation := by
  rw [Roster.records_setUnderlying] at member
  obtain ⟨entry, old, same⟩ := List.mem_map.mp member
  split at same
  · rename_i hit
    obtain ⟨rfl, rfl⟩ := Prod.mk.inj same
    exact ⟨entry.2, hit ▸ old, rfl, rfl⟩
  · exact ⟨record, same ▸ old, rfl, rfl⟩

theorem mem_setUnderlying_self {I A U : Type} {roster : Roster I A U} {id : Nat}
    {record : Record I A U} (attached : Option U) (member : (id, record) ∈ roster.records) :
    (id, { record with underlying := attached }) ∈ (roster.setUnderlying id attached).records := by
  rw [Roster.records_setUnderlying]
  exact List.mem_map.mpr ⟨_, member, if_pos rfl⟩

theorem mem_setUnderlying_of_ne {I A U : Type} {roster : Roster I A U} {id number : Nat}
    {attached : Option U} {record : Record I A U} (ne : number ≠ id)
    (member : (number, record) ∈ roster.records) :
    (number, record) ∈ (roster.setUnderlying id attached).records := by
  rw [Roster.records_setUnderlying]
  exact List.mem_map.mpr ⟨_, member, if_neg ne⟩

theorem mem_remove_of_ne {I A U : Type} [DecidableEq A] {roster : Roster I A U} {id number : Nat}
    {record : Record I A U} (ne : number ≠ id) (member : (number, record) ∈ roster.records) :
    (number, record) ∈ (roster.remove id).records := by
  unfold Roster.remove
  split
  · exact member
  · exact List.mem_filter.mpr ⟨member, by simpa using ne⟩

theorem Amends.of_setUnderlying {facade number : Nat} {top : Option Frame}
    (roster : Roster Nat Server Handle) (attached : Option Handle)
    (about : (∃ underlying, top = some (.complete facade number underlying)) ∨
      top = some (.release facade number)) :
    Amends facade top roster (roster.setUnderlying number attached) := by
  refine ⟨fun member => .inl (mem_records_of_setUnderlying member), fun {id _} member => ?_,
    fun {id _} member => .inl ?_, fun paired _ _ => paired.setUnderlying _⟩
  · by_cases same : id = number
    · exact .inr (about.imp (same ▸ ·) fun its => .inl (same ▸ its))
    · exact .inl (mem_setUnderlying_of_ne same member)
  · by_cases same : id = number
    · subst same
      exact ⟨_, mem_setUnderlying_self attached member, rfl⟩
    · exact ⟨_, mem_setUnderlying_of_ne same member, rfl⟩

theorem facade?_of_modifyRoster {f : Roster Nat Server Handle → Roster Nat Server Handle}
    {other : Nat} {found' : Facade} (there : (s.modifyRoster id f).facade? other = some found') :
    ∃ found, s.facade? other = some found ∧ found'.provider = found.provider ∧
      found'.life = found.life ∧
      found'.roster = if id = other then f found.roster else found.roster := by
  obtain ⟨found, old, ⟨same, rfl⟩ | ⟨other, rfl⟩⟩ := getElem?_of_modify there
  · exact ⟨found, old, rfl, rfl, (if_pos same).symm⟩
  · exact ⟨found, old, rfl, rfl, (if_neg other).symm⟩

theorem Effect.facade? {top : Option Frame} {facade : Nat} {found' : Facade} (effect : Effect s top t)
    (there : t.facade? facade = some found') :
    ∃ found, s.facade? facade = some found ∧ found'.provider = found.provider ∧
      (found'.life = .alive → found.life = .alive) ∧
      Amends facade top found.roster found'.roster := by
  have modified {id : Nat} {f : Roster Nat Server Handle → Roster Nat Server Handle}
      (there : (s.modifyRoster id f).facade? facade = some found')
      (amends : ∀ found, s.facade? facade = some found → id = facade →
        Amends facade top found.roster (f found.roster)) :
      ∃ found, s.facade? facade = some found ∧ found'.provider = found.provider ∧
        (found'.life = .alive → found.life = .alive) ∧
        Amends facade top found.roster found'.roster := by
    obtain ⟨found, old, provider, life, same⟩ := facade?_of_modifyRoster there
    refine ⟨found, old, provider, fun alive => life ▸ alive, ?_⟩
    split at same
    · rename_i own
      exact same ▸ amends found old own
    · exact same ▸ .of_alike ⟨rfl, rfl⟩
  cases effect with
  | minor minor =>
    obtain ⟨found, old, provider, alive, records⟩ := minor.entries there
    exact ⟨found, old, provider, alive, .of_alike records⟩
  | @pushes _ between _ router change plain minor leaves =>
    rw [State.facade?, leaves.facades] at there
    obtain ⟨found, old, provider, alive, records⟩ := minor.entries there
    exact ⟨found, old, provider, alive, .of_alike records⟩
  | @offer _ between _ id implementation cost home name rpcs minor home' alive leaves =>
    rw [State.facade?, leaves.facades] at there
    obtain ⟨found, inside, provider, life, same⟩ := facade?_of_modifyRoster there
    obtain ⟨old, before, provider', alive', records, owners⟩ := minor.entries inside
    refine ⟨old, before, provider.trans provider', fun alive => alive' (life ▸ alive), ?_⟩
    split at same
    · rename_i own
      subst own
      cases home'.symm.trans inside
      have entered : found'.roster.records = old.roster.records ++
          [(home.roster.nextNumber, ⟨implementation,
            .adapted id home.roster.nextNumber implementation, none⟩)] := by
        rw [same, ← records]
        rfl
      refine ⟨fun member => ?_, fun member => .inl ?_, fun member => .inl ⟨_, ?_, rfl⟩,
        fun paired _ _ => ?_⟩
      · rw [entered] at member
        rcases List.mem_append.mp member with old | new
        · exact .inl ⟨_, old, rfl, rfl⟩
        · cases List.mem_singleton.mp new
          exact .inr rfl
      · rw [entered]
        exact List.mem_append_left _ member
      · rw [entered]
        exact List.mem_append_left _ member
      · rw [Roster.Paired, ← records, ← owners] at paired
        exact same ▸ Roster.Paired.enter paired implementation _
    · exact same ▸ .of_alike ⟨records, owners⟩
  | change router change =>
    rw [State.facade?, (Aside.change s router change).facades] at there
    exact ⟨found', there, rfl, fun alive => alive, .of_alike ⟨rfl, rfl⟩⟩
  | keep name handle answer =>
    exact ⟨found', there, rfl, fun alive => alive, .of_alike ⟨rfl, rfl⟩⟩
  | @attach id number found record underlying home entered =>
    refine modified there fun other same own => ?_
    subst own
    cases home.symm.trans same
    exact .of_setUnderlying _ _ (.inl ⟨underlying, rfl⟩)
  | @release id number found record home entered =>
    refine modified (f := fun _ => found.roster.setUnderlying number none) there
      fun other same own => ?_
    subst own
    cases home.symm.trans same
    exact .of_setUnderlying _ _ (.inr rfl)
  | finish id number =>
    refine modified (f := (·.remove number)) there fun other same own => ?_
    subst own
    refine ⟨fun member => .inl ⟨_, Roster.mem_records_remove member, rfl, rfl⟩,
      fun {entry _} member => ?_, fun {entry _} member => ?_, Roster.Paired.remove⟩
    · by_cases hit : entry = number
      · exact .inr (.inr (.inr (by rw [hit])))
      · exact .inl (mem_remove_of_ne hit member)
    · by_cases hit : entry = number
      · exact .inr (by rw [hit])
      · exact .inl ⟨_, mem_remove_of_ne hit member, rfl⟩

/-! What becomes of the offers of a router. -/

theorem router?_of_change {change : Change Server Watcher} {other : Nat}
    {after : Router Server Watcher} (there : (s.change other change).router? router = some after) :
    ∃ before, s.router? router = some before ∧
      after.offers = if other = router then (before.amend s.accepts change).offers
        else before.offers := by
  cases home : s.router? other with
  | none =>
    have same : s.change other change = s := (enter_missing home).1 change
    rw [same] at there
    refine ⟨after, there, ?_⟩
    rw [if_neg]
    rintro rfl
    cases home.symm.trans there
  | some found =>
    have changes := change_changes home change
    by_cases same : other = router
    · subst same
      rw [changes.router?_eq (List.getElem?_eq_some_iff.mp home).1] at there
      refine ⟨found, home, ?_⟩
      rw [if_pos rfl, ← Option.some.inj there, Router.offers_onDuty, Router.offers_apply]
    · rw [changes.router?_ne same] at there
      exact ⟨after, there, by rw [if_neg same]⟩

/-- A router has the offers that it had, and one that is made to it. -/
theorem Effect.router? {top : Option Frame} {after : Router Server Watcher}
    (effect : Effect s top t) (there : t.router? router = some after) :
    ∃ before, s.router? router = some before ∧ ∀ offer ∈ after.offers, offer ∈ before.offers ∨
      offer.registration = before.nextNumber ∧ ∃ cost rpcs,
        top = some (.change router (.register offer.implementation cost rpcs)) := by
  have minor {u : State} (minor : Minor s u) (there : u.router? router = some after) :
      ∃ before, s.router? router = some before ∧ ∀ offer ∈ after.offers, offer ∈ before.offers ∨
        offer.registration = before.nextNumber ∧ ∃ cost rpcs,
          top = some (.change router (.register offer.implementation cost rpcs)) := by
    obtain ⟨before, old, same⟩ := minor.offers there
    exact ⟨before, old, fun offer member => .inl (same ▸ member)⟩
  have refl (there : s.router? router = some after) := minor (.refl s) there
  cases effect with
  | minor only => exact minor only there
  | pushes _ _ _ only leaves =>
    rw [State.router?, leaves.routers] at there
    exact minor only there
  | offer _ _ only _ _ leaves =>
    rw [State.router?, leaves.routers] at there
    exact minor only there
  | change other change =>
    obtain ⟨before, old, same⟩ := router?_of_change there
    refine ⟨before, old, fun offer member => ?_⟩
    rw [same] at member
    split at member
    · rename_i own
      subst own
      cases change with
      | register implementation cost rpcs =>
        rcases List.mem_append.mp member with old | new
        · exact .inl old
        · cases List.mem_singleton.mp new
          exact .inr ⟨rfl, cost, rpcs, rfl⟩
      | unregister registration => exact .inl (List.mem_of_mem_filter member)
      | listen | unlisten => exact .inl member
    · exact .inl member
  | keep => exact refl there
  | attach => exact refl there
  | release => exact refl there
  | finish => exact refl there

end State
end RpcRouting.Session
