import RpcRouting.Proofs.Facade.Keeping
import RpcRouting.Proofs.Session.Effects
import RpcRouting.Proofs.Session.Ousting
import RpcRouting.Proofs.Session.Routing
/-! How a session enters implementations with its facades. Each adapter is named after its entry, the
entry is made before the adapter is offered to the router, and the handle is kept afterwards. -/
namespace RpcRouting.Session

/-- The number under which the adapter of a facade is entered. -/
def number : Server → Nat
  | .native _ => 0
  | .adapted _ registration _ => registration

namespace State

variable {s t between : State} {deals now : List (Deal Handle)} {services : List (Option Nat)}
  {top : Option Frame} {pushed : List Frame} {facade id : Nat}

/-! What passes by a move. -/

/-- What passes between facades and routers as a frame goes on. -/
inductive Passes (s : State) : Frame → Deal Handle → Prop
  | handed (facade id : Nat) (underlying : Handle) :
      Passes s (.complete facade id underlying) (.handed facade id underlying)
  | handedListener (facade id : Nat) (underlying : Handle) :
      Passes s (.completeListener facade id underlying) (.handedListener facade id underlying)
  | released (handle : Handle) : Passes s (.close handle) (.released handle)
  | closed {frame : Frame} {facade id : Nat} {handle : Handle}
      (released : handle.release = some (.facadeImplementation facade id))
      (closes : frame = .close handle ∨ handle ∈ s.handles) : Passes s frame (.closed facade id)
  | closedListener (frame : Frame) (facade id : Nat) : Passes s frame (.closedListener facade id)

theorem passes_of_closes {frame : Frame} {handle : Handle} {deal : Deal Handle}
    (closes : frame = .close handle ∨ handle ∈ s.handles) (member : deal ∈ s.closes handle) :
    Passes s frame deal := by
  unfold State.closes at member
  split at member
  · rename_i released
    split at member
    · cases List.mem_singleton.mp member
      exact .closed released closes
    · cases member
  · split at member
    · cases List.mem_singleton.mp member
      exact .closedListener ..
    · cases member
  · cases member

theorem passes_of_mem {frame : Frame} {deal : Deal Handle} (member : deal ∈ s.deals frame) :
    Passes s frame deal := by
  cases frame with
  | complete facade id underlying =>
    cases List.mem_singleton.mp member
    exact .handed ..
  | completeListener facade id underlying =>
    cases List.mem_singleton.mp member
    exact .handedListener ..
  | close handle =>
    rcases List.mem_cons.mp member with rfl | closed
    · exact .released handle
    · exact passes_of_closes (.inl rfl) closed
  | closeKept kept =>
    simp only [deals] at member
    cases there : s.handles[kept]? with
    | none => simp [there] at member
    | some handle =>
      rw [there] at member
      exact passes_of_closes (.inr (List.mem_of_getElem? there)) member
  | _ => cases member

/-- What passes comes of the work on top of the stack, or is the beginning of new work. -/
theorem passed_of_mem {deal : Deal Handle} (member : deal ∈ s.dealings t) :
    (∃ (below : State) (frame : Frame), s = below.push [frame] ∧
      (s.panic = none ∧ Passes s frame deal ∨ s.panic ≠ none ∧ deal ∈ losses frame)) ∨
    ∃ frame ∈ t.frames, deal ∈ frame.begins := by
  rcases List.mem_append.mp member with passed | new
  · unfold passes at passed
    split at passed
    · cases passed
    · rename_i frame rest top
      obtain ⟨below, same, -⟩ := eq_push_of_top top
      refine .inl ⟨below, frame, same, ?_⟩
      split at passed
      · rename_i calm
        exact .inl ⟨Option.isNone_iff_eq_none.mp calm, passes_of_mem passed⟩
      · rename_i panicked
        exact .inr ⟨fun calm => panicked (by simp [calm]), passed⟩
  · obtain ⟨frame, taken, begins⟩ := List.mem_flatMap.mp new
    exact .inr ⟨frame, List.mem_of_mem_take taken, begins⟩

theorem cut_of_losses {deal : Deal Handle} {frame : Frame} (member : deal ∈ losses frame) :
    (∃ facade id, deal = .cut facade id) ∨ ∃ facade, deal = .cutListeners facade := by
  obtain ⟨duty, -, cuts⟩ := Option.bind_eq_some_iff.mp (Option.mem_toList.mp member)
  cases duty <;> cases cuts <;> simp

/-- A facade is given a registration by the work that brings it. -/
theorem top_of_handed {underlying : Handle} (member : .handed facade id underlying ∈ s.dealings t) :
    s.panic = none ∧ ∃ below : State, s = below.push [.complete facade id underlying] := by
  rcases passed_of_mem member with ⟨below, frame, same, ⟨calm, passes⟩ | ⟨-, lost⟩⟩ | ⟨frame, -, new⟩
  · cases passes with
    | handed => exact ⟨calm, below, same⟩
  · obtain ⟨_, _, other⟩ | ⟨_, other⟩ := cut_of_losses lost <;> cases other
  · cases frame <;> simp [Frame.begins] at new

/-- The handle of an implementation is closed where it is kept, or as something to be closed. -/
theorem top_of_closed (member : .closed facade id ∈ s.dealings t) :
    ∃ (below : State) (handle : Handle),
      handle.release = some (.facadeImplementation facade id) ∧
        (s = below.push [.close handle] ∨ handle ∈ s.handles) := by
  rcases passed_of_mem member with ⟨below, frame, same, ⟨-, passes⟩ | ⟨-, lost⟩⟩ | ⟨frame, -, new⟩
  · cases passes with
    | closed released closes =>
      rcases closes with rfl | kept
      · exact ⟨below, _, released, .inl same⟩
      · exact ⟨below, _, released, .inr kept⟩
  · obtain ⟨_, _, other⟩ | ⟨_, other⟩ := cut_of_losses lost <;> cases other
  · cases frame <;> simp [Frame.begins] at new

/-- Only a panic cuts a release short. -/
theorem panic_of_cut (member : .cut facade id ∈ s.dealings t) : s.panic ≠ none := by
  rcases passed_of_mem member with ⟨below, frame, -, ⟨-, passes⟩ | ⟨panicked, -⟩⟩ | ⟨frame, -, new⟩
  · cases passes
  · exact panicked
  · cases frame <;> simp [Frame.begins] at new

/-- A registration that begins is then being made. -/
theorem making_of_began (member : .began facade id ∈ s.dealings t) :
    .complete facade id ∈ t.custody.duties := by
  rcases passed_of_mem member with ⟨below, frame, -, ⟨-, passes⟩ | ⟨-, lost⟩⟩ | ⟨frame, inside, new⟩
  · cases passes
  · obtain ⟨_, _, other⟩ | ⟨_, other⟩ := cut_of_losses lost <;> cases other
  · refine List.mem_filterMap.mpr ⟨frame, inside, ?_⟩
    cases frame <;> simp [Frame.begins] at new
    obtain ⟨rfl, rfl⟩ := new
    rfl

/-! What is put on the stack. -/

/-- A router is about to be offered the adapter of an implementation that has been entered, and the
facade is about to be given the registration that this makes. -/
def Expects (s : State) (router facade id implementation : Nat) (rest : List Frame) : Prop :=
  ∃ found record, s.facade? facade = some found ∧ found.provider = router ∧
    (id, record) ∈ found.roster.records ∧ record.implementation = implementation ∧
      ∀ delegate, s.router? router = some delegate →
        .complete facade id (.opened () (.offer router delegate.nextNumber)) ∈ rest

/-- Changes are made at once, and handles are kept for what has been entered. -/
structure Piles (s : State) (frames : List Frame) : Prop where
  below : ∀ router change, .change router change ∉ frames.tail
  calm : ∀ router change, .change router change ∈ frames → s.panic = none
  offers : ∀ router facade id implementation cost rpcs rest,
    frames = .change router (.register (.adapted facade id implementation) cost rpcs) :: rest →
      s.Expects router facade id implementation rest
  keeps : ∀ name handle answer, .keep name handle answer ∈ frames →
    ∀ facade id, handle.release = some (.facadeImplementation facade id) →
      ∃ found, s.facade? facade = some found ∧ id ∈ found.roster.numbers

theorem Piles.of_minor {frames : List Frame} (minor : ∀ frame ∈ frames, frame.isMinor = true)
    (s : State) : Piles s frames := by
  have free (router : Nat) (change : Change Server Watcher) : .change router change ∉ frames :=
    fun member => by cases minor _ member
  refine ⟨fun router change member => free router change (List.mem_of_mem_tail member),
    fun router change member => absurd member (free router change), ?_, ?_⟩
  · rintro router facade id implementation cost rpcs rest rfl
    exact absurd List.mem_cons_self (free _ _)
  · intro name handle answer member facade id release
    have minor := minor _ member
    simp [Frame.isMinor, release] at minor

/-- Minor work may stand below. -/
theorem Piles.append {first second : List Frame} (piles : Piles s first)
    (minor : ∀ frame ∈ second, frame.isMinor = true) : Piles s (first ++ second) := by
  have free (router : Nat) (change : Change Server Watcher) : .change router change ∉ second :=
    fun member => by cases minor _ member
  cases first with
  | nil => exact .of_minor minor s
  | cons top rest =>
    refine ⟨fun router change member => ?_, fun router change member => ?_, ?_, ?_⟩
    · exact (List.mem_append.mp member).elim (piles.below router change) (free router change)
    · exact piles.calm router change ((List.mem_append.mp member).resolve_right (free router change))
    · intro router facade id implementation cost rpcs below same
      obtain ⟨rfl, rfl⟩ := List.cons.inj same
      obtain ⟨found, record, there, provider, entered, its, given⟩ :=
        piles.offers router facade id implementation cost rpcs rest rfl
      exact ⟨found, record, there, provider, entered, its,
        fun delegate known => List.mem_append_left _ (given delegate known)⟩
    · intro name handle answer member facade id release
      rcases List.mem_append.mp member with new | old
      · exact piles.keeps name handle answer new facade id release
      · have minor := minor _ old
        simp [Frame.isMinor, release] at minor

/-- What a facade puts on the stack to register an implementation that it has entered. -/
theorem piles_offer {implementation cost : Nat} {found : Facade} {name : String}
    {rpcs : List Current.Identifier} (there : s.facade? id = some found)
    (leaves : (s.modifyRoster id (·.takeNumber.enter found.roster.nextNumber implementation
      (.adapted id found.roster.nextNumber implementation))).Leaves t pushed)
    (calm : t.panic = none) :
    Piles t (offerFrames found.provider (.adapted id found.roster.nextNumber implementation) cost
      rpcs ++ [.complete id found.roster.nextNumber (s.offerHandle found.provider rpcs),
        .keep name (.opened () (.facadeImplementation id found.roster.nextNumber))
          (.registered false), .letGo (.facade id)]) := by
  have home : t.facade? id = some { found with
      roster := found.roster.takeNumber.enter found.roster.nextNumber implementation
        (.adapted id found.roster.nextNumber implementation) } := by
    rw [State.facade?, leaves.facades]
    exact facade?_modifyFacade there _
  refine ⟨?_, fun _ _ _ => calm, ?_, ?_⟩
  · unfold offerFrames
    split <;> simp
  · intro router facade number other cost' rpcs' rest same
    unfold offerFrames at same
    split at same
    · cases same
    · rename_i filled
      obtain ⟨head, rfl⟩ := List.cons.inj same
      simp only [Frame.change.injEq, Change.register.injEq, Server.adapted.injEq] at head
      obtain ⟨rfl, ⟨rfl, rfl, rfl⟩, rfl, rfl⟩ := head
      refine ⟨_, _, home, rfl, List.mem_append_right _ List.mem_cons_self, rfl,
        fun delegate known => ?_⟩
      rw [router?, leaves.routers] at known
      have given : s.offerHandle found.provider rpcs =
          .opened () (.offer found.provider delegate.nextNumber) := by
        have known : s.router? found.provider = some delegate := known
        simp only [offerHandle, known]
        rw [if_neg filled]
      simp [given]
  · intro name' handle answer member facade number release
    have same : handle = .opened () (.facadeImplementation id found.roster.nextNumber) := by
      unfold offerFrames at member
      split at member <;> simp at member <;> exact member.2.1
    rw [same] at release
    obtain ⟨rfl, rfl⟩ : id = facade ∧ found.roster.nextNumber = number := by
      simpa [Registration.opened] using release
    exact ⟨_, home, by simp [Roster.numbers, Roster.enter]⟩

theorem Effect.frames (effect : Effect s top t) :
    ∃ pushed, t.frames = pushed ++ s.frames ∧ Piles t pushed := by
  cases effect with
  | minor minor =>
    obtain ⟨pushed, frames, minor⟩ := minor.frames
    exact ⟨pushed, frames, .of_minor minor t⟩
  | pushes router change plain minor leaves calm =>
    obtain ⟨pushed, frames, minor⟩ := minor.frames
    refine ⟨.change router change :: pushed, ?_, ?_⟩
    · rw [leaves.frames, frames]
      rfl
    · refine (show Piles t [.change router change] from
        ⟨by simp, fun _ _ _ => calm, ?_, ?_⟩).append minor
      · intro router facade id implementation cost rpcs rest same
        simp only [List.cons.injEq, Frame.change.injEq] at same
        rw [same.1.2] at plain
        cases plain
      · simp
  | offer name rpcs minor there alive leaves calm =>
    obtain ⟨pushed, frames, minor⟩ := minor.frames
    have grown := (leaves.frames.trans (congrArg _ frames)).trans (List.append_assoc ..).symm
    exact ⟨_, grown, (piles_offer there leaves calm).append minor⟩
  | change router change =>
    cases there : s.router? router with
    | none =>
      have same : s.change router change = s := (enter_missing there).1 change
      exact ⟨[], by rw [same]; rfl, .of_minor (by simp) _⟩
    | some found =>
      refine ⟨_, (change_changes there change).frames, .of_minor (fun frame member => ?_) _⟩
      rw [mem_dutyAfter member]
      rfl
  | keep name handle answer =>
    refine ⟨_, rfl, .of_minor ?_ _⟩
    simp only [List.forall_mem_append, List.forall_mem_map]
    simp [Frame.isMinor]
  | attach => exact ⟨[], rfl, .of_minor (by simp) _⟩
  | release =>
    refine ⟨_, rfl, .of_minor ?_ _⟩
    simp only [List.forall_mem_append, List.forall_mem_map]
    simp [Frame.isMinor]
  | finish => exact ⟨[], rfl, .of_minor (by simp) _⟩

/-- Handles are kept by the work that keeps them. -/
theorem Effect.handles (effect : Effect s top t) {handle : Handle} (member : handle ∈ t.handles) :
    handle ∈ s.handles ∨ handle.release = none ∨
      ∃ name answer, top = some (.keep name handle answer) := by
  have minor {u : State} (minor : Minor s u) (same : t.handles = u.handles) :
      handle ∈ s.handles ∨ handle.release = none ∨
        ∃ name answer, top = some (.keep name handle answer) :=
    (minor.handles handle (same ▸ member)).imp_right .inl
  cases effect with
  | minor only => exact minor only rfl
  | pushes _ _ _ only leaves => exact minor only leaves.handles
  | offer _ _ only _ _ leaves => exact minor only leaves.handles
  | change router change =>
    cases there : s.router? router with
    | none =>
      have same : s.change router change = s := (enter_missing there).1 change
      exact .inl (same ▸ member)
    | some found => exact .inl ((change_changes there change).handles ▸ member)
  | keep name kept answer =>
    rcases List.mem_append.mp member with old | new
    · exact .inl old
    · cases List.mem_singleton.mp new
      exact .inr (.inr ⟨name, answer, rfl⟩)
  | attach | release | finish => exact .inl member

/-! Moves and runs. -/

/-- How facades have entered implementations, and what they have issued for them. -/
structure Entering (deals : List (Deal Handle)) (s : State) : Prop where
  /-- Adapters are named after their entries. -/
  named : ∀ {facade found}, s.facade? facade = some found → ∀ {id record},
    (id, record) ∈ found.roster.records → record.adapter = .adapted facade id record.implementation
  paired : ∀ {facade found}, s.facade? facade = some found → found.roster.Paired
  below : ∀ router change, .change router change ∉ s.frames.tail
  calm : ∀ router change, .change router change ∈ s.frames → s.panic = none
  offers : ∀ router facade id implementation cost rpcs rest,
    s.frames = .change router (.register (.adapted facade id implementation) cost rpcs) :: rest →
      s.Expects router facade id implementation rest
  keeps : ∀ name handle answer, .keep name handle answer ∈ s.frames →
    ∀ facade id, handle.release = some (.facadeImplementation facade id) → .began facade id ∈ deals
  handles : ∀ handle ∈ s.handles, ∀ facade id,
    handle.release = some (.facadeImplementation facade id) → .began facade id ∈ deals
  closed : ∀ facade id, .closed facade id ∈ deals → GivenUp deals facade id

/-- All that is known of a session and of what has passed in it. -/
structure Observed (deals : List (Deal Handle)) (s : State) : Prop where
  tidy : ∃ services, s.Tidy services
  sound : Sound deals s.custody
  kept : ∀ {facade holding}, s.custody.facades[facade]? = some holding →
    Kept facade deals s.custody.duties holding.roster
  routed : s.Behind fun handle => ∃ router, RoutedTo router handle
  entering : Entering deals s

/-- Adapters of different entries have different names. -/
theorem Entering.apart {found : Facade} (entering : Entering deals s)
    (there : s.facade? facade = some found) (numbered : found.roster.Numbered) :
    found.roster.adapters.Nodup := by
  refine List.Nodup.of_map number ?_
  have same : found.roster.adapters.map number = found.roster.numbers := by
    rw [Roster.adapters, List.map_map]
    refine List.map_congr_left fun entry member => ?_
    rw [Function.comp_apply, entering.named there member]
    rfl
  rw [same]
  exact numbered.records

theorem Entering.not_mem_below {below : State} (entering : Entering deals (below.push top.toList))
    (idle : top = none → below.frames = []) (router : Nat) (change : Change Server Watcher) :
    .change router change ∉ below.frames := by
  cases top with
  | none => simp [idle rfl]
  | some frame => exact entering.below router change

theorem Entering.onward (entering : Entering deals s) (dealing : Dealing s now t)
    (secure : s.Secure services) (sound : Sound deals s.custody)
    (routed : s.Behind fun handle => ∃ router, RoutedTo router handle)
    (kept : ∀ {facade holding}, t.custody.facades[facade]? = some holding →
      Kept facade (deals ++ now) t.custody.duties holding.roster) :
    Entering (deals ++ now) t := by
  obtain ⟨rfl, router, acts, move⟩ := dealing
  have issued (handle : Handle) (member : handle ∈ s.handles ∨
      ∃ name answer, .keep name handle answer ∈ s.frames) (facade id : Nat)
      (release : handle.release = some (.facadeImplementation facade id)) :
      .began facade id ∈ deals := by
    rcases member with member | ⟨name, answer, member⟩
    · exact entering.handles handle member facade id release
    · exact entering.keeps name handle answer member facade id release
  have closed (facade id : Nat) (made : .closed facade id ∈ deals ++ s.dealings t) :
      GivenUp (deals ++ s.dealings t) facade id := by
    rcases List.mem_append.mp made with early | late
    · exact (entering.closed facade id early).imp (·.trans (List.sublist_append_left _ _))
        (·.trans (List.sublist_append_left _ _))
    · obtain ⟨below, handle, release, rfl | member⟩ := top_of_closed late
      · obtain ⟨home, none | ⟨registration, its | its⟩⟩ :=
          routed.frames (.close handle) List.mem_cons_self handle (by simp [Frame.underlyings])
        · cases none.symm.trans release
        · cases its.symm.trans release
        · cases its.symm.trans release
      · have began := issued handle (.inl member) facade id release
        exact .inl ((List.singleton_sublist.mpr began).append (List.singleton_sublist.mpr late))
  obtain ⟨below, top, rfl, idle, effect, -⟩ := Move.effect move secure
  obtain ⟨pushed, frames, piles⟩ := effect.frames
  have free := entering.not_mem_below idle
  refine ⟨?_, ?_, fun other change member => ?_, fun other change member => ?_, ?_, ?_, ?_, closed⟩
  · intro facade found there id record member
    obtain ⟨before, old, -, -, amends⟩ := effect.facade? there
    rcases amends.from? member with ⟨record', inside, adapter, implementation⟩ | named
    · rw [adapter, implementation]
      exact entering.named (s := below.push top.toList) old inside
    · exact named
  · intro facade found there
    obtain ⟨before, old, -, -, amends⟩ := effect.facade? there
    have there' : (below.push top.toList).facade? facade = some before := old
    have held : (below.push top.toList).custody.facades[facade]? = some before.holding := by
      rw [custody_facade?, there']
      rfl
    have numbered : before.roster.Numbered := (sound.accounts held).owned.numbered
    exact amends.paired (entering.paired there') numbered (entering.apart there' numbered)
  · rw [frames] at member
    cases pushed with
    | nil => exact free other change (List.mem_of_mem_tail member)
    | cons first rest =>
      exact (List.mem_append.mp member).elim (piles.below other change) (free other change)
  · rw [frames] at member
    exact piles.calm other change ((List.mem_append.mp member).resolve_right (free other change))
  · intro other facade id implementation cost rpcs rest same
    rw [frames] at same
    cases pushed with
    | nil => exact absurd (same ▸ List.mem_cons_self) (free _ _)
    | cons first others =>
      obtain ⟨rfl, rfl⟩ := List.cons.inj same
      obtain ⟨found, record, there, provider, entered, its, given⟩ :=
        piles.offers other facade id implementation cost rpcs others rfl
      exact ⟨found, record, there, provider, entered, its,
        fun delegate known => List.mem_append_left _ (given delegate known)⟩
  · intro name handle answer member facade id release
    rw [frames] at member
    rcases List.mem_append.mp member with new | old
    · obtain ⟨found, there, entered⟩ := piles.keeps name handle answer new facade id release
      have held : t.custody.facades[facade]? = some found.holding := by
        rw [custody_facade?, there]
        rfl
      exact (kept held).entered entered
    · refine List.mem_append_left _ (issued handle (.inr ⟨name, answer, ?_⟩) facade id release)
      exact List.mem_append_right _ old
  · intro handle member facade id release
    refine List.mem_append_left _ (issued handle ?_ facade id release)
    rcases effect.handles member with old | none | ⟨name, answer, rfl⟩
    · exact .inl old
    · cases none.symm.trans release
    · exact .inr ⟨name, answer, List.mem_cons_self⟩

theorem Observed.onward (observed : Observed deals s) (dealing : Dealing s now t) :
    Observed (deals ++ now) t := by
  obtain ⟨⟨services, tidy⟩, sound, kept, routed, entering⟩ := observed
  obtain ⟨path, tidy'⟩ := run_dealings (.single dealing) tidy sound
  have kept' {facade : Nat} {holding : Holding Nat Server Handle}
      (there : t.custody.facades[facade]? = some holding) :
      Kept facade (deals ++ now) t.custody.duties holding.roster :=
    Custody.run_kept path sound kept there
  obtain ⟨-, router, acts, move⟩ := id dealing
  exact ⟨⟨services, tidy'⟩, sound.run path, kept', Move.behind move routed tidy.secure,
    entering.onward dealing tidy.secure sound routed kept'⟩

theorem Observed.run (observed : Observed deals s) (run : Run Dealing s now t) :
    Observed (deals ++ now) t := by
  induction run with
  | still => exact (List.append_nil deals).symm ▸ observed
  | onward _ dealing ih => exact List.append_assoc .. ▸ ih.onward dealing

theorem start_observed (settings : RouterSettings) (wiring : Wiring) :
    Observed [] (start settings wiring) := by
  have nothing {facade : Nat} {found : Facade}
      (there : (start settings wiring).facade? facade = some found) : found.roster = .empty := by
    obtain ⟨service, provider, order, rfl⟩ :=
      eq_connecting_of_mem_start (List.mem_of_getElem? there)
    rfl
  refine ⟨⟨_, start_tidy settings wiring⟩, start_sound settings wiring, ?_,
    start_routed settings wiring, ?_⟩
  · rw [start_custody]
    exact Custody.kept_fresh
  · refine ⟨fun there => ?_, fun there => ?_, ?_, ?_, ?_, ?_, ?_, ?_⟩
    · rw [nothing there]
      exact fun member => absurd member List.not_mem_nil
    · rw [nothing there]
      rfl
    all_goals simp [start]

end State
end RpcRouting.Session
