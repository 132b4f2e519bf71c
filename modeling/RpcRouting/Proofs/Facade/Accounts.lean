import RpcRouting.Proofs.Facade.Custody
/-! What is true of one facade at any time. What its roster holds has been handed out for the entry
that holds it, and while a registration is being made or released nothing is held for it. -/
namespace RpcRouting
open Session (Life)

variable {I A U : Type} {facade id : Nat} {deals now : List (Deal U)}
  {duties below popped pushed : List (Duty U)} {roster : Roster I A U} {before after : Holding I A U}

/-- Entries have numbers of their own, and hold what has been handed out for them. -/
structure Owned (facade : Nat) (deals : List (Deal U)) (roster : Roster I A U) : Prop where
  numbered : roster.Numbered
  began : ∀ {id}, .began facade id ∈ deals → id < roster.nextNumber
  records : ∀ {id record underlying}, (id, record) ∈ roster.records →
    record.underlying = some underlying → .handed facade id underlying ∈ deals
  listeners : ∀ {id underlying}, (id, underlying) ∈ roster.listeners →
    .handedListener facade id underlying ∈ deals

/-- While a registration is being made or released the roster holds nothing for it; and a listener
whose registration is complete is not entered again. -/
structure Pending (facade : Nat) (deals : List (Deal U)) (duties : List (Duty U))
    (roster : Roster I A U) : Prop where
  complete : ∀ {id}, .complete facade id ∈ duties → id < roster.nextNumber ∧ roster.HoldsNothing id
  finish : ∀ {id}, .finishRelease facade id ∈ duties →
    id < roster.nextNumber ∧ roster.HoldsNothing id
  completeListener : ∀ {id}, .completeListener facade id ∈ duties →
    id < roster.nextNumber ∧ id ∉ roster.listenerNumbers
  completed : ∀ {id underlying}, .handedListener facade id underlying ∈ deals →
    id < roster.nextNumber ∧ .completeListener facade id ∉ duties

/-- A facade is there while it is called, and its roster while a handle is being released. -/
structure Lasting (facade : Nat) (duties : List (Duty U)) (life : Life) : Prop where
  called : .call facade ∈ duties → life = .alive
  held : .hold facade ∈ duties → life ≠ .gone
  leaving : life = .leaving → .hold facade ∈ duties

/-! Work on a stack. -/

/-- Below the making of a registration nothing else is under way for it. -/
def Duty.FreshOver (below : List (Duty U)) : Duty U → Prop
  | .complete facade id => .complete facade id ∉ below ∧ .finishRelease facade id ∉ below
  | .completeListener facade id => .completeListener facade id ∉ below
  | _ => True

/-- Work with a roster stands above a call of its facade or the release of a handle. -/
inductive Stacked : List (Duty U) → Prop
  | nil : Stacked []
  | cons {duty : Duty U} {below : List (Duty U)}
      (sheltered : ∀ facade, duty.roster? = some facade →
        .call facade ∈ below ∨ .hold facade ∈ below)
      (fresh : duty.FreshOver below) (stacked : Stacked below) : Stacked (duty :: below)

theorem Stacked.tail {duty : Duty U} (stacked : Stacked (duty :: below)) : Stacked below := by
  cases stacked
  assumption

theorem Stacked.fresh {duty : Duty U} (stacked : Stacked (duty :: below)) :
    duty.FreshOver below := by
  cases stacked
  assumption

theorem Stacked.sheltered {duty : Duty U} (stacked : Stacked (duty :: below))
    (uses : duty.roster? = some facade) : .call facade ∈ below ∨ .hold facade ∈ below := by
  cases stacked with
  | cons sheltered _ _ => exact sheltered facade uses

theorem Stacked.drop (stacked : Stacked (popped ++ below)) : Stacked below := by
  induction popped with
  | nil => exact stacked
  | cons first rest ih => exact ih stacked.tail

theorem Duty.roster?_of_cut {duty : Duty U} {deal : Deal U} (releases : duty.cut? = some deal) :
    duty.roster? = duty.facade? ∧ duty.FreshOver below := by
  cases duty <;> first | exact ⟨rfl, trivial⟩ | cases releases

theorem Duty.freshOver_of_roster? {duty : Duty U} (none : duty.roster? = none) :
    duty.FreshOver below := by
  cases duty <;> trivial

/-- Releases may be put on the stack whenever the roster is there. -/
theorem Stacked.push_releases (stacked : Stacked below) (pushed : List (Duty U)) (facade : Nat)
    (releases : ∀ duty ∈ pushed,
      duty.roster? = none ∨ duty.cut?.isSome = true ∧ duty.facade? = some facade)
    (sheltered : (∃ duty ∈ pushed, duty.roster? ≠ none) →
      .call facade ∈ below ∨ .hold facade ∈ below) : Stacked (pushed ++ below) := by
  induction pushed with
  | nil => exact stacked
  | cons first rest ih =>
    have above : Stacked (rest ++ below) := by
      refine ih (fun duty member => releases duty (List.mem_cons_of_mem _ member)) ?_
      rintro ⟨duty, member, uses⟩
      exact sheltered ⟨duty, List.mem_cons_of_mem _ member, uses⟩
    rcases releases first List.mem_cons_self with free | ⟨uses, own⟩
    · exact .cons (by simp [free]) (Duty.freshOver_of_roster? free) above
    · obtain ⟨deal, cuts⟩ := Option.isSome_iff_exists.mp uses
      obtain ⟨roster, fresh⟩ := Duty.roster?_of_cut cuts
      refine .cons ?_ fresh above
      intro other same
      cases (roster.trans own).symm.trans same
      exact (sheltered ⟨first, List.mem_cons_self, by simp [roster, own]⟩).imp
        (List.mem_append_right _) (List.mem_append_right _)

/-! What a turn of a facade keeps. -/

theorem Owned.later (owned : Owned facade deals roster) (now : List (Deal U))
    (silent : ∀ id, .began facade id ∉ now) : Owned facade (deals ++ now) roster where
  numbered := owned.numbered
  began made := by
    rcases List.mem_append.mp made with old | new
    · exact owned.began old
    · exact absurd new (silent _)
  records member holds := List.mem_append_left _ (owned.records member holds)
  listeners member := List.mem_append_left _ (owned.listeners member)

/-- Whether something is being made or released while a piece of work waits. -/
def Duty.waits : Duty U → Bool
  | .complete _ _ | .completeListener _ _ | .finishRelease _ _ => true
  | _ => false

theorem Pending.later (pending : Pending facade deals (popped ++ below) roster)
    (now : List (Deal U)) (pushed : List (Duty U))
    (silent : ∀ id underlying, .handedListener facade id underlying ∉ now)
    (plain : ∀ duty ∈ pushed, duty.waits = false) :
    Pending facade (deals ++ now) (pushed ++ below) roster := by
  have old {duty : Duty U} (waits : duty.waits = true) (member : duty ∈ pushed ++ below) :
      duty ∈ popped ++ below := by
    rcases List.mem_append.mp member with new | old
    · rw [plain duty new] at waits
      cases waits
    · exact List.mem_append_right _ old
  refine ⟨fun member => pending.complete (old rfl member),
    fun member => pending.finish (old rfl member),
    fun member => pending.completeListener (old rfl member), ?_⟩
  intro id underlying handed
  rcases List.mem_append.mp handed with early | late
  · obtain ⟨taken, done⟩ := pending.completed early
    exact ⟨taken, fun member => done (old rfl member)⟩
  · exact absurd late (silent _ _)

/-- A roster that has taken numbers and lost entries, and holds nothing where it held nothing. -/
theorem Pending.mono (pending : Pending facade deals duties roster) {next : Roster I A U}
    (taken : roster.nextNumber ≤ next.nextNumber)
    (holds : ∀ {id}, roster.HoldsNothing id → next.HoldsNothing id)
    (entered : ∀ {id}, id ∈ next.listenerNumbers → id ∈ roster.listenerNumbers) :
    Pending facade deals duties next := by
  refine ⟨?_, ?_, ?_, ?_⟩
  · intro id member
    obtain ⟨small, nothing⟩ := pending.complete member
    exact ⟨Nat.lt_of_lt_of_le small taken, holds nothing⟩
  · intro id member
    obtain ⟨small, nothing⟩ := pending.finish member
    exact ⟨Nat.lt_of_lt_of_le small taken, holds nothing⟩
  · intro id member
    obtain ⟨small, new⟩ := pending.completeListener member
    exact ⟨Nat.lt_of_lt_of_le small taken, mt entered new⟩
  · intro id underlying handed
    obtain ⟨small, done⟩ := pending.completed handed
    exact ⟨Nat.lt_of_lt_of_le small taken, done⟩

/-- What is yet to be completed may be put on the stack while the roster holds nothing for it. -/
theorem Pending.await {duty : Duty U} (pending : Pending facade deals duties roster)
    (holds : ∀ {id}, duty = .complete facade id ∨ duty = .finishRelease facade id →
      id < roster.nextNumber ∧ roster.HoldsNothing id)
    (listens : ∀ {id}, duty = .completeListener facade id → id < roster.nextNumber ∧
      id ∉ roster.listenerNumbers ∧ ∀ underlying, .handedListener facade id underlying ∉ deals) :
    Pending facade deals (duty :: duties) roster := by
  refine ⟨?_, ?_, ?_, ?_⟩
  · intro id member
    rcases List.mem_cons.mp member with same | old
    · exact holds (.inl same.symm)
    · exact pending.complete old
  · intro id member
    rcases List.mem_cons.mp member with same | old
    · exact holds (.inr same.symm)
    · exact pending.finish old
  · intro id member
    rcases List.mem_cons.mp member with same | old
    · exact (listens same.symm).imp_right And.left
    · exact pending.completeListener old
  · intro id underlying handed
    refine (pending.completed handed).imp_right fun done member => ?_
    rcases List.mem_cons.mp member with same | old
    · exact (listens same.symm).2.2 underlying handed
    · exact done old

variable [DecidableEq A]

theorem Turn.owned (turn : Turn facade below before popped now after pushed)
    (owned : Owned facade deals before.roster)
    (pending : Pending facade deals (popped ++ below) before.roster) :
    Owned facade (deals ++ now) after.roster := by
  cases turn with
  | @register roster implementation adapter =>
    refine ⟨owned.numbered.enter implementation adapter, ?_, ?_, ?_⟩
    · intro id made
      rcases List.mem_append.mp made with old | new
      · exact Nat.lt_succ_of_lt (owned.began old)
      · cases List.mem_singleton.mp new
        exact Nat.lt_succ_self _
    · intro id record underlying member holds
      rcases List.mem_append.mp member with old | new
      · exact List.mem_append_left _ (owned.records old holds)
      · cases List.mem_singleton.mp new
        cases holds
    · exact fun member => List.mem_append_left _ (owned.listeners member)
  | @listen roster =>
    have later := owned.later [.beganListener facade roster.nextNumber] (by simp)
    exact ⟨later.numbered.takeNumber, fun made => Nat.lt_succ_of_lt (later.began made),
      later.records, later.listeners⟩
  | @attach id roster record life underlying entered =>
    have later := owned.later [.handed facade id underlying] (by simp)
    refine ⟨later.numbered.setUnderlying id _, later.began, ?_, later.listeners⟩
    intro number record handed member holds
    rcases Roster.mem_records_setUnderlying member with ⟨rfl, same⟩ | ⟨-, old⟩
    · cases same.symm.trans holds
      simp
    · exact later.records old holds
  | @enterListener id roster life underlying =>
    have later := owned.later [.handedListener facade id underlying] (by simp)
    obtain ⟨taken, new⟩ := pending.completeListener (List.mem_append_left _ List.mem_cons_self)
    refine ⟨later.numbered.enterListener taken new underlying, later.began, later.records, ?_⟩
    intro number handed member
    rcases List.mem_append.mp member with old | last
    · exact later.listeners old
    · cases List.mem_singleton.mp last
      simp
  | @release id roster record life entered =>
    have later := owned.later [] (by simp)
    refine ⟨later.numbered.setUnderlying id _, later.began, ?_, later.listeners⟩
    intro number record handed member holds
    rcases Roster.mem_records_setUnderlying member with ⟨rfl, same⟩ | ⟨-, old⟩
    · cases same.symm.trans holds
    · exact later.records old holds
  | finishRelease =>
    have later := owned.later [] (by simp)
    refine ⟨later.numbered.remove _, ?_, ?_, ?_⟩
    · rw [Roster.nextNumber_remove]
      exact later.began
    · exact fun member => later.records (Roster.mem_records_remove member)
    · rw [Roster.listeners_remove]
      exact later.listeners
  | releaseListener =>
    have later := owned.later [] (by simp)
    exact ⟨later.numbered.removeListener _, later.began, later.records,
      fun member => later.listeners (List.mem_of_mem_filter member)⟩
  | shut | use | close | closeLate | closeListener | closeListenerLate | leave | vanish | orphan
  | abandon | abandonListener | releaseMissing | releaseListenerMissing | releaseListeners | back
  | letGo | letGoLast =>
    exact owned.later _ (by simp)
  | @cut _ duty deal releases =>
    refine owned.later _ ?_
    cases duty <;> cases releases <;> simp

theorem Turn.pending (turn : Turn facade below before popped now after pushed)
    (owned : Owned facade deals before.roster)
    (pending : Pending facade deals (popped ++ below) before.roster)
    (stacked : Stacked (popped ++ below)) :
    Pending facade (deals ++ now) (pushed ++ below) after.roster := by
  cases turn with
  | @register roster implementation adapter =>
    have later : Pending facade (deals ++ [.began facade roster.nextNumber])
        ([.call facade] ++ below) roster :=
      pending.later _ _ (by simp) (by simp [Duty.waits])
    have fresh := owned.numbered.holdsNothing_nextNumber
    refine Pending.await (later.mono (Nat.le_succ _) ?_ fun listed => listed) ?_ (by simp)
    · exact fun nothing => nothing.enter implementation adapter
    · rintro number (same | same) <;> cases same
      exact ⟨Nat.lt_succ_self _, fresh.enter implementation adapter⟩
  | @listen roster =>
    have later : Pending facade (deals ++ [.beganListener facade roster.nextNumber])
        ([.call facade] ++ below) roster :=
      pending.later _ _ (by simp) (by simp [Duty.waits])
    have taken : Pending facade _ _ roster.takeNumber :=
      later.mono (Nat.le_succ _) (fun nothing => nothing) fun listed => listed
    refine Pending.await taken (by simp) ?_
    rintro number same
    cases same
    refine ⟨Nat.lt_succ_self _, fun listed => ?_, fun underlying handed => ?_⟩
    · exact Nat.lt_irrefl _ (owned.numbered.listeners_lt _ listed)
    · exact Nat.lt_irrefl _ (later.completed handed).1
  | @attach id roster record life underlying entered =>
    have making : .complete facade id ∉ below := stacked.fresh.1
    have releasing : .finishRelease facade id ∉ below := stacked.fresh.2
    have later : Pending facade (deals ++ [.handed facade id underlying]) below roster :=
      pending.later _ [] (by simp) nofun
    have holds {number : Nat} (other : number ≠ id) (nothing : roster.HoldsNothing number) :
        (roster.setUnderlying id (some underlying)).HoldsNothing number :=
      Roster.holdsNothing_setUnderlying (fun same => absurd same other) fun _ => nothing
    refine ⟨?_, ?_, later.completeListener, later.completed⟩
    · intro number member
      obtain ⟨taken, nothing⟩ := later.complete member
      exact ⟨taken, holds (fun same => making (same ▸ member)) nothing⟩
    · intro number member
      obtain ⟨taken, nothing⟩ := later.finish member
      exact ⟨taken, holds (fun same => releasing (same ▸ member)) nothing⟩
  | @enterListener id roster life underlying =>
    have once : .completeListener facade id ∉ below := stacked.fresh
    obtain ⟨taken, -⟩ := pending.completeListener (List.mem_append_left _ List.mem_cons_self)
    have later : Pending facade deals below roster := by
      simpa using pending.later [] [] (by simp) nofun
    refine ⟨later.complete, later.finish, ?_, ?_⟩
    · intro number member
      obtain ⟨taken, new⟩ := later.completeListener member
      refine ⟨taken, ?_⟩
      rw [Roster.listenerNumbers_enterListener, List.mem_append, List.mem_singleton, not_or]
      exact ⟨new, fun same => once (same ▸ member)⟩
    · intro number other handed
      rcases List.mem_append.mp handed with early | late
      · exact later.completed early
      · cases List.mem_singleton.mp late
        exact ⟨taken, once⟩
  | @release id roster record life entered =>
    have taken := owned.numbered.records_lt id
      (List.mem_map_of_mem (f := Prod.fst) (Roster.mem_of_record? entered))
    have later : Pending facade (deals ++ []) below roster :=
      pending.later _ [] (by simp) nofun
    have detached : Pending facade (deals ++ []) below (roster.setUnderlying id none) :=
      later.mono (Nat.le_refl _)
        (fun nothing => Roster.holdsNothing_setUnderlying (fun _ => rfl) fun _ => nothing)
        fun entered => entered
    have finishing : Pending facade (deals ++ []) ([] ++ .finishRelease facade id :: below)
        (roster.setUnderlying id none) := by
      refine detached.await ?_ (by simp)
      rintro number (same | same) <;> cases same
      exact ⟨taken, Roster.holdsNothing_setUnderlying (fun _ => rfl) fun other => absurd rfl other⟩
    have closing := finishing.later [] (record.underlying.toList.map .close) (by simp)
      (List.forall_mem_map.mpr fun _ _ => rfl)
    simpa using closing
  | @finishRelease id roster life =>
    have later : Pending facade (deals ++ []) below roster :=
      pending.later _ [] (by simp) nofun
    refine later.mono (Nat.le_of_eq Roster.nextNumber_remove.symm)
      (fun nothing => nothing.remove id) fun entered => ?_
    simpa using entered
  | @releaseListener id roster underlying life entered =>
    have later : Pending facade (deals ++ []) ([.close underlying] ++ below) roster :=
      pending.later _ _ (by simp) (by simp [Duty.waits])
    refine later.mono (Nat.le_refl _) (fun nothing => nothing) fun {number} entered => ?_
    rw [Roster.listenerNumbers_removeListener] at entered
    exact List.mem_of_mem_filter entered
  | shut | releaseListeners =>
    refine pending.later _ _ (by simp) ?_
    simp only [List.forall_mem_append, List.forall_mem_map]
    simp [Duty.waits]
  | use | close | closeLate | closeListener | closeListenerLate | leave | vanish | orphan | abandon
  | abandonListener | releaseMissing | releaseListenerMissing | back | letGo | letGoLast =>
    exact pending.later _ _ (by simp) (by simp [Duty.waits])
  | @cut _ duty deal releases =>
    refine pending.later _ _ ?_ nofun
    cases duty <;> cases releases <;> simp

theorem Turn.stacked (turn : Turn facade below before popped now after pushed)
    (pending : Pending facade deals (popped ++ below) before.roster)
    (stacked : Stacked (popped ++ below)) : Stacked (pushed ++ below) := by
  have under := stacked.drop
  have called : Stacked ([.call facade] ++ below) :=
    under.push_releases _ facade (by simp [Duty.roster?]) (by simp [Duty.roster?])
  have holding : Stacked ([.hold facade] ++ below) :=
    under.push_releases _ facade (by simp [Duty.roster?]) (by simp [Duty.roster?])
  cases turn with
  | @register roster =>
    refine .cons ?_ ⟨fun member => ?_, fun member => ?_⟩ called
    · rintro other same
      cases same
      exact .inl List.mem_cons_self
    · exact Nat.lt_irrefl _ (pending.complete
        (show Duty.complete facade roster.nextNumber ∈ _ by simpa using member)).1
    · exact Nat.lt_irrefl _ (pending.finish
        (show Duty.finishRelease facade roster.nextNumber ∈ _ by simpa using member)).1
  | @listen roster =>
    refine .cons ?_ (fun member => ?_) called
    · rintro other same
      cases same
      exact .inl List.mem_cons_self
    · exact Nat.lt_irrefl _
        (pending.completeListener
          (show Duty.completeListener facade roster.nextNumber ∈ _ by simpa using member)).1
  | @shut roster =>
    rw [List.append_assoc, List.cons_append, List.append_cons]
    refine called.push_releases _ facade ?_ (fun _ => .inl List.mem_cons_self)
    simp only [List.forall_mem_append, List.forall_mem_map]
    simp [Duty.cut?, Duty.facade?]
  | use => exact called
  | close id =>
    exact holding.push_releases [.release facade id] facade
      (by simp [Duty.cut?, Duty.facade?]) fun _ => .inr List.mem_cons_self
  | closeListener id =>
    exact holding.push_releases [.releaseListener facade id] facade
      (by simp [Duty.cut?, Duty.facade?]) fun _ => .inr List.mem_cons_self
  | release | releaseListeners =>
    refine under.push_releases _ facade ?_ fun _ => stacked.sheltered rfl
    simp only [List.forall_mem_append, List.forall_mem_map]
    simp [Duty.roster?, Duty.cut?, Duty.facade?]
  | vanish | letGoLast | orphan | releaseListener =>
    exact under.push_releases _ facade (by simp [Duty.roster?, Duty.facade?])
      (by simp [Duty.roster?, Duty.facade?])
  | closeLate | closeListenerLate | leave | attach | enterListener | abandon | abandonListener
  | releaseMissing | finishRelease | releaseListenerMissing | back | letGo | cut => exact under

theorem Lasting.congr {life : Life} (lasting : Lasting facade duties life)
    (call : .call facade ∈ pushed ++ below ↔ .call facade ∈ duties)
    (hold : .hold facade ∈ pushed ++ below ↔ .hold facade ∈ duties) :
    Lasting facade (pushed ++ below) life :=
  ⟨lasting.called ∘ call.mp, lasting.held ∘ hold.mp, hold.mpr ∘ lasting.leaving⟩

theorem Turn.lasting (turn : Turn facade below before popped now after pushed)
    (lasting : Lasting facade (popped ++ below) before.life) :
    Lasting facade (pushed ++ below) after.life := by
  cases turn with
  | register | listen | shut | use => exact ⟨fun _ => rfl, by simp, by simp⟩
  | close id there | closeListener id there =>
    exact ⟨fun member => lasting.called (by simpa using member), fun _ => there, by simp⟩
  | leave left held =>
    exact ⟨fun member => absurd member left, by simp, fun _ => held⟩
  | vanish left free =>
    exact ⟨fun member => absurd (by simpa using member) left,
      fun member => absurd (by simpa using member) free, by simp⟩
  | back =>
    exact ⟨fun _ => lasting.called (by simp),
      fun member => lasting.held (by simpa using member),
      fun leaving => by simpa using lasting.leaving leaving⟩
  | letGo kept =>
    exact ⟨fun member => lasting.called (by simpa using member),
      fun member => lasting.held (List.mem_append_right _ member), kept⟩
  | letGoLast free =>
    refine ⟨fun member => ?_, fun member => absurd (by simpa using member) free, by simp⟩
    cases lasting.called (by simpa using member)
  | @cut _ duty deal releases =>
    have other : duty ≠ .call facade ∧ duty ≠ .hold facade := by
      constructor <;> rintro rfl <;> cases releases
    exact lasting.congr (by simp [other.1.symm]) (by simp [other.2.symm])
  | closeLate | closeListenerLate | attach | orphan | enterListener | abandon | abandonListener
  | release | releaseMissing | finishRelease | releaseListener | releaseListenerMissing
  | releaseListeners =>
    exact lasting.congr (by simp) (by simp)

end RpcRouting
