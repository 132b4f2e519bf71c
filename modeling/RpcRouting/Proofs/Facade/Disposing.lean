import RpcRouting.Proofs.Facade.Conserving
import RpcRouting.Proofs.Facade.Releasing
/-! Runs of facades over anything at all: what is true of each facade at the start stays true, and so
every registration behind them is released exactly once as soon as it has been given up and nothing
is under way. -/
namespace RpcRouting
open Session (Life)

variable {I A U : Type} {facade other id : Nat} {deals now : List (Deal U)} {underlying : U}
  {duties below popped pushed : List (Duty U)} {before after holding : Holding I A U}
  {custody next : Custody I A U}

/-- All that is true of one facade. -/
structure Accounts (facade : Nat) (deals : List (Deal U)) (duties : List (Duty U))
    (holding : Holding I A U) : Prop where
  owned : Owned facade deals holding.roster
  pending : Pending facade deals duties holding.roster
  lasting : Lasting facade duties holding.life
  doomed : holding.life ≠ .gone → Doomed facade deals duties holding.roster

/-- All that is true of facades and of what has passed. -/
structure Sound [DecidableEq U] (deals : List (Deal U)) (custody : Custody I A U) : Prop where
  accounts : ∀ {facade holding}, custody.facades[facade]? = some holding →
    Accounts facade deals custody.duties holding
  there : ∀ {facade}, .call facade ∈ custody.duties ∨ .hold facade ∈ custody.duties →
    facade < custody.facades.length
  stacked : Stacked custody.duties
  conserved : ∀ underlying, (handed deals).count underlying =
    (released deals).count underlying + custody.held.count underlying

/-! What other facades do. -/

/-- Nothing changes for a facade while others do what they do. -/
theorem Accounts.congr {later : List (Duty U)} (accounts : Accounts facade deals duties holding)
    (same : ∀ duty, duty.facade? = some facade → (duty ∈ later ↔ duty ∈ duties))
    (apart : ∀ deal ∈ now, deal.facade? ≠ some facade) (short : now.length ≤ 1) :
    Accounts facade (deals ++ now) later holding := by
  obtain ⟨owned, pending, lasting, doomed⟩ := accounts
  have earlier {deal : Deal U} (own : deal.facade? = some facade) (made : deal ∈ deals ++ now) :
      deal ∈ deals := by
    rcases List.mem_append.mp made with early | late
    · exact early
    · exact absurd own (apart deal late)
  have pair {first second : Deal U} (own : second.facade? = some facade)
      (both : [first, second].Sublist (deals ++ now)) : [first, second].Sublist deals := by
    rcases pair_sublist_append both short with early | ⟨-, late⟩
    · exact early
    · exact absurd own (apart second late)
  refine ⟨?_, ?_, ?_, ?_⟩
  · exact owned.later _ fun id made => apart _ made rfl
  · exact ⟨fun member => pending.complete ((same _ rfl).mp member),
      fun member => pending.finish ((same _ rfl).mp member),
      fun member => pending.completeListener ((same _ rfl).mp member),
      fun handed => (pending.completed (earlier rfl handed)).imp_right
        fun done member => done ((same _ rfl).mp member)⟩
  · exact ⟨fun member => lasting.called ((same _ rfl).mp member),
      fun member => lasting.held ((same _ rfl).mp member),
      fun leaving => (same _ rfl).mpr (lasting.leaving leaving)⟩
  · intro there
    have doomed := doomed there
    constructor
    · intro id uncut given entered
      have early := doomed.implementation (fun made => uncut (List.mem_append_left _ made))
        (given.imp (pair rfl) (pair rfl)) entered
      exact early.imp (same _ rfl).mpr (same _ rfl).mpr
    · intro id underlying uncut whole given entered
      have early := doomed.listener (fun made => uncut (List.mem_append_left _ made))
        (fun made => whole (List.mem_append_left _ made)) (given.imp (pair rfl) (pair rfl)) entered
      exact early.imp (same _ rfl).mpr (same _ rfl).mpr

theorem accounts_fresh (facade : Nat) :
    Accounts facade [] [] (⟨.empty, .alive⟩ : Holding I A U) := by
  refine ⟨⟨Roster.numbered_empty, nofun, nofun, nofun⟩, ⟨nofun, nofun, nofun, nofun⟩,
    ⟨nofun, nofun, nofun⟩, fun _ => ⟨nofun, nofun⟩⟩

theorem sound_fresh [DecidableEq U] (count : Nat) :
    Sound [] (Custody.fresh count : Custody I A U) := by
  refine ⟨?_, ?_, .nil, ?_⟩
  · intro facade holding there
    have same := List.eq_of_mem_replicate (List.mem_of_getElem? there)
    exact same ▸ accounts_fresh facade
  · rintro facade (called | held) <;> contradiction
  · intro underlying
    have nothing : (Custody.fresh count : Custody I A U).held = [] := by
      refine List.append_eq_nil_iff.mpr ⟨List.flatMap_eq_nil_iff.mpr ?_, rfl⟩
      intro holding member
      rw [List.eq_of_mem_replicate member]
      rfl
    rw [nothing]
    rfl

variable [DecidableEq A]

/-- A turn of a facade takes up, puts on the stack and deals out what is its own. -/
theorem Turn.own (turn : Turn facade below before popped now after pushed) :
    (∀ duty ∈ popped ++ pushed, duty.facade? = some facade ∨ duty.facade? = none) ∧
      ∀ deal ∈ now, deal.facade? = some facade := by
  cases turn with
  | shut | releaseListeners =>
    simp only [List.forall_mem_append, List.forall_mem_map]
    simp [Duty.facade?, Deal.facade?]
  | release =>
    simp only [List.forall_mem_append, List.forall_mem_map]
    simp [Duty.facade?]
  | @cut _ duty deal releases own =>
    have dealt : deal.facade? = duty.facade? := by cases duty <;> cases releases <;> rfl
    simp [own, dealt]
  | register | listen | use | close | closeLate | closeListener | closeListenerLate | leave | vanish
  | attach | orphan | enterListener | abandon | abandonListener | releaseMissing | finishRelease
  | releaseListener | releaseListenerMissing | back | letGo | letGoLast =>
    simp [Duty.facade?, Deal.facade?]

theorem Turn.life (turn : Turn facade below before popped now after pushed)
    (there : after.life ≠ .gone) : before.life ≠ .gone := by
  cases turn <;> first | exact there | exact nofun

theorem Turn.accounts (turn : Turn facade below before popped now after pushed)
    (stacked : Stacked (popped ++ below))
    (accounts : Accounts facade deals (popped ++ below) before) :
    Accounts facade (deals ++ now) (pushed ++ below) after := by
  obtain ⟨owned, pending, lasting, doomed⟩ := accounts
  refine ⟨turn.owned owned pending, turn.pending owned pending stacked, turn.lasting lasting, ?_⟩
  intro there
  have doomed := doomed (turn.life there)
  constructor
  · intro id uncut given entered
    obtain ⟨early, late⟩ := not_or.mp (mt List.mem_append.mpr uncut)
    exact turn.doomed_implementation late there owned (doomed.implementation early) given entered
  · intro id underlying uncut whole given entered
    obtain ⟨early, late⟩ := not_or.mp (mt List.mem_append.mpr uncut)
    obtain ⟨before, now⟩ := not_or.mp (mt List.mem_append.mpr whole)
    exact turn.doomed_listener ⟨late, now⟩ there pending (doomed.listener early before) given entered

theorem Turn.accounts_of_ne (turn : Turn facade below before popped now after pushed)
    (ne : facade ≠ other) (accounts : Accounts other deals (popped ++ below) holding) :
    Accounts other (deals ++ now) (pushed ++ below) holding := by
  obtain ⟨duties, dealt⟩ := turn.own
  have free {duty : Duty U} (own : duty.facade? = some other) : duty ∉ popped ++ pushed := by
    intro member
    rcases duties duty member with same | none
    · exact ne (Option.some.inj (same.symm.trans own))
    · cases none.symm.trans own
  refine accounts.congr (fun duty own => ?_) (fun deal member own => ?_) turn.short
  · have free := free own
    simp only [List.mem_append, not_or] at free ⊢
    simp [free]
  · exact ne (Option.some.inj ((dealt deal member).symm.trans own))

/-- Whoever calls a facade or holds its roster came by one that is there. -/
theorem Turn.there (turn : Turn facade below before popped now after pushed)
    (there : facade < custody.facades.length)
    (before : .call other ∈ below ∨ .hold other ∈ below → other < custody.facades.length)
    (uses : .call other ∈ pushed ++ below ∨ .hold other ∈ pushed ++ below) :
    other < custody.facades.length := by
  obtain ⟨duties, -⟩ := turn.own
  have own {duty : Duty U} (own : duty.facade? = some other) (member : duty ∈ pushed) :
      other < custody.facades.length := by
    rcases duties duty (List.mem_append_right _ member) with same | none
    · exact Option.some.inj (same.symm.trans own) ▸ there
    · cases none.symm.trans own
  rcases uses with called | held
  · rcases List.mem_append.mp called with new | old
    · exact own rfl new
    · exact before (.inl old)
  · rcases List.mem_append.mp held with new | old
    · exact own rfl new
    · exact before (.inr old)

/-! Steps and runs. -/

variable [DecidableEq U]

theorem Custody.Step.sound (step : Step custody now next) (sound : Sound deals custody) :
    Sound (deals ++ now) next := by
  cases step with
  | @turn before now after pushed _ facade popped below there top turn =>
    have accounts := sound.accounts there
    have stacked := sound.stacked
    rw [top] at accounts stacked
    have length : facade < custody.facades.length := (List.getElem?_eq_some_iff.mp there).1
    refine ⟨?_, ?_, turn.stacked accounts.pending stacked, ?_⟩
    · intro other holding found
      by_cases same : facade = other
      · subst same
        rw [List.getElem?_set_self length, Option.some.injEq] at found
        exact found ▸ turn.accounts stacked accounts
      · rw [List.getElem?_set_ne same] at found
        exact turn.accounts_of_ne same (top ▸ sound.accounts found)
    · intro other uses
      rw [List.length_set]
      refine turn.there length (fun uses => sound.there ?_) uses
      rw [top]
      exact uses.imp (List.mem_append_right _) (List.mem_append_right _)
    · intro underlying
      have conserved := sound.conserved underlying
      have turned := turn.conserves accounts.owned.numbered accounts.pending stacked
        accounts.lasting underlying
      have shifted := count_flatMap_set there after Holding.held underlying
      simp only [Custody.held, top, List.flatMap_append, List.count_append] at conserved turned ⊢
      simp only [handed_append, released_append, List.count_append]
      omega
  | @close underlying below facades =>
    refine ⟨?_, ?_, sound.stacked.tail, ?_⟩
    · intro facade holding found
      refine (sound.accounts found).congr (fun duty own => ?_) (by simp [Deal.facade?]) (by simp)
      have other : duty ≠ .close underlying := by rintro rfl; cases own
      simp [other]
    · exact fun uses => sound.there (uses.imp (List.mem_cons_of_mem _) (List.mem_cons_of_mem _))
    · intro other
      have conserved := sound.conserved other
      simp [Custody.held, Duty.underlyings, Deal.handed?, Deal.released?, List.count_cons]
        at conserved ⊢
      omega
  | @closeNext underlying rest below facades =>
    refine ⟨?_, ?_, ?_, ?_⟩
    · intro facade holding found
      refine (sound.accounts found).congr (fun duty own => ?_) (List.forall_mem_nil _) (by simp)
      have other : duty ≠ .close underlying ∧ duty ≠ .closeAll rest ∧
          duty ≠ .closeAll (underlying :: rest) := by
        refine ⟨?_, ?_, ?_⟩ <;> rintro rfl <;> cases own
      simp [other]
    · exact fun uses => sound.there (by simpa using uses)
    · have under := sound.stacked.tail
      exact .cons (by rintro _ ⟨⟩) trivial (.cons (by rintro _ ⟨⟩) trivial under)
    · intro other
      have conserved := sound.conserved other
      simpa [Custody.held, Duty.underlyings] using conserved
  | @closeLast below facades =>
    refine ⟨?_, ?_, sound.stacked.tail, ?_⟩
    · intro facade holding found
      refine (sound.accounts found).congr (fun duty own => ?_) (List.forall_mem_nil _) (by simp)
      have other : duty ≠ .closeAll [] := by rintro rfl; cases own
      simp [other]
    · exact fun uses => sound.there (uses.imp (List.mem_cons_of_mem _) (List.mem_cons_of_mem _))
    · intro other
      have conserved := sound.conserved other
      simpa [Custody.held, Duty.underlyings] using conserved

theorem Sound.run (sound : Sound deals custody) (run : Run Custody.Step custody now next) :
    Sound (deals ++ now) next := by
  induction run with
  | still => exact (List.append_nil deals).symm ▸ sound
  | onward _ step ih => exact List.append_assoc .. ▸ step.sound ih

theorem Custody.run_sound {count : Nat} (run : Run Step (.fresh count) deals custody) :
    Sound deals custody := (sound_fresh count).run run

/-! What has been given up is released. -/

omit [DecidableEq A]

theorem eq_of_handed_once {first second : Deal U} (once : (handed deals).count underlying = 1)
    (made : first ∈ deals) (same : first.handed? = some underlying) (also : second ∈ deals)
    (alike : second.handed? = some underlying) : first = second := by
  induction deals with
  | nil => cases made
  | cons deal rest ih =>
    have later {item : Deal U} (member : item ∈ rest) (hands : item.handed? = some underlying) :
        0 < (handed rest).count underlying :=
      List.count_pos_iff.mpr (List.mem_filterMap.mpr ⟨item, member, hands⟩)
    rw [handed_cons, List.count_append] at once
    rcases List.mem_cons.mp made with rfl | early <;> rcases List.mem_cons.mp also with rfl | late
    · rfl
    · have := later late alike
      simp [same] at once
      omega
    · have := later early same
      simp [alike] at once
      omega
    · refine ih ?_ early late
      have := later early same
      omega

/-- What has been handed out once, and is neither in a roster nor about to be closed, has been
released. -/
theorem Sound.released_of_missing (sound : Sound deals custody) {deal : Deal U}
    (made : deal ∈ deals) (hands : deal.handed? = some underlying)
    (once : (handed deals).count underlying = 1)
    (closing : ∀ duty ∈ custody.duties, underlying ∉ duty.underlyings)
    (missing : ∀ {facade holding}, custody.facades[facade]? = some holding → holding.life ≠ .gone →
      (∀ id, deal = .handed facade id underlying → id ∉ holding.roster.numbers) ∧
        ∀ id, deal = .handedListener facade id underlying → id ∉ holding.roster.listenerNumbers) :
    (released deals).count underlying = 1 := by
  have free : underlying ∉ custody.held := by
    intro held
    rcases List.mem_append.mp held with inside | due
    · obtain ⟨holding, member, holds⟩ := List.mem_flatMap.mp inside
      obtain ⟨facade, there⟩ := List.mem_iff_getElem?.mp member
      obtain ⟨owned, -, -, -⟩ := sound.accounts there
      unfold Holding.held at holds
      split at holds
      · cases holds
      · rename_i life
        obtain ⟨implementation, listener⟩ := missing there life
        rcases Roster.mem_underlyings.mp holds with ⟨id, record, entry, same⟩ | ⟨id, entry⟩
        · have handed := owned.records entry same
          refine implementation id (eq_of_handed_once once made hands handed rfl) ?_
          exact List.mem_map.mpr ⟨_, entry, rfl⟩
        · have handed := owned.listeners entry
          refine listener id (eq_of_handed_once once made hands handed rfl) ?_
          exact List.mem_map.mpr ⟨_, entry, rfl⟩
    · obtain ⟨duty, member, closes⟩ := List.mem_flatMap.mp due
      exact closing duty member closes
  have conserved := sound.conserved underlying
  rw [List.count_eq_zero.mpr free, once] at conserved
  exact conserved.symm

theorem Sound.not_leaving (sound : Sound deals custody)
    (there : custody.facades[facade]? = some holding) (rests : custody.Rests facade underlying) :
    holding.life ≠ .leaving := by
  intro leaving
  exact (rests _ ((sound.accounts there).lasting.leaving leaving)).1 rfl

theorem Sound.dropped (sound : Sound deals custody) (rests : custody.Rests facade underlying)
    (dropped : custody.Dropped facade) (there : custody.facades[facade]? = some holding) :
    holding.life = .gone := by
  obtain ⟨same, found, left⟩ := dropped
  cases there.symm.trans found
  have := sound.not_leaving there rests
  cases life : holding.life <;> simp_all

theorem Sound.lacks (sound : Sound deals custody) (uncut : .cut facade id ∉ deals)
    (rests : custody.Rests facade underlying)
    (ended : GivenUp deals facade id ∨ custody.Dropped facade) : custody.Lacks facade id := by
  intro holding there life
  refine Roster.record?_eq_none.mpr fun entered => ?_
  rcases ended with given | dropped
  · rcases ((sound.accounts there).doomed life).implementation uncut given entered with
      waiting | waiting
    · exact (rests _ waiting).1 rfl
    · exact (rests _ waiting).1 rfl
  · exact life (sound.dropped rests dropped there)

theorem Sound.lacksListener (sound : Sound deals custody) (uncut : .cut facade id ∉ deals)
    (whole : .cutListeners facade ∉ deals)
    (rests : custody.Rests facade underlying)
    (ended : GivenUpListener deals facade id underlying ∨ custody.Dropped facade) :
    custody.LacksListener facade id := by
  intro holding there life
  refine Roster.listener?_eq_none.mpr fun entered => ?_
  rcases ended with given | dropped
  · rcases ((sound.accounts there).doomed life).listener uncut whole given entered with
      waiting | waiting
    · exact (rests _ waiting).1 rfl
    · exact (rests _ waiting).1 rfl
  · exact life (sound.dropped rests dropped there)

theorem Sound.releasesOnce (sound : Sound deals custody) : ReleasesOnce deals custody := by
  refine ⟨?_, ?_, ?_⟩
  · intro underlying
    have conserved := sound.conserved underlying
    omega
  · intro facade id underlying made once uncut rests ended
    have lacks := sound.lacks uncut rests ended
    refine ⟨?_, lacks⟩
    refine sound.released_of_missing made rfl once (fun duty member => (rests duty member).2) ?_
    intro other holding there life
    refine ⟨?_, nofun⟩
    rintro number ⟨⟩
    exact Roster.record?_eq_none.mp (lacks holding there life)
  · intro facade id underlying made once uncut whole rests ended
    have lacks := sound.lacksListener uncut whole rests ended
    refine ⟨?_, lacks⟩
    refine sound.released_of_missing made rfl once (fun duty member => (rests duty member).2) ?_
    intro other holding there life
    refine ⟨nofun, ?_⟩
    rintro number ⟨⟩
    exact Roster.listener?_eq_none.mp (lacks holding there life)

end RpcRouting
