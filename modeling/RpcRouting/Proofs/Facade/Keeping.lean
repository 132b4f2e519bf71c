import RpcRouting.Proofs.Facade.Whereabouts
/-! What is entered in a roster, and for how long. An implementation has an entry from when its
registration begins until it is released, and the entry holds the registration behind the facade as
soon as the facade has been given it. The adapters are entered together with the implementations. -/
namespace RpcRouting
open Session (Life)

variable {I A U : Type} {facade other id : Nat} {deals now earlier : List (Deal U)} {underlying : U}
  {duties below popped pushed : List (Duty U)} {roster roster' : Roster I A U}
  {before after holding : Holding I A U} {custody next : Custody I A U}

def Deal.begunWith? (facade : Nat) : Deal U → Option Nat
  | .began other id => if other = facade then some id else none
  | _ => none

/-- The implementations whose registration with a facade has begun, in their order. -/
def begunWith (facade : Nat) (deals : List (Deal U)) : List Nat :=
  deals.filterMap (Deal.begunWith? facade)

theorem mem_begunWith : id ∈ begunWith facade deals ↔ .began facade id ∈ deals := by
  rw [begunWith, List.mem_filterMap]
  constructor
  · rintro ⟨deal, member, made⟩
    cases deal with
    | began other number =>
      obtain ⟨rfl, rfl⟩ : other = facade ∧ number = id := by simpa [Deal.begunWith?] using made
      exact member
    | _ => cases made
  · intro member
    exact ⟨_, member, if_pos rfl⟩

@[simp]
theorem begunWith_append (facade : Nat) (first second : List (Deal U)) :
    begunWith facade (first ++ second) = begunWith facade first ++ begunWith facade second :=
  List.filterMap_append

theorem begunWith_eq_nil (silent : ∀ id, .began facade id ∉ now) : begunWith facade now = [] :=
  List.eq_nil_iff_forall_not_mem.mpr fun id member => silent id (mem_begunWith.mp member)

/-- The handle of an implementation has been closed, or its facade after its registration began. -/
def Revoked (deals : List (Deal U)) (facade id : Nat) : Prop :=
  .closed facade id ∈ deals ∨ [.began facade id, .closing facade].Sublist deals

theorem Revoked.later (revoked : Revoked deals facade id) (now : List (Deal U)) :
    Revoked (deals ++ now) facade id :=
  revoked.imp (List.mem_append_left _) fun given => given.trans (List.sublist_append_left _ _)

/-- Implementations are entered from when their registration begins until they are revoked, with what
has been handed out for them unless it is being released. -/
structure Kept (facade : Nat) (deals : List (Deal U)) (duties : List (Duty U))
    (roster : Roster I A U) : Prop where
  begun : (begunWith facade deals).Nodup
  handed : ∀ {id underlying}, .handed facade id underlying ∈ deals → .began facade id ∈ deals
  once : ∀ {id first second}, .handed facade id first ∈ deals → .handed facade id second ∈ deals →
    first = second
  making : ∀ {id}, .complete facade id ∈ duties →
    .began facade id ∈ deals ∧ ∀ underlying, .handed facade id underlying ∉ deals
  entered : ∀ {id}, id ∈ roster.numbers → .began facade id ∈ deals
  stays : ∀ {id}, .began facade id ∈ deals → id ∈ roster.numbers ∨ Revoked deals facade id
  releasing : ∀ {id}, .release facade id ∈ duties ∨ .finishRelease facade id ∈ duties →
    Revoked deals facade id
  holds : ∀ {id record underlying}, (id, record) ∈ roster.records →
    .handed facade id underlying ∈ deals → .cut facade id ∉ deals →
      record.underlying ≠ none ∨ .finishRelease facade id ∈ duties

namespace Kept

/-- What leaves the entries as they are, and neither begins nor completes a registration. -/
theorem later (kept : Kept facade deals (popped ++ below) roster)
    (records : roster'.records = roster.records) (begins : ∀ id, .began facade id ∉ now)
    (hands : ∀ id underlying, .handed facade id underlying ∉ now)
    (making : ∀ id, .complete facade id ∉ pushed)
    (releases : ∀ id, .release facade id ∈ pushed ∨ .finishRelease facade id ∈ pushed →
      Revoked (deals ++ now) facade id)
    (finishes : ∀ id, .finishRelease facade id ∈ popped → .cut facade id ∈ now) :
    Kept facade (deals ++ now) (pushed ++ below) roster' := by
  have same : roster'.numbers = roster.numbers := congrArg (List.map Prod.fst) records
  have began {id : Nat} (made : .began facade id ∈ deals ++ now) : .began facade id ∈ deals :=
    (List.mem_append.mp made).resolve_right (begins id)
  have handed {id : Nat} {underlying : U} (made : .handed facade id underlying ∈ deals ++ now) :
      .handed facade id underlying ∈ deals :=
    (List.mem_append.mp made).resolve_right (hands id underlying)
  refine ⟨?_, ?_, ?_, ?_, ?_, ?_, ?_, ?_⟩
  · rw [begunWith_append, begunWith_eq_nil begins, List.append_nil]
    exact kept.begun
  · exact fun made => List.mem_append_left _ (kept.handed (handed made))
  · exact fun made also => kept.once (handed made) (handed also)
  · intro id member
    have old := (List.mem_append.mp member).resolve_left (making id)
    obtain ⟨made, none⟩ := kept.making (List.mem_append_right _ old)
    exact ⟨List.mem_append_left _ made, fun underlying given => none underlying (handed given)⟩
  · exact fun member => List.mem_append_left _ (kept.entered (same ▸ member))
  · intro id made
    exact (kept.stays (began made)).imp (fun member => same ▸ member) fun revoked => revoked.later now
  · intro id member
    rcases member with member | member <;> rcases List.mem_append.mp member with new | old
    · exact releases id (.inl new)
    · exact (kept.releasing (.inl (List.mem_append_right _ old))).later now
    · exact releases id (.inr new)
    · exact (kept.releasing (.inr (List.mem_append_right _ old))).later now
  · intro id record underlying member made uncut
    obtain ⟨early, late⟩ := not_or.mp (mt List.mem_append.mpr uncut)
    refine (kept.holds (records ▸ member) (handed made) early).imp_right fun finishing => ?_
    exact List.mem_append_right _
      ((List.mem_append.mp finishing).resolve_left fun top => late (finishes id top))

/-- What other facades do leaves the entries as they are. -/
theorem congr (kept : Kept facade deals duties roster)
    (same : ∀ duty : Duty U, duty.facade? = some facade → (duty ∈ pushed ↔ duty ∈ duties))
    (apart : ∀ deal ∈ now, deal.facade? ≠ some facade) :
    Kept facade (deals ++ now) pushed roster := by
  have made {deal : Deal U} (own : deal.facade? = some facade) (member : deal ∈ deals ++ now) :
      deal ∈ deals :=
    (List.mem_append.mp member).resolve_right fun late => apart deal late own
  refine ⟨?_, ?_, ?_, ?_, ?_, ?_, ?_, ?_⟩
  · rw [begunWith_append, begunWith_eq_nil fun id member => apart _ member rfl, List.append_nil]
    exact kept.begun
  · exact fun given => List.mem_append_left _ (kept.handed (made rfl given))
  · exact fun given also => kept.once (made rfl given) (made rfl also)
  · intro id member
    obtain ⟨began, none⟩ := kept.making ((same _ rfl).mp member)
    exact ⟨List.mem_append_left _ began, fun underlying given => none underlying (made rfl given)⟩
  · exact fun member => List.mem_append_left _ (kept.entered member)
  · exact fun began => (kept.stays (made rfl began)).imp_right fun revoked => revoked.later now
  · intro id member
    exact (kept.releasing (member.imp (same _ rfl).mp (same _ rfl).mp)).later now
  · intro id record underlying member given uncut
    have early : .cut facade id ∉ deals := fun cut => uncut (List.mem_append_left _ cut)
    exact (kept.holds member (made rfl given) early).imp_right (same _ rfl).mpr

/-- The facade is given what has been registered behind it, and enters or closes it. -/
theorem hand (kept : Kept facade deals ([.complete facade id] ++ below) roster)
    (once : .complete facade id ∉ below) (underlying : U) (numbers : roster'.numbers = roster.numbers)
    (records : ∀ {number record}, (number, record) ∈ roster'.records →
      number = id ∧ record.underlying ≠ none ∨ number ≠ id ∧ (number, record) ∈ roster.records)
    (closing : ∀ duty ∈ pushed, duty.facade? = none) :
    Kept facade (deals ++ [.handed facade id underlying]) (pushed ++ below) roster' := by
  have plain {duty : Duty U} (own : duty.facade? = some facade) : duty ∉ pushed := fun member => by
    cases (closing duty member).symm.trans own
  have old : Kept facade (deals ++ []) (pushed ++ below) roster := by
    refine kept.later rfl nofun nofun (fun id => plain rfl) (fun id member => ?_) (by simp)
    exact (member.elim (plain rfl) (plain rfl)).elim
  rw [List.append_nil] at old
  obtain ⟨began, unmade⟩ :=
    kept.making (show .complete facade id ∈ [.complete facade id] ++ below by simp)
  refine ⟨?_, ?_, ?_, ?_, ?_, ?_, ?_, ?_⟩
  · have none : begunWith facade [.handed facade id underlying] = [] :=
      begunWith_eq_nil (by simp)
    rw [begunWith_append, none, List.append_nil]
    exact old.begun
  · intro number given made
    rcases List.mem_append.mp made with early | new
    · exact List.mem_append_left _ (old.handed early)
    · cases List.mem_singleton.mp new
      exact List.mem_append_left _ began
  · intro number first second made also
    rcases List.mem_append.mp made with early | new <;>
      rcases List.mem_append.mp also with early' | new'
    · exact old.once early early'
    · cases List.mem_singleton.mp new'
      exact absurd early (unmade _)
    · cases List.mem_singleton.mp new
      exact absurd early' (unmade _)
    · cases List.mem_singleton.mp new
      cases List.mem_singleton.mp new'
      rfl
  · intro number member
    obtain ⟨made, none⟩ := old.making member
    have ne : number ≠ id := by
      rintro rfl
      exact once ((List.mem_append.mp member).resolve_left (plain rfl))
    exact ⟨List.mem_append_left _ made, by simpa [ne] using none⟩
  · exact fun member => List.mem_append_left _ (old.entered (numbers ▸ member))
  · intro number made
    exact (old.stays (by simpa using made)).imp (fun member => numbers ▸ member)
      fun revoked => revoked.later _
  · exact fun member => (old.releasing member).later _
  · intro number record given member made uncut
    rcases records member with ⟨-, holds⟩ | ⟨ne, early⟩
    · exact .inl holds
    · exact old.holds early (by simpa [ne] using made) (by simpa using uncut)

end Kept

theorem kept_empty (facade : Nat) : Kept facade [] [] (.empty : Roster I A U) := by
  refine ⟨.nil, nofun, nofun, nofun, nofun, nofun, ?_, nofun⟩
  rintro id (member | member) <;> cases member

/-! Adapters. -/

namespace Roster

/-- The adapters of a roster are entered with the implementations for which they stand. -/
def Paired (roster : Roster I A U) : Prop :=
  roster.owners = roster.records.map fun (id, record) => (record.adapter, id)

def adapters (roster : Roster I A U) : List A := roster.records.map (·.2.adapter)

theorem record?_of_mem {record : Record I A U} (numbered : roster.Numbered)
    (entry : (id, record) ∈ roster.records) : roster.record? id = some record := by
  cases there : roster.record? id with
  | none => exact absurd (List.mem_map_of_mem (f := Prod.fst) entry) (record?_eq_none.mp there)
  | some other =>
    have same := List.inj_on_of_nodup_map numbered.records (mem_of_record? there) entry rfl
    rw [(Prod.mk.inj same).2]

/-- What has been registered is found by the adapter that stands for it. -/
theorem Paired.implementation? [DecidableEq A] {record : Record I A U} (paired : roster.Paired)
    (numbered : roster.Numbered) (apart : roster.adapters.Nodup)
    (entry : (id, record) ∈ roster.records) :
    roster.implementation? record.adapter = some record.implementation := by
  have found : roster.owners.find? (·.1 = record.adapter) = some (record.adapter, id) := by
    rw [paired, List.find?_map, Option.map_eq_some_iff]
    refine ⟨(id, record), ?_, rfl⟩
    obtain ⟨before, after, same⟩ := List.append_of_mem entry
    refine List.find?_eq_some_iff_append.mpr ⟨by simp, before, after, same, fun other member => ?_⟩
    have inside : other ∈ roster.records := same ▸ List.mem_append_left _ member
    simp only [Function.comp_apply, Bool.not_eq_true', decide_eq_false_iff_not]
    intro adapter
    obtain rfl : other = (id, record) := List.inj_on_of_nodup_map apart inside entry adapter
    rw [Roster.adapters, same, List.map_append, List.map_cons] at apart
    exact (List.nodup_append.mp apart).2.2 _ (List.mem_map_of_mem member) _ List.mem_cons_self rfl
  simp [Roster.implementation?, found, record?_of_mem numbered entry]

theorem Paired.implementation?_eq_none [DecidableEq A] {adapter : A} (paired : roster.Paired)
    (foreign : adapter ∉ roster.adapters) : roster.implementation? adapter = none := by
  have missing : roster.owners.find? (·.1 = adapter) = none := by
    refine List.find?_eq_none.mpr fun owner member same => foreign ?_
    rw [paired] at member
    obtain ⟨entry, inside, rfl⟩ := List.mem_map.mp member
    exact List.mem_map.mpr ⟨entry, inside, by simpa using same⟩
  simp [Roster.implementation?, missing]

theorem Paired.enter (paired : roster.Paired) (implementation : I) (adapter : A) :
    (roster.takeNumber.enter id implementation adapter).Paired := by
  rw [Paired] at paired ⊢
  simp [Roster.enter, takeNumber, paired]

theorem Paired.setUnderlying (paired : roster.Paired) (attached : Option U) :
    (roster.setUnderlying id attached).Paired := by
  rw [Paired] at paired ⊢
  rw [records_setUnderlying, List.map_map]
  refine paired.trans (List.map_congr_left fun entry _ => ?_)
  dsimp only [Function.comp]
  split
  · rename_i same
    rw [← same]
  · rfl

theorem Paired.remove [DecidableEq A] (paired : roster.Paired) (numbered : roster.Numbered)
    (apart : roster.adapters.Nodup) : (roster.remove id).Paired := by
  unfold Roster.remove
  cases there : roster.record? id with
  | none => exact paired
  | some record =>
    rw [Paired] at paired ⊢
    dsimp only
    rw [paired, List.filter_map]
    congr 1
    refine List.filter_congr fun entry member => ?_
    have own := mem_of_record? there
    have hit : entry.2.adapter = record.adapter ↔ entry.1 = id := by
      constructor
      · intro same
        rw [List.inj_on_of_nodup_map apart member own same]
      · intro same
        rw [List.inj_on_of_nodup_map numbered.records member own same]
    simp [hit]

end Roster

namespace Custody

/-- The adapters of the implementations that a facade has entered are told apart. -/
def Apart (custody : Custody I A U) : Prop :=
  ∀ holding ∈ custody.facades, holding.roster.adapters.Nodup

theorem kept_fresh {count : Nat}
    (there : (fresh count : Custody I A U).facades[facade]? = some holding) :
    Kept facade [] (fresh count : Custody I A U).duties holding.roster := by
  rw [List.eq_of_mem_replicate (List.mem_of_getElem? there)]
  exact kept_empty facade

theorem fresh_apart (count : Nat) : (fresh count : Custody I A U).Apart ∧
    ∀ holding ∈ (fresh count : Custody I A U).facades, holding.roster.Paired := by
  refine ⟨fun holding member => ?_, fun holding member => ?_⟩ <;>
    rw [List.eq_of_mem_replicate member]
  · exact .nil
  · rfl

/-- Nothing that a facade does is under way. -/
def Idle (custody : Custody I A U) (facade : Nat) : Prop :=
  ∀ duty ∈ custody.duties, duty.facade? ≠ some facade

end Custody

/-! What one facade does. -/

variable [DecidableEq A]

theorem Turn.kept (turn : Turn facade below before popped now after pushed)
    (owned : Owned facade deals before.roster) (stacked : Stacked (popped ++ below))
    (kept : Kept facade deals (popped ++ below) before.roster) :
    Kept facade (deals ++ now) (pushed ++ below) after.roster := by
  cases turn with
  | @register roster implementation adapter =>
    have taken {id : Nat} (made : .began facade id ∈ deals) : id ≠ roster.nextNumber :=
      Nat.ne_of_lt (owned.began made)
    refine ⟨?_, ?_, ?_, ?_, ?_, ?_, ?_, ?_⟩
    · have added : begunWith facade [Deal.began (U := U) facade roster.nextNumber] =
          [roster.nextNumber] := by simp [begunWith, Deal.begunWith?]
      rw [begunWith_append, added]
      refine List.nodup_append.mpr ⟨kept.begun, List.nodup_singleton _, ?_⟩
      intro id member last same
      rw [List.mem_singleton.mp same]
      exact taken (mem_begunWith.mp member)
    · intro id underlying made
      exact List.mem_append_left _ (kept.handed (by simpa using made))
    · exact fun made also => kept.once (by simpa using made) (by simpa using also)
    · intro id member
      simp only [List.cons_append, List.nil_append, List.mem_cons, Duty.complete.injEq, true_and,
        reduceCtorEq, false_or] at member
      rcases member with rfl | old
      · refine ⟨by simp, fun underlying made => ?_⟩
        exact taken (kept.handed (by simpa using made)) rfl
      · obtain ⟨made, none⟩ := kept.making old
        exact ⟨List.mem_append_left _ made, by simpa using none⟩
    · intro id member
      rw [Roster.numbers_enter] at member
      rcases List.mem_append.mp member with old | new
      · exact List.mem_append_left _ (kept.entered old)
      · simp [List.mem_singleton.mp new]
    · intro id made
      rw [Roster.numbers_enter]
      rcases List.mem_append.mp made with old | new
      · exact (kept.stays old).imp (List.mem_append_left _) fun revoked => revoked.later _
      · cases List.mem_singleton.mp new
        simp
    · intro id member
      exact (kept.releasing (by simpa using member)).later _
    · intro id record underlying member made uncut
      have made : .handed facade id underlying ∈ deals := by simpa using made
      rcases List.mem_append.mp member with old | new
      · refine (kept.holds old made (by simpa using uncut)).imp_right fun finishing => ?_
        simpa using finishing
      · cases List.mem_singleton.mp new
        exact absurd rfl (taken (kept.handed made))
  | @attach id roster record life underlying entered =>
    have once : .complete facade id ∉ below := stacked.fresh.1
    refine kept.hand once underlying (Roster.numbers_setUnderlying _) (fun {number record} member => ?_)
      (List.forall_mem_nil _)
    refine (Roster.mem_records_setUnderlying member).imp_left fun same => ⟨same.1, ?_⟩
    simp [same.2]
  | @orphan id _ underlying missing =>
    have once : .complete facade id ∉ below := stacked.fresh.1
    refine kept.hand once underlying rfl (fun member => .inr ⟨?_, member⟩) (by simp [Duty.facade?])
    rintro rfl
    exact Roster.record?_eq_none.mp missing (List.mem_map_of_mem (f := Prod.fst) member)
  | @release id roster record life entered =>
    have revoked : Revoked deals facade id := kept.releasing (.inl (by simp))
    have plain : Kept facade (deals ++ [])
        ((record.underlying.toList.map .close ++ [.finishRelease facade id]) ++ below) roster := by
      refine kept.later rfl (by simp) (by simp) (by simp) ?_ (by simp)
      intro number member
      obtain rfl : number = id := by simpa using member
      exact revoked.later _
    refine ⟨plain.begun, plain.handed, plain.once, plain.making, ?_, ?_, plain.releasing, ?_⟩
    · rw [Roster.numbers_setUnderlying]
      exact plain.entered
    · rw [Roster.numbers_setUnderlying]
      exact plain.stays
    · intro number record' given member made uncut
      rcases Roster.mem_records_setUnderlying member with ⟨rfl, -⟩ | ⟨-, old⟩
      · exact .inr (by simp)
      · exact plain.holds old made uncut
  | @finishRelease id roster life =>
    have revoked : Revoked deals facade id := kept.releasing (.inr (by simp))
    have numbers : ∀ {number}, number ∈ (roster.remove id).numbers →
        number ∈ roster.numbers ∧ number ≠ id := by
      intro number member
      rw [Roster.numbers_remove] at member
      simpa using member
    rw [List.append_nil, List.nil_append]
    refine ⟨kept.begun, kept.handed, kept.once,
      fun member => kept.making (List.mem_append_right _ member),
      fun member => kept.entered (numbers member).1, ?_, ?_, ?_⟩
    · intro number made
      by_cases same : number = id
      · exact .inr (same ▸ revoked)
      · refine (kept.stays made).imp_left fun member => ?_
        rw [Roster.numbers_remove]
        simpa [same] using member
    · exact fun member => kept.releasing
        (member.imp (List.mem_append_right _) (List.mem_append_right _))
    · intro number record given member made uncut
      have ne := (numbers (List.mem_map_of_mem (f := Prod.fst) member)).2
      refine (kept.holds (Roster.mem_records_remove member) made uncut).imp_right fun finishing => ?_
      simpa [ne] using finishing
  | @shut roster numbers all =>
    refine kept.later rfl (by simp) (by simp) (by simp) ?_ (by simp)
    intro id member
    have entered : id ∈ roster.numbers := all.mem_iff.mp (by simpa using member)
    refine .inr ?_
    exact (List.singleton_sublist.mpr (kept.entered entered)).append (List.Sublist.refl [_])
  | close id | closeLate id =>
    refine kept.later rfl (by simp) (by simp) (by simp) ?_ (by simp)
    intro number member
    exact .inl (by simp_all)
  | @cut _ duty deal releases =>
    cases duty <;> cases releases <;>
      exact kept.later rfl (by simp) (by simp) (by simp) (by simp) (by simp_all)
  | listen | use | closeListener | closeListenerLate | leave | vanish | enterListener | abandon
  | abandonListener | releaseMissing | releaseListener | releaseListenerMissing | releaseListeners
  | back | letGo | letGoLast =>
    exact kept.later rfl (by simp) (by simp) (by simp) (by simp) (by simp)

theorem Turn.paired (turn : Turn facade below before popped now after pushed)
    (numbered : before.roster.Numbered) (apart : before.roster.adapters.Nodup)
    (paired : before.roster.Paired) : after.roster.Paired := by
  cases turn with
  | register implementation adapter => exact paired.enter implementation adapter
  | attach | release => exact paired.setUnderlying _
  | finishRelease => exact paired.remove numbered apart
  | _ => exact paired

/-! Steps and runs. -/

namespace Custody

/-- A step of facades whose adapters are told apart by where they are. -/
def ApartStep (custody : Custody I A U) (deals : List (Deal U)) (next : Custody I A U) : Prop :=
  Step custody deals next ∧ next.Apart

variable [DecidableEq U]

theorem Step.kept (step : Step custody now next) (sound : Sound deals custody)
    (kept : ∀ {facade holding}, custody.facades[facade]? = some holding →
      Kept facade deals custody.duties holding.roster)
    (there : next.facades[facade]? = some holding) :
    Kept facade (deals ++ now) next.duties holding.roster := by
  obtain ⟨before, found, ⟨popped, pushed, below, top, left, turn⟩ | ⟨rfl, apart, same⟩⟩ :=
    step.of_facade there
  · rw [left]
    exact turn.kept (sound.accounts found).owned (top ▸ sound.stacked) (top ▸ kept found)
  · exact (kept found).congr same apart

theorem run_kept (run : Run Step custody now next) (sound : Sound deals custody)
    (kept : ∀ {facade holding}, custody.facades[facade]? = some holding →
      Kept facade deals custody.duties holding.roster)
    (there : next.facades[facade]? = some holding) :
    Kept facade (deals ++ now) next.duties holding.roster := by
  induction run generalizing facade holding with
  | still => exact (List.append_nil deals).symm ▸ kept there
  | onward path step ih =>
    rw [← List.append_assoc]
    exact step.kept (sound.run path) (fun there => ih there) there

theorem Step.paired (step : Step custody now next) (sound : Sound deals custody)
    (apart : custody.Apart) (paired : ∀ holding ∈ custody.facades, holding.roster.Paired) :
    ∀ holding ∈ next.facades, holding.roster.Paired := by
  intro holding member
  obtain ⟨facade, there⟩ := List.mem_iff_getElem?.mp member
  obtain ⟨before, found, ⟨_, _, _, -, -, turn⟩ | ⟨rfl, -, -⟩⟩ := step.of_facade there
  · have inside := List.mem_of_getElem? found
    exact turn.paired (sound.accounts found).owned.numbered (apart before inside) (paired before inside)
  · exact paired before (List.mem_of_getElem? found)

theorem run_paired (run : Run ApartStep custody now next) (sound : Sound deals custody)
    (apart : custody.Apart) (paired : ∀ holding ∈ custody.facades, holding.roster.Paired) :
    next.Apart ∧ ∀ holding ∈ next.facades, holding.roster.Paired := by
  induction run with
  | still => exact ⟨apart, paired⟩
  | onward path step ih =>
    exact ⟨step.2, Step.paired step.1 (sound.run (path.mono And.left)) ih.1 ih.2⟩

/-! What a panic has left behind. -/

/-- A registration has begun and is no longer being made, but its facade has not been given it. -/
structure Stranded (deals : List (Deal U)) (custody : Custody I A U) (facade id : Nat) : Prop where
  began : .began facade id ∈ deals
  unmade : .complete facade id ∉ custody.duties
  unhanded : ∀ underlying, .handed facade id underlying ∉ deals

end Custody

/-- A facade makes a registration from when it begins, and is given it in the end if at all. -/
theorem Turn.making (turn : Turn facade below before popped now after pushed) :
    (.complete facade id ∈ pushed → .began facade id ∈ now) ∧
      ∀ underlying, .handed facade id underlying ∈ now → .complete facade id ∈ popped := by
  cases turn with
  | @cut _ duty deal releases => cases duty <;> cases releases <;> simp
  | _ => simp_all

namespace Custody

theorem Step.stranded (step : Step custody now next) (there : next.facades[facade]? = some holding)
    (kept : Kept facade (deals ++ now) next.duties holding.roster)
    (stranded : Stranded deals custody facade id) : Stranded (deals ++ now) next facade id := by
  obtain ⟨began, unmade, unhanded⟩ := stranded
  have again : .began facade id ∉ now := by
    intro late
    have once := kept.begun
    rw [begunWith_append] at once
    exact (List.nodup_append.mp once).2.2 _ (mem_begunWith.mpr began) _ (mem_begunWith.mpr late) rfl
  obtain ⟨before, found, ⟨popped, pushed, below, top, left, turn⟩ | ⟨-, apart, same⟩⟩ :=
    step.of_facade there
  · rw [top] at unmade
    refine ⟨List.mem_append_left _ began, fun making => ?_, fun underlying given => ?_⟩
    · rw [left] at making
      rcases List.mem_append.mp making with new | old
      · exact again (turn.making.1 new)
      · exact unmade (List.mem_append_right _ old)
    · rcases List.mem_append.mp given with early | late
      · exact unhanded underlying early
      · exact unmade (List.mem_append_left _ (turn.making.2 underlying late))
  · refine ⟨List.mem_append_left _ began, fun making => unmade ((same _ rfl).mp making),
      fun underlying given => ?_⟩
    exact unhanded underlying ((List.mem_append.mp given).resolve_right fun late => apart _ late rfl)

variable [DecidableEq U]

theorem run_stranded (run : Run Step custody now next) (sound : Sound deals custody)
    (kept : ∀ {facade holding}, custody.facades[facade]? = some holding →
      Kept facade deals custody.duties holding.roster)
    (there : next.facades[facade]? = some holding)
    (stranded : Stranded deals custody facade id) : Stranded (deals ++ now) next facade id := by
  induction run generalizing holding with
  | still => exact (List.append_nil deals).symm ▸ stranded
  | onward path step ih =>
    obtain ⟨before, found, -⟩ := step.of_facade there
    have kept' := run_kept (path.onward step) sound kept there
    rw [← List.append_assoc] at kept' ⊢
    exact step.stranded there kept' (ih found)

end Custody

/-! Rosters at rest. -/

instance [DecidableEq U] (deals : List (Deal U)) (facade id : Nat) :
    Decidable (GivenUp deals facade id) := inferInstanceAs (Decidable (_ ∨ _))

/-- The books of a facade while nothing of it is under way. A panic may have cut short the release of
an implementation, or kept the facade from being given what has been registered behind it. -/
structure Balanced [DecidableEq U] (facade : Nat) (deals : List (Deal U)) (custody : Custody I A U)
    (roster : Roster I A U) : Prop where
  /-- What stands for an implementation leads to its entry, and the entry to it. -/
  inverse : roster.owners = roster.records.map fun (id, record) => (record.adapter, id)
  adapters : roster.adapters.Nodup
  numbers : roster.numbers.Nodup
  found : ∀ id record, (id, record) ∈ roster.records →
    roster.implementation? record.adapter = some record.implementation
  holds : ∀ id record, (id, record) ∈ roster.records → .cut facade id ∉ deals →
    ¬ custody.Stranded deals facade id →
      ∃ underlying, record.underlying = some underlying ∧ .handed facade id underlying ∈ deals
  entered : ∀ id, .cut facade id ∉ deals →
    (id ∈ roster.numbers ↔ .began facade id ∈ deals ∧ ¬ GivenUp deals facade id)
  counted : (∀ id, .cut facade id ∉ deals) → roster.records.length =
    ((begunWith facade deals).filter fun id => ¬ GivenUp deals facade id).length

theorem Sound.balanced [DecidableEq U] (sound : Sound deals custody)
    (there : custody.facades[facade]? = some holding)
    (kept : Kept facade deals custody.duties holding.roster)
    (alive : holding.life ≠ .gone) (idle : custody.Idle facade)
    (paired : holding.roster.Paired) (apart : holding.roster.adapters.Nodup)
    (made : ∀ id, .closed facade id ∈ deals → GivenUp deals facade id) :
    Balanced facade deals custody holding.roster := by
  have accounts := sound.accounts there
  have numbered := accounts.owned.numbered
  have entered {id : Nat} (uncut : .cut facade id ∉ deals) :
      id ∈ holding.roster.numbers ↔ .began facade id ∈ deals ∧ ¬ GivenUp deals facade id := by
    constructor
    · refine fun member => ⟨kept.entered member, fun given => ?_⟩
      rcases (accounts.doomed alive).implementation uncut given member with waiting | waiting
      · exact idle _ waiting rfl
      · exact idle _ waiting rfl
    · rintro ⟨began, unreleased⟩
      refine (kept.stays began).resolve_right fun revoked => unreleased ?_
      exact revoked.elim (made id) .inr
  refine ⟨paired, apart, numbered.records, fun id record => paired.implementation? numbered apart,
    ?_, fun id => entered, fun uncut => ?_⟩
  · intro id record member uncut whole
    have began := kept.entered (List.mem_map_of_mem (f := Prod.fst) member)
    obtain ⟨underlying, handed⟩ : ∃ underlying, .handed facade id underlying ∈ deals := by
      by_contra unhanded
      exact whole ⟨began, fun making => idle _ making rfl, not_exists.mp unhanded⟩
    have holds := (kept.holds member handed uncut).resolve_right fun waiting => idle _ waiting rfl
    obtain ⟨held, same⟩ := Option.ne_none_iff_exists'.mp holds
    exact ⟨held, same, accounts.owned.records member same⟩
  · have same : holding.roster.numbers.Perm
        ((begunWith facade deals).filter fun id => ¬ GivenUp deals facade id) := by
      refine (List.perm_ext_iff_of_nodup numbered.records (kept.begun.filter _)).mpr fun id => ?_
      rw [entered (uncut id), List.mem_filter, mem_begunWith, decide_eq_true_eq]
    rw [← same.length_eq, Roster.numbers, List.length_map]

end RpcRouting
