import RpcRouting.Proofs.Facade.Disposing
/-! Where the registration of a listener is from when its facade has been given it: in the roster,
then about to be closed, and then closed; unless the roster is gone with all it held. -/
namespace RpcRouting
open Session (Life)

variable {I A U : Type} {facade id : Nat} {deals earlier now : List (Deal U)} {underlying : U}
  {duties below popped pushed : List (Duty U)} {before after holding : Holding I A U}
  {custody next : Custody I A U}

inductive Placed (id : Nat) (underlying : U) (deals : List (Deal U)) (duties : List (Duty U))
    (holding : Holding I A U) : Prop
  | entered (entry : (id, underlying) ∈ holding.roster.listeners)
  | leaving (absent : id ∉ holding.roster.listenerNumbers)
      (closes : .close underlying ∈ duties ∨ .released underlying ∈ deals)
  | gone (gone : holding.life = .gone)

namespace Custody

/-- Where a facade has put the registration that it has been given for a listener. -/
def Places (custody : Custody I A U) (facade id : Nat) (underlying : U) (deals : List (Deal U)) :
    Prop :=
  ∀ holding, custody.facades[facade]? = some holding →
    Placed id underlying deals custody.duties holding

/-- A facade has no entry for a listener. -/
def Without (custody : Custody I A U) (facade id : Nat) : Prop :=
  ∀ holding, custody.facades[facade]? = some holding → id ∉ holding.roster.listenerNumbers

def Alive (custody : Custody I A U) (facade : Nat) : Prop :=
  ∃ holding, custody.facades[facade]? = some holding ∧ holding.life = .alive

end Custody

theorem Roster.eq_of_listener? {roster : Roster I A U} {other : U} (numbered : roster.Numbered)
    (found : roster.listener? id = some other) (entry : (id, underlying) ∈ roster.listeners) :
    underlying = other := by
  obtain ⟨above, rest, listeners, free, others⟩ := split_of_lookup found numbered.listeners
  rw [listeners] at entry
  rcases List.mem_append.mp entry with early | late
  · exact absurd rfl (free _ early)
  · rcases List.mem_cons.mp late with same | late
    · exact (Prod.mk.inj same).2
    · exact absurd rfl (others _ late)

/-! What one facade does. -/

variable [DecidableEq A]

/-- Nothing that is to be closed is taken up by a facade. -/
theorem Turn.closes (turn : Turn facade below before popped now after pushed)
    (waiting : .close underlying ∈ popped ++ below) : .close underlying ∈ pushed ++ below := by
  refine List.mem_append_right _ ((List.mem_append.mp waiting).resolve_left ?_)
  cases turn with
  | @cut _ duty deal releases =>
    intro member
    cases List.mem_singleton.mp member
    cases releases
  | _ => simp

theorem Turn.alive (turn : Turn facade below before popped now after pushed)
    (alive : after.life = .alive) : before.life = .alive := by
  cases turn with
  | register | listen | shut | use | leave | vanish => rfl
  | letGoLast => cases alive
  | _ => exact alive

/-- A listener is entered by nothing but the completion of its registration. -/
theorem Turn.absent (turn : Turn facade below before popped now after pushed)
    (done : .completeListener facade id ∉ popped ++ below)
    (absent : id ∉ before.roster.listenerNumbers) : id ∉ after.roster.listenerNumbers := by
  cases turn with
  | @enterListener number roster life other =>
    have ne : id ≠ number := by
      rintro rfl
      exact done (List.mem_append_left _ List.mem_cons_self)
    simpa [ne] using absent
  | releaseListener =>
    rw [Roster.listenerNumbers_removeListener]
    exact fun entered => absent (List.mem_of_mem_filter entered)
  | finishRelease =>
    rw [Roster.listenerNumbers_remove]
    exact absent
  | _ => exact absent

theorem Turn.entered (turn : Turn facade below before popped now after pushed)
    (handed : .handedListener facade id underlying ∈ now) :
    (id, underlying) ∈ after.roster.listeners := by
  cases turn with
  | enterListener =>
    cases List.mem_singleton.mp handed
    simp [Roster.enterListener]
  | @cut _ duty deal releases => cases duty <;> cases releases <;> simp at handed
  | _ => simp at handed

theorem Turn.placed (turn : Turn facade below before popped now after pushed)
    (numbered : before.roster.Numbered) (done : .completeListener facade id ∉ popped ++ below)
    (placed : Placed id underlying deals (popped ++ below) before) :
    Placed id underlying (deals ++ now) (pushed ++ below) after := by
  cases placed with
  | gone gone => exact .gone (by_contra fun there => turn.life there gone)
  | leaving absent closes =>
    exact .leaving (turn.absent done absent) (closes.imp turn.closes (List.mem_append_left _))
  | entered entry =>
    cases turn with
    | @releaseListener number roster other life found =>
      by_cases same : id = number
      · subst same
        obtain rfl := Roster.eq_of_listener? numbered found entry
        refine .leaving ?_ (.inl List.mem_cons_self)
        rw [Roster.listenerNumbers_removeListener]
        simp
      · exact .entered (List.mem_filter.mpr ⟨entry, by simpa using same⟩)
    | vanish | letGoLast => exact .gone rfl
    | enterListener => exact .entered (List.mem_append_left _ entry)
    | finishRelease =>
      refine .entered ?_
      rw [Roster.listeners_remove]
      exact entry
    | _ => exact .entered entry

/-! Steps. What a step means to a facade is a turn of it, or nothing. -/

theorem Custody.Step.of_facade (step : Step custody now next)
    (there : next.facades[facade]? = some after) :
    ∃ before, custody.facades[facade]? = some before ∧
      ((∃ popped pushed below, custody.duties = popped ++ below ∧ next.duties = pushed ++ below ∧
        Turn facade below before popped now after pushed) ∨
      before = after ∧ (∀ deal ∈ now, deal.facade? ≠ some facade) ∧
        ∀ duty : Duty U, duty.facade? = some facade →
          (duty ∈ next.duties ↔ duty ∈ custody.duties)) := by
  cases step with
  | @turn before _ later pushed _ other popped below found top turn =>
    by_cases same : other = facade
    · subst same
      have length : other < custody.facades.length := (List.getElem?_eq_some_iff.mp found).1
      rw [List.getElem?_set_self length, Option.some.injEq] at there
      exact ⟨before, found, .inl ⟨popped, pushed, below, top, rfl, there ▸ turn⟩⟩
    · rw [List.getElem?_set_ne same] at there
      refine ⟨after, there, .inr ⟨rfl, fun deal member own => same ?_, fun duty own => ?_⟩⟩
      · exact Option.some.inj ((turn.own.2 deal member).symm.trans own)
      · have free : duty ∉ popped ++ pushed := by
          intro member
          rcases turn.own.1 duty member with its | none
          · exact same (Option.some.inj (its.symm.trans own))
          · cases none.symm.trans own
        simp only [List.mem_append, not_or] at free
        simp [top, free]
  | close =>
    refine ⟨after, there, .inr ⟨rfl, by simp [Deal.facade?], fun duty own => ?_⟩⟩
    cases duty <;> simp [Duty.facade?] at own ⊢
  | closeNext | closeLast =>
    refine ⟨after, there, .inr ⟨rfl, List.forall_mem_nil _, fun duty own => ?_⟩⟩
    cases duty <;> simp [Duty.facade?] at own ⊢

theorem Custody.Step.closes (step : Step custody now next)
    (waiting : .close underlying ∈ custody.duties) :
    .close underlying ∈ next.duties ∨ .released underlying ∈ now := by
  cases step with
  | turn _ _ _ top turn =>
    rw [top] at waiting
    exact .inl (turn.closes waiting)
  | close =>
    rcases List.mem_cons.mp waiting with same | later
    · cases same
      exact .inr List.mem_cons_self
    · exact .inl later
  | closeNext =>
    have later := (List.mem_cons.mp waiting).resolve_left nofun
    exact .inl (List.mem_cons_of_mem _ (List.mem_cons_of_mem _ later))
  | closeLast => exact .inl ((List.mem_cons.mp waiting).resolve_left nofun)

variable [DecidableEq U]

theorem Custody.Step.without (step : Step custody now next) (sound : Sound deals custody)
    (handed : .handedListener facade id underlying ∈ deals) (without : custody.Without facade id) :
    next.Without facade id := by
  intro holding there
  obtain ⟨before, found, ⟨popped, pushed, below, top, -, turn⟩ | ⟨rfl, -⟩⟩ := step.of_facade there
  · have done := ((sound.accounts found).pending.completed handed).2
    exact turn.absent (top ▸ done) (without before found)
  · exact without before found

theorem Custody.Step.places (step : Step custody now next) (sound : Sound (earlier ++ deals) custody)
    (places : .handedListener facade id underlying ∈ deals →
      custody.Places facade id underlying deals)
    (handed : .handedListener facade id underlying ∈ deals ++ now) :
    next.Places facade id underlying (deals ++ now) := by
  intro holding there
  obtain ⟨before, found, ⟨popped, pushed, below, top, left, turn⟩ | ⟨rfl, apart, -⟩⟩ :=
    step.of_facade there
  · rw [left]
    rcases List.mem_append.mp handed with early | late
    · obtain ⟨owned, pending, -, -⟩ := sound.accounts found
      have done := (pending.completed (List.mem_append_right earlier early)).2
      exact turn.placed owned.numbered (top ▸ done) (top ▸ places early before found)
    · exact .entered (turn.entered late)
  · have early := (List.mem_append.mp handed).resolve_right fun late => apart _ late rfl
    cases places early before found with
    | entered entry => exact .entered entry
    | gone gone => exact .gone gone
    | leaving absent closes =>
      refine .leaving absent ?_
      rcases closes with waiting | released
      · exact (step.closes waiting).imp_right (List.mem_append_right _)
      · exact .inr (List.mem_append_left _ released)

/-! Runs. -/

omit [DecidableEq U] in
theorem Custody.run_alive (run : Run Step custody deals next) (alive : next.Alive facade) :
    custody.Alive facade := by
  induction run with
  | still => exact alive
  | onward _ step ih =>
    obtain ⟨holding, there, alive⟩ := alive
    obtain ⟨before, found, ⟨_, _, _, -, -, turn⟩ | ⟨rfl, -⟩⟩ := step.of_facade there
    · exact ih ⟨before, found, turn.alive alive⟩
    · exact ih ⟨before, found, alive⟩

theorem Custody.run_without (sound : Sound earlier custody) (run : Run Step custody deals next)
    (handed : .handedListener facade id underlying ∈ earlier) (without : custody.Without facade id) :
    next.Without facade id := by
  induction run with
  | still => exact without
  | onward path step ih =>
    exact step.without (sound.run path) (List.mem_append_left _ handed) ih

theorem Custody.run_places (sound : Sound (earlier ++ deals) custody)
    (run : Run Step custody now next)
    (places : .handedListener facade id underlying ∈ deals →
      custody.Places facade id underlying deals)
    (handed : .handedListener facade id underlying ∈ deals ++ now) :
    next.Places facade id underlying (deals ++ now) := by
  induction run with
  | still =>
    rw [List.append_nil] at handed ⊢
    exact places handed
  | onward path step ih =>
    have sound := List.append_assoc earlier .. ▸ sound.run path
    rw [← List.append_assoc] at handed ⊢
    exact step.places sound ih handed

end RpcRouting
