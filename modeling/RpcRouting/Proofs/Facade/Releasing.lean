import RpcRouting.Proofs.Facade.Accounts
/-! What has been given up, and what becomes of it: as long as it has an entry, work is under way
that releases it. -/
namespace RpcRouting
open Session (Life)

variable {I A U : Type} {facade id : Nat} {deals now : List (Deal U)}
  {duties below rest popped pushed : List (Duty U)} {roster : Roster I A U}
  {before after : Holding I A U}

/-- What has been given up and still has an entry is about to be released, unless a panic has cut its
release short. -/
structure Doomed (facade : Nat) (deals : List (Deal U)) (duties : List (Duty U))
    (roster : Roster I A U) : Prop where
  implementation : ∀ {id}, .cut facade id ∉ deals → GivenUp deals facade id →
    id ∈ roster.numbers → .release facade id ∈ duties ∨ .finishRelease facade id ∈ duties
  listener : ∀ {id underlying}, .cut facade id ∉ deals → .cutListeners facade ∉ deals →
    GivenUpListener deals facade id underlying → id ∈ roster.listenerNumbers →
      .releaseListener facade id ∈ duties ∨ .releaseListeners facade ∈ duties

theorem pair_sublist_append {first second : Deal U}
    (both : [first, second].Sublist (deals ++ now)) (short : now.length ≤ 1) :
    [first, second].Sublist deals ∨ first ∈ deals ∧ second ∈ now := by
  obtain ⟨early, late, same, inside, last⟩ := List.sublist_append_iff.mp both
  match early, late, same with
  | [], _, rfl => exact absurd (Nat.le_trans last.length_le short) (by simp)
  | [_], _, rfl => exact .inr ⟨inside.subset (by simp), last.subset (by simp)⟩
  | [_, _], [], rfl => exact .inl inside

/-- What is given up had been given up before, or is given up now, after it had begun. -/
theorem given_up_append {began closed closing : Deal U} (short : now.length ≤ 1)
    (given : [began, closed].Sublist (deals ++ now) ∨ [began, closing].Sublist (deals ++ now)) :
    ([began, closed].Sublist deals ∨ [began, closing].Sublist deals) ∨
      began ∈ deals ∧ (closed ∈ now ∨ closing ∈ now) := by
  rcases given with given | given
  · rcases pair_sublist_append given short with early | ⟨begun, late⟩
    · exact .inl (.inl early)
    · exact .inr ⟨begun, .inl late⟩
  · rcases pair_sublist_append given short with early | ⟨begun, late⟩
    · exact .inl (.inr early)
    · exact .inr ⟨begun, .inr late⟩

theorem mem_of_given_up {began closed closing : Deal U}
    (given : [began, closed].Sublist deals ∨ [began, closing].Sublist deals) : began ∈ deals := by
  rcases given with given | given <;> exact given.subset List.mem_cons_self

variable [DecidableEq A]

theorem Turn.short (turn : Turn facade below before popped now after pushed) :
    now.length ≤ 1 := by
  cases turn <;> simp

/-- Work that is about to release an implementation goes on to do so, among whichever part of the
rest of the work it stands. -/
theorem Turn.doomed_implementation (turn : Turn facade below before popped now after pushed)
    (uncut : .cut facade id ∉ now) (there : after.life ≠ .gone)
    (owned : Owned facade deals before.roster)
    (doomed : GivenUp deals facade id → id ∈ before.roster.numbers →
      .release facade id ∈ popped ++ rest ∨ .finishRelease facade id ∈ popped ++ rest)
    (given : GivenUp (deals ++ now) facade id) (entered : id ∈ after.roster.numbers) :
    .release facade id ∈ pushed ++ rest ∨ .finishRelease facade id ∈ pushed ++ rest := by
  rcases given_up_append turn.short given with early | ⟨began, late⟩
  · cases turn with
    | @register roster =>
      have old : id ∈ roster.numbers := by
        rw [Roster.numbers_enter] at entered
        rcases List.mem_append.mp entered with old | new
        · exact old
        · cases List.mem_singleton.mp new
          exact absurd (owned.began (mem_of_given_up early)) (Nat.lt_irrefl _)
      simpa using doomed early old
    | @release number roster record life found =>
      rw [Roster.numbers_setUnderlying] at entered
      have waiting := doomed early entered
      simp only [List.cons_append, List.nil_append, List.mem_cons, Duty.release.injEq, true_and,
        reduceCtorEq, false_or] at waiting
      by_cases same : id = number
      · simp [same]
      · simpa [same] using waiting
    | @releaseMissing number _ missing =>
      have waiting := doomed early entered
      have other : id ≠ number := by
        rintro rfl
        exact Roster.record?_eq_none.mp missing entered
      simpa [other] using waiting
    | @finishRelease number roster life =>
      rw [Roster.numbers_remove] at entered
      obtain ⟨old, other⟩ := List.mem_filter.mp entered
      have waiting := doomed early old
      have other : id ≠ number := by simpa using other
      simpa [other] using waiting
    | attach =>
      rw [Roster.numbers_setUnderlying] at entered
      simpa using doomed early entered
    | @cut _ duty deal releases =>
      have other : duty ≠ .release facade id ∧ duty ≠ .finishRelease facade id := by
        constructor <;> rintro rfl <;> cases releases <;> simp at uncut
      simpa [other.1.symm, other.2.symm] using doomed early entered
    | listen | shut | use | close | closeLate | closeListener | closeListenerLate | leave | vanish =>
      exact (doomed early entered).imp (List.mem_append_right _) (List.mem_append_right _)
    | orphan | enterListener | abandon | abandonListener | releaseListener
    | releaseListenerMissing | releaseListeners | back | letGo | letGoLast =>
      simpa using doomed early entered
  · cases turn with
    | shut all =>
      refine .inl (List.mem_append_left _ (List.mem_append_left _ ?_))
      exact List.mem_map_of_mem (all.mem_iff.mpr entered)
    | close number =>
      have same : id = number := by simpa using late
      simp [same]
    | closeLate number gone => exact absurd gone there
    | register | listen | use | closeListener | closeListenerLate | leave | vanish | attach | orphan
    | enterListener | abandon | abandonListener | release | releaseMissing | finishRelease
    | releaseListener | releaseListenerMissing | releaseListeners | back | letGo | letGoLast =>
      simp at late
    | @cut _ duty deal releases =>
      cases duty <;> cases releases <;> simp at late

theorem Turn.doomed_listener (turn : Turn facade below before popped now after pushed)
    (uncut : .cut facade id ∉ now ∧ .cutListeners facade ∉ now) (there : after.life ≠ .gone)
    {underlying : U}
    (pending : Pending facade deals (popped ++ below) before.roster)
    (doomed : GivenUpListener deals facade id underlying → id ∈ before.roster.listenerNumbers →
      .releaseListener facade id ∈ popped ++ rest ∨ .releaseListeners facade ∈ popped ++ rest)
    (given : GivenUpListener (deals ++ now) facade id underlying)
    (entered : id ∈ after.roster.listenerNumbers) :
    .releaseListener facade id ∈ pushed ++ rest ∨ .releaseListeners facade ∈ pushed ++ rest := by
  rcases given_up_append turn.short given with early | ⟨handed, late⟩
  · cases turn with
    | @enterListener number roster life other =>
      have old : id ∈ roster.listenerNumbers := by
        rw [Roster.listenerNumbers_enterListener, List.mem_append, List.mem_singleton] at entered
        rcases entered with old | rfl
        · exact old
        · exact absurd (List.mem_append_left _ List.mem_cons_self)
            (pending.completed (mem_of_given_up early)).2
      simpa using doomed early old
    | @releaseListener number roster other life found =>
      rw [Roster.listenerNumbers_removeListener] at entered
      obtain ⟨old, other⟩ := List.mem_filter.mp entered
      have waiting := doomed early old
      have other : id ≠ number := by simpa using other
      simpa [other] using waiting
    | @releaseListenerMissing number _ missing =>
      have waiting := doomed early entered
      have other : id ≠ number := by
        rintro rfl
        exact Roster.listener?_eq_none.mp missing entered
      simpa [other] using waiting
    | releaseListeners all =>
      exact .inl (List.mem_append_left _ (List.mem_map_of_mem (all.mem_iff.mpr entered)))
    | finishRelease =>
      rw [Roster.listenerNumbers_remove] at entered
      simpa using doomed early entered
    | @cut _ duty deal releases =>
      have other : duty ≠ .releaseListener facade id ∧ duty ≠ .releaseListeners facade := by
        constructor <;> rintro rfl <;> cases releases <;> simp at uncut
      simpa [other.1.symm, other.2.symm] using doomed early entered
    | register | listen | shut | use | close | closeLate | closeListener | closeListenerLate | leave
    | vanish =>
      exact (doomed early entered).imp (List.mem_append_right _) (List.mem_append_right _)
    | attach | orphan | abandon | abandonListener | release | releaseMissing | back | letGo
    | letGoLast =>
      simpa using doomed early entered
  · cases turn with
    | shut => simp
    | closeListener number =>
      have same : id = number := by simpa using late
      simp [same]
    | closeListenerLate number gone => exact absurd gone there
    | register | listen | use | close | closeLate | leave | vanish | attach | orphan | enterListener
    | abandon | abandonListener | release | releaseMissing | finishRelease | releaseListener
    | releaseListenerMissing | releaseListeners | back | letGo | letGoLast =>
      simp at late
    | @cut _ duty deal releases =>
      cases duty <;> cases releases <;> simp at late

end RpcRouting
