import RpcRouting.Proofs.Facade.Accounts
/-! What facades have been given is either still held or has been released: counted for each
registration behind them, nothing is lost and nothing is released twice. -/
namespace RpcRouting
open Session (Life)

variable {I A U : Type} {facade : Nat} {deals now : List (Deal U)}
  {below popped pushed : List (Duty U)} {before after : Holding I A U}

theorem Holding.held_of_there {roster : Roster I A U} {life : Life} (there : life ≠ .gone) :
    Holding.held ⟨roster, life⟩ = roster.underlyings := if_neg there

theorem Stacked.there {duty : Duty U} (stacked : Stacked (duty :: below))
    (lasting : Lasting facade (duty :: below) before.life) (uses : duty.roster? = some facade) :
    before.life ≠ .gone := by
  rcases stacked.sheltered uses with called | held
  · rw [lasting.called (List.mem_cons_of_mem _ called)]
    exact nofun
  · exact lasting.held (List.mem_cons_of_mem _ held)

theorem underlyings_map (numbers : List Nat) (duty : Nat → Duty U)
    (nothing : ∀ number, (duty number).underlyings = []) :
    (numbers.map duty).flatMap Duty.underlyings = [] := by
  rw [List.flatMap_map, List.flatMap_eq_nil_iff]
  exact fun number _ => nothing number

variable [DecidableEq A]

/-- What a turn takes out of a roster it hands on, and what it puts there has been handed out. -/
theorem Turn.conserves [DecidableEq U] (turn : Turn facade below before popped now after pushed)
    (numbered : before.roster.Numbered)
    (pending : Pending facade deals (popped ++ below) before.roster)
    (stacked : Stacked (popped ++ below)) (lasting : Lasting facade (popped ++ below) before.life)
    (underlying : U) :
    (handed now).count underlying +
        (before.held ++ popped.flatMap Duty.underlyings).count underlying =
      (released now).count underlying +
        (after.held ++ pushed.flatMap Duty.underlyings).count underlying := by
  cases turn with
  | register implementation adapter =>
    simp [Deal.handed?, Deal.released?, Holding.held, Duty.underlyings,
      Roster.takeNumber, Roster.underlyings, Roster.enter]
  | listen =>
    simp [Deal.handed?, Deal.released?, Holding.held, Duty.underlyings,
      Roster.takeNumber, Roster.underlyings]
  | vanish _ _ all | letGoLast _ all =>
    simp [Holding.held, Duty.underlyings, all.count_eq]
  | leave => simp [Holding.held]
  | @attach id roster record life given entered =>
    have there := stacked.there lasting rfl
    have kept : record.underlying = none :=
      (pending.complete (by simp)).2 record (Roster.mem_of_record? entered)
    have counts := Roster.count_setUnderlying numbered entered (some given) underlying
    rw [kept] at counts
    simp only [Holding.held_of_there there]
    simp [Deal.handed?, Deal.released?, Duty.underlyings] at counts ⊢
    omega
  | @enterListener id roster life given =>
    have there := stacked.there lasting rfl
    simp only [Holding.held_of_there there]
    simp [Deal.handed?, Deal.released?, Duty.underlyings,
      Roster.count_enterListener]
    omega
  | @release id roster record life entered =>
    have there := stacked.there lasting rfl
    have counts := Roster.count_setUnderlying numbered entered none underlying
    simp only [Holding.held_of_there there]
    cases kept : record.underlying <;> rw [kept] at counts <;>
      simp [Duty.underlyings] at counts ⊢ <;> omega
  | @finishRelease id roster life =>
    have releasing : .finishRelease facade id ∈ [Duty.finishRelease facade id] ++ below := by simp
    have nothing := (pending.finish releasing).2
    simp [Holding.held, Duty.underlyings, Roster.underlyings_remove nothing]
  | @releaseListener id roster given life entered =>
    have there := stacked.there lasting rfl
    have counts := Roster.count_removeListener numbered entered underlying
    simp only [Holding.held_of_there there]
    simp [Duty.underlyings] at counts ⊢
    omega
  | @orphan id holding given missing =>
    simp [Deal.handed?, Deal.released?, Duty.underlyings]
    omega
  | @shut roster numbers =>
    have nothing := underlyings_map (U := U) numbers (.release facade) fun _ => rfl
    simp [Deal.handed?, Deal.released?, Duty.underlyings, nothing]
  | @releaseListeners _ numbers =>
    have nothing := underlyings_map (U := U) numbers (.releaseListener facade) fun _ => rfl
    simp [Duty.underlyings, nothing]
  | @cut _ duty deal releases =>
    have nothing : duty.underlyings = [] ∧ deal.handed? = none ∧ deal.released? = none := by
      cases duty <;> cases releases <;> exact ⟨rfl, rfl, rfl⟩
    simp [nothing]
  | use | close | closeLate | closeListener | closeListenerLate | abandon | abandonListener
  | releaseMissing | releaseListenerMissing | back | letGo =>
    simp [Deal.handed?, Deal.released?, Duty.underlyings]

/-- What is counted in a list shifts as one of its items does. -/
theorem count_flatMap_set {α β : Type} [DecidableEq β] {items : List α} {index : Nat} {item : α}
    (there : items[index]? = some item) (new : α) (f : α → List β) (b : β) :
    ((items.set index new).flatMap f).count b + (f item).count b =
      (items.flatMap f).count b + (f new).count b := by
  induction items generalizing index with
  | nil => cases there
  | cons first rest ih =>
    cases index with
    | zero =>
      cases Option.some.inj there
      simp only [List.set_cons_zero, List.flatMap_cons, List.count_append]
      omega
    | succ index =>
      have rest := ih there
      simp only [List.set_cons_succ, List.flatMap_cons, List.count_append] at rest ⊢
      omega

end RpcRouting
