import RpcRouting.Proofs.Router.Ticketing
/-! What is done to a followed router, performed by a router at work: each change is told to all
listeners before anything else is done. -/
namespace RpcRouting

variable {N I L : Type}

namespace Desk

theorem run_calls (router : Router I L) (calls : List (Call L)) :
    Run Step ⟨router, calls⟩ (calls.map .called) ⟨router, []⟩ := by
  induction calls with
  | nil => exact .still
  | cons call later ih => exact (Run.single .call).append ih

/-- Who has the duty tells whatever is pending. -/
theorem run_tellings (router : Router I L)
    (duty : router.pending ≠ [] → router.delivering = true) :
    Run Step ⟨router, []⟩ (tellings router.pending) ⟨router.atRest, []⟩ := by
  generalize waits : router.pending = pending at duty ⊢
  induction pending generalizing router with
  | nil =>
    have rests : router.stopDelivering = router.atRest := by
      rw [Router.stopDelivering, Router.atRest, ← waits]
    exact rests ▸ Run.single (.finish ((Router.nextDelivery?_eq_none router).mpr waits))
  | cons delivery later ih =>
    have busy := duty (List.cons_ne_nil _ _)
    have taken : router.nextDelivery? = some (delivery, { router with pending := later }) :=
      (Router.nextDelivery?_eq_some ..).mpr ⟨waits, rfl⟩
    have rest := ih { router with pending := later } rfl fun _ => busy
    have acts : tellings (delivery :: later) =
        ([.begun delivery] ++ (delivery.calls.map .called ++ tellings later) : List (Act I L)) := rfl
    rw [acts]
    exact (Run.single (.begin taken busy)).append ((run_calls _ _).append rest)

end Desk

namespace Followed

variable {followed : Followed N I L} {errand : Errand N I L} {errands : List (Errand N I L)}
  {name : N} {change : Change I L}

/-- How a router at rest does something. -/
def actsFor (followed : Followed N I L) (errand : Errand N I L) : List (Act I L) :=
  match followed.change? errand.doing, errand.doing with
  | some change, _ =>
    .changed followed.router errand.accepts change :: tellings (followed.told errand)
  | none, .updateSchema schema => [.adopted schema]
  | none, _ => []

theorem called_actsFor :
    called (followed.actsFor errand) = (followed.told errand).flatMap Delivery.calls := by
  obtain ⟨now, doing⟩ := errand
  cases makes : followed.change? doing with
  | some change =>
    simp only [actsFor, makes]
    exact called_tellings _
  | none =>
    have nothing : followed.told ⟨now, doing⟩ = [] := by simp [told, makes]
    rw [nothing]
    cases doing <;> simp only [actsFor, makes] <;> rfl

variable [DecidableEq N]

/-- How a router at rest does one thing after the other. -/
def actsOf (followed : Followed N I L) : List (Errand N I L) → List (Act I L)
  | [] => []
  | errand :: later => followed.actsFor errand ++ (followed.take errand).actsOf later

theorem called_actsOf :
    called (followed.actsOf errands) = (followed.toldOf errands).flatMap Delivery.calls := by
  induction errands generalizing followed with
  | nil => rfl
  | cons errand later ih =>
    rw [actsOf, called_append, called_actsFor, ih, toldOf, List.flatMap_append]

theorem atRest_take (rests : followed.router.atRest = followed.router) :
    (followed.take errand).router.atRest = (followed.take errand).router := by
  rw [take]
  split
  · rfl
  · exact congrArg (Router.updateSchema _) rests
  · exact rests

theorem run_actsFor (rests : followed.router.atRest = followed.router) :
    Run Desk.Step ⟨followed.router, []⟩ (followed.actsFor errand)
      ⟨(followed.take errand).router, []⟩ := by
  obtain ⟨now, doing⟩ := errand
  cases makes : followed.change? doing with
  | some change =>
    let changed := (followed.router.apply now change).onDuty
    have idle : followed.router.pending = [] := (congrArg Router.pending rests).symm
    have pending : changed.pending = followed.told ⟨now, doing⟩ := by
      rw [Router.pending_onDuty, Router.pending_apply, idle]
      simp [told, makes]
    have duty : changed.pending ≠ [] → changed.delivering = true := by
      simp only [changed, Router.onDuty_eq, Bool.or_eq_true]
      exact fun waits => .inr (by simpa using waits)
    have router : (followed.take ⟨now, doing⟩).router = changed.atRest := by
      simp only [take, makes]
      exact Router.atRest_onDuty.symm
    have acts : followed.actsFor ⟨now, doing⟩ =
        [.changed followed.router now change] ++ tellings changed.pending := by
      rw [pending]
      simp only [actsFor, makes]
      rfl
    rw [acts, router]
    exact (Run.single (.change now change)).append (Desk.run_tellings changed duty)
  | none =>
    cases doing with
    | updateSchema schema => exact .single (.adopt schema)
    | close name =>
      simp only [actsFor, take, makes]
      exact .still
    | register | listen | miss => cases makes

/-- A router at rest does one thing after the other. -/
theorem run_actsOf (rests : followed.router.atRest = followed.router) :
    Run Desk.Step ⟨followed.router, []⟩ (followed.actsOf errands)
      ⟨(followed.after errands).router, []⟩ := by
  induction errands generalizing followed with
  | nil => exact .still
  | cons errand later ih => exact (run_actsFor rests).append (ih (atRest_take rests))

end Followed
end RpcRouting
