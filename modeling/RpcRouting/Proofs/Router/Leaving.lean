import RpcRouting.Proofs.Router.Telling
/-! What a listener hears after its registration has left the router: nothing new is queued for it,
so it hears what waits at that moment, as far as no panic gives it up. -/
namespace RpcRouting

variable {I L : Type}

namespace Desk

/-- A registration that has been made and is not with the router any more. -/
structure Left (registration : Nat) (desk : Desk I L) : Prop where
  older : registration < desk.router.nextNumber
  gone : ∀ subscription ∈ desk.router.subscriptions, subscription.registration ≠ registration

variable {desk next last : Desk I L} {acts : List (Act I L)} {registration : Nat}

/-- What a change queues for registrations that stay away from the router. -/
theorem callsTo_queuedBy {router : Router I L} {accepts : Acceptance I L} {change : Change I L}
    (gone : ∀ subscription ∈ (router.amend accepts change).subscriptions,
      subscription.registration ≠ registration) :
    callsTo registration ((enqueued [.changed router accepts change]).flatMap Delivery.calls) =
      [] := by
  simpa [enqueued, Act.queued, Router.queuedBy] using
    Router.callsTo_differences_of_closed accepts gone

theorem Left.step (left : desk.Left registration) (step : Step desk acts next) :
    next.Left registration ∧
      callsTo registration (called acts) ++ callsTo registration next.waiting =
        callsTo registration desk.waiting := by
  have calls := congrArg (callsTo registration) step.waiting
  rw [callsTo_append, callsTo_append] at calls
  have older := Nat.lt_of_lt_of_le left.older step.nextNumber_le
  cases step with
  | change accepts change =>
    have gone : ∀ subscription ∈ (desk.router.amend accepts change).subscriptions,
        subscription.registration ≠ registration := by
      intro subscription member same
      exact left.gone subscription
        (Router.mem_subscriptions_amend member (same ▸ left.older)) same
    rw [callsTo_queuedBy gone, List.append_nil] at calls
    refine ⟨⟨older, fun subscription member => ?_⟩, calls.symm⟩
    obtain ⟨before, amended, rfl⟩ := Router.exists_of_mem_apply member
    rw [registration_refresh]
    exact gone before amended
  | begin taken =>
    rw [((Router.nextDelivery?_eq_some _ _ _).mp taken).2] at older calls ⊢
    exact ⟨⟨older, left.gone⟩, (List.append_nil (callsTo registration _) ▸ calls).symm⟩
  | idle | adopt | finish | call =>
    exact ⟨⟨older, left.gone⟩, (List.append_nil (callsTo registration _) ▸ calls).symm⟩

theorem Left.loss (left : desk.Left registration) (loss : Loss desk next) :
    next.Left registration ∧
      (callsTo registration next.waiting).Sublist (callsTo registration desk.waiting) := by
  constructor
  · cases loss with
    | call | duty => exact ⟨left.older, left.gone⟩
  · exact loss.waiting.filter _

/-- While nothing is lost, what waits is called or still waits. -/
theorem Left.run (left : desk.Left registration) (run : Run Step desk acts last) :
    last.Left registration ∧
      callsTo registration (called acts) ++ callsTo registration last.waiting =
        callsTo registration desk.waiting := by
  induction run with
  | still => exact ⟨left, rfl⟩
  | onward path step ih =>
    obtain ⟨left', calls⟩ := ih.1.step step
    refine ⟨left', ?_⟩
    rw [called_append, callsTo_append, List.append_assoc, calls, ih.2]

/-- Whatever happens, nothing else is called than what waits. -/
theorem Left.turns (left : desk.Left registration) (run : Run Turn desk acts last) :
    last.Left registration ∧
      (callsTo registration (called acts) ++ callsTo registration last.waiting).Sublist
        (callsTo registration desk.waiting) := by
  induction run with
  | still => exact ⟨left, .refl _⟩
  | onward path turn ih =>
    rw [called_append, callsTo_append, List.append_assoc]
    cases turn with
    | step step =>
      obtain ⟨left', calls⟩ := ih.1.step step
      rw [calls]
      exact ⟨left', ih.2⟩
    | loss loss =>
      obtain ⟨left', fewer⟩ := ih.1.loss loss
      exact ⟨left', ((List.Sublist.refl _).append fewer).trans ih.2⟩

end Desk
end RpcRouting
