import RpcRouting.Proofs.Router.Telling
import RpcRouting.Proofs.Router.Ticketing
/-! Registrations that have been taken back. What they went by is not given again, so that nothing
brings them back. -/
namespace RpcRouting

variable {I L : Type}

def Ticket.number : Ticket → Nat
  | .offer number | .subscription number => number

namespace Router
variable {router : Router I L} {accepts : Acceptance I L} {change : Change I L} {ticket : Ticket}

theorem tickets_apply (accepts : Acceptance I L) (router : Router I L) (change : Change I L) :
    (router.apply accepts change).tickets = (router.amend accepts change).tickets := by
  rw [tickets, offers_apply, subscriptions_apply, List.map_map, tickets]
  exact congrArg _ (List.map_congr_left fun subscription _ =>
    congrArg Ticket.subscription (registration_refresh ..))

theorem tickets_onDuty (router : Router I L) : router.onDuty.tickets = router.tickets := by
  rw [tickets, offers_onDuty, subscriptions_onDuty, tickets]

/-- Whatever is open goes by a number that has been given. -/
theorem Orderly.number_lt (orderly : router.Orderly) (opened : ticket ∈ router.tickets) :
    ticket.number < router.nextNumber := by
  rcases List.mem_append.mp opened with offered | subscribed
  · obtain ⟨offer, member, rfl⟩ := List.mem_map.mp offered
    exact orderly.offers_lt offer member
  · obtain ⟨subscription, member, rfl⟩ := List.mem_map.mp subscribed
    exact orderly.subscriptions_lt subscription member

/-- A change opens nothing that goes by a number given before. -/
theorem mem_tickets_amend (opened : ticket ∈ (router.amend accepts change).tickets)
    (older : ticket.number < router.nextNumber) : ticket ∈ router.tickets := by
  rcases List.mem_append.mp opened with offered | subscribed
  · refine List.mem_append_left _ ?_
    obtain ⟨offer, member, rfl⟩ := List.mem_map.mp offered
    refine List.mem_map_of_mem ?_
    cases change with
    | register implementation cost rpcs =>
      rcases List.mem_append.mp member with old | new
      · exact old
      · rw [List.mem_singleton.mp new] at older
        exact absurd older (Nat.lt_irrefl _)
    | unregister number => exact (List.mem_filter.mp member).1
    | listen | unlisten => exact member
  · obtain ⟨subscription, member, rfl⟩ := List.mem_map.mp subscribed
    exact List.mem_append_right _ (List.mem_map_of_mem (mem_subscriptions_amend member older))

/-- What is taken back is not open any more. -/
theorem not_mem_tickets_amend (accepts : Acceptance I L) (router : Router I L) (ticket : Ticket) :
    ticket ∉ (router.amend accepts ticket.withdrawal).tickets := by
  cases ticket <;> simp [tickets, amend, Ticket.withdrawal]

end Router

namespace Desk
variable {desk next last : Desk I L} {acts : List (Act I L)} {ticket : Ticket}

/-- A registration that has been made and is not open any more. -/
structure Lapsed (ticket : Ticket) (desk : Desk I L) : Prop where
  older : ticket.number < desk.router.nextNumber
  closed : ticket ∉ desk.router.tickets

theorem Lapsed.change {router : Router I L} {inHand : List (Call L)}
    (older : ticket.number < router.nextNumber) {accepts : Acceptance I L} {change : Change I L}
    (closed : ticket ∉ (router.amend accepts change).tickets) :
    Lapsed ticket ⟨(router.apply accepts change).onDuty, inHand⟩ := by
  constructor
  · rw [Router.nextNumber_onDuty, Router.nextNumber_apply]
    exact Nat.lt_of_lt_of_le older (Router.nextNumber_le_amend ..)
  · rwa [Router.tickets_onDuty, Router.tickets_apply]

theorem Lapsed.turn (lapsed : desk.Lapsed ticket) (turn : Turn desk acts next) :
    next.Lapsed ticket := by
  have older := Nat.lt_of_lt_of_le lapsed.older turn.nextNumber_le
  cases turn with
  | step step =>
    cases step with
    | change accepts change =>
      exact .change lapsed.older fun opened =>
        lapsed.closed (Router.mem_tickets_amend opened lapsed.older)
    | begin taken =>
      rw [((Router.nextDelivery?_eq_some _ _ _).mp taken).2] at older ⊢
      exact ⟨older, lapsed.closed⟩
    | idle | adopt | finish | call => exact ⟨older, lapsed.closed⟩
  | loss loss =>
    cases loss with
    | call | duty => exact ⟨older, lapsed.closed⟩

theorem Lapsed.turns (lapsed : desk.Lapsed ticket) (run : Run Turn desk acts last) :
    last.Lapsed ticket :=
  run.invariant (P := Lapsed ticket) lapsed fun lapsed turn => lapsed.turn turn

end Desk
end RpcRouting
