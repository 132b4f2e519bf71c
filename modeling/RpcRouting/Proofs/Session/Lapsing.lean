import RpcRouting.Proofs.Router.Lapsing
import RpcRouting.Proofs.Session.Closing
/-! What closing a handle does to a router. The release that the handle is for takes the registration
out of the router, and nothing brings it back. -/
namespace RpcRouting

/-- The release that takes a registration with a router back. -/
def Ticket.release (router : Nat) : Ticket → Session.Release
  | .offer number => .offer router number
  | .subscription number => .subscription router number

namespace Session.State
variable {s t : State} {router : Nat} {ticket : Ticket}

/-- The release that the session is about to make, as it closes a handle. -/
def releasing? (s : State) : Option Release :=
  match s.panic, s.frames with
  | none, .close handle :: _ => handle.release
  | none, .closeKept handle :: _ => (s.handles[handle]?).bind (·.release)
  | _, _ => none

/-- Whoever closes the handle of an open registration has it taken out of its router, by the second
piece of work from here on and for good. -/
def Withdraws (router : Nat) (s : State) : Prop :=
  ∀ ticket found, s.router? router = some found → ticket ∈ found.tickets →
    s.releasing? = some (ticket.release router) → s.routerAlive router = true →
    ∀ acts t after, Run (Move router) s.advance.advance acts t → t.router? router = some after →
      ticket ∉ after.tickets

theorem release_ticket (alive : s.routerAlive router = true) :
    s.release (ticket.release router) = s.push [.change router ticket.withdrawal] := by
  cases ticket <;> exact if_pos alive

/-- Closing a handle has its registration taken back next. -/
theorem advance_releasing (releasing : s.releasing? = some (ticket.release router))
    (alive : s.routerAlive router = true) :
    s.frames ≠ [] ∧ s.advance.panic = none ∧
      ∃ below, s.advance.frames = .change router ticket.withdrawal :: below := by
  unfold releasing? at releasing
  split at releasing
  · rename_i handle rest calm top
    obtain ⟨below, rfl, -⟩ := eq_push_of_top top
    have there := routerAlive_below alive rfl
    have entered : below.enter (.close handle) = below.push [.change router ticket.withdrawal] := by
      simp only [enter, State.close, releasing, release_ticket there]
    rw [advance_push (s := below) calm, entered]
    exact ⟨List.cons_ne_nil _ _, calm, below.frames, rfl⟩
  · rename_i handle rest calm top
    obtain ⟨below, rfl, -⟩ := eq_push_of_top top
    obtain ⟨found, kept, release⟩ := Option.bind_eq_some_iff.mp releasing
    let closed : State := { below with handles := below.handles.modify handle (·.close) }
    have there : closed.routerAlive router = true := routerAlive_below alive rfl
    have entered : below.enter (.closeKept handle) =
        closed.push [.change router ticket.withdrawal] := by
      simp only [enter, State.closeKept, show below.handles[handle]? = some found from kept,
        State.close, release]
      exact release_ticket there
    rw [advance_push (s := below) calm, entered]
    exact ⟨List.cons_ne_nil _ _, calm, below.frames, rfl⟩
  · cases releasing

theorem Known.withdraws (known : s.Known) (attends : s.Attends router)
    (orderly : (s.desk router).router.Orderly) : s.Withdraws router := by
  intro ticket found there opened releasing alive acts t after path there'
  cases (router?_desk attends.there).symm.trans there
  obtain ⟨busy, calm, below, top⟩ := advance_releasing releasing alive
  have closes : Move router s (s.acts router) s.advance := .work busy
  have known' := Move.known closes known
  obtain ⟨attends', turn, -⟩ := Move.turn closes known attends
  have older := Nat.lt_of_lt_of_le (orderly.number_lt opened) turn.nextNumber_le
  obtain ⟨known'', attends'', changed⟩ := advance_change known' attends' calm top
  have lapsed : (s.advance.advance.desk router).Lapsed ticket := by
    rw [changed]
    exact .change older (Router.not_mem_tickets_amend _ _ _)
  obtain ⟨attended, turns⟩ := run_turns path known'' attends''
  cases (router?_desk attended.there).symm.trans there'
  exact (lapsed.turns turns).closed

end Session.State
end RpcRouting
