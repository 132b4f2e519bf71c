import RpcRouting.Proofs.Router.Desk
/-! What a router is, told from its history alone: its open registrations are those that were made
and not taken back, each at the cost of its time, and its schema is the one adopted last. -/
namespace RpcRouting

variable {I L : Type}

/-- The number of the next registration and the open registrations of implementations, after one more
thing has happened. -/
def recount (counted : Nat × List (Offer I)) : Act I L → Nat × List (Offer I)
  | .changed _ _ (.register implementation cost rpcs) =>
    (counted.1 + 1, counted.2 ++ [⟨counted.1, cost, implementation, rpcs⟩])
  | .changed _ _ (.unregister registration) =>
    (counted.1, counted.2.filter (·.registration ≠ registration))
  | .changed _ _ (.listen _) => (counted.1 + 1, counted.2)
  | _ => counted

/-- The implementations that have been registered and not been taken back. -/
def openOffers (acts : List (Act I L)) : List (Offer I) := (acts.foldl recount (1, [])).2

/-- What has been added to the offers of a router has been offered to it. -/
theorem mem_recount {counted : Nat × List (Offer I)} {acts : List (Act I L)}
    {offer : Offer I} (member : offer ∈ (acts.foldl recount counted).2) :
    offer ∈ counted.2 ∨ ∃ before accepts,
      .changed before accepts (.register offer.implementation offer.cost offer.rpcs) ∈ acts := by
  induction acts using List.reverseRecOn with
  | nil => exact .inl member
  | append_singleton acts act ih =>
    rw [List.foldl_append, List.foldl_cons, List.foldl_nil] at member
    have old (member : offer ∈ (acts.foldl recount counted).2) :
        offer ∈ counted.2 ∨ ∃ before accepts, .changed before accepts
          (.register offer.implementation offer.cost offer.rpcs) ∈ acts ++ [act] :=
      (ih member).imp_right fun ⟨before, accepts, made⟩ =>
        ⟨before, accepts, List.mem_append_left _ made⟩
    cases act with
    | changed before accepts change =>
      cases change with
      | register implementation cost rpcs =>
        rcases List.mem_append.mp member with earlier | new
        · exact old earlier
        · cases List.mem_singleton.mp new
          exact .inr ⟨before, accepts, List.mem_append_right _ (List.mem_singleton_self _)⟩
      | unregister registration => exact old (List.mem_of_mem_filter member)
      | listen | unlisten => exact old member
    | adopted | begun | called => exact old member

theorem latestSchema_append (first second : List (Act I L)) :
    latestSchema (first ++ second) = (latestSchema second).or (latestSchema first) := by
  rw [latestSchema, List.filterMap_append, List.getLast?_append, latestSchema, latestSchema]

namespace Desk
variable {desk next last : Desk I L} {acts : List (Act I L)}

theorem Turn.settings (turn : Turn desk acts next) :
    next.router.settings = desk.router.settings := by
  rcases turn.router with ⟨accepts, change, -, same⟩ | ⟨schema, -, same⟩ | ⟨-, _, _, same⟩
  · rw [same, Router.settings_onDuty, Router.settings_apply]
  · rw [same]
    rfl
  · rw [same]

theorem Turn.schema (turn : Turn desk acts next) :
    next.router.schema = (latestSchema acts).getD desk.router.schema := by
  rcases turn.router with ⟨accepts, change, rfl, same⟩ | ⟨schema, rfl, same⟩ |
    ⟨quiet, _, _, same⟩
  · rw [same, Router.schema_onDuty, Router.schema_apply]
    rfl
  · rw [same]
    rfl
  · rw [same]
    rcases quiet with rfl | ⟨delivery, rfl⟩ | ⟨call, rfl⟩ <;> rfl

theorem Turn.recount (turn : Turn desk acts next) :
    acts.foldl RpcRouting.recount (desk.router.nextNumber, desk.router.offers) =
      (next.router.nextNumber, next.router.offers) := by
  rcases turn.router with ⟨accepts, change, rfl, same⟩ | ⟨schema, rfl, same⟩ |
    ⟨quiet, _, _, same⟩
  · rw [same, Router.nextNumber_onDuty, Router.nextNumber_apply, Router.offers_onDuty,
      Router.offers_apply]
    cases change <;> rfl
  · rw [same]
    rfl
  · rw [same]
    rcases quiet with rfl | ⟨delivery, rfl⟩ | ⟨call, rfl⟩ <;> rfl

theorem turns_settings (run : Run Turn desk acts last) :
    last.router.settings = desk.router.settings := by
  induction run with
  | still => rfl
  | onward path turn ih => rw [turn.settings, ih]

theorem turns_schema (run : Run Turn desk acts last) :
    last.router.schema = (latestSchema acts).getD desk.router.schema := by
  induction run with
  | still => rfl
  | onward path turn ih =>
    rw [turn.schema, ih, latestSchema_append]
    cases latestSchema _ <;> rfl

theorem turns_offers (configured : RouterSettings)
    (run : Run Turn ⟨.ofSettings configured, []⟩ acts last) :
    last.router.offers = openOffers acts := by
  have counted : acts.foldl RpcRouting.recount (1, []) =
      (last.router.nextNumber, last.router.offers) := by
    generalize begins : (⟨.ofSettings configured, []⟩ : Desk I L) = first at run
    induction run with
    | still => rw [← begins]; rfl
    | onward path turn ih => rw [List.foldl_append, ih, turn.recount]
  rw [openOffers, counted]

end Desk
end RpcRouting
