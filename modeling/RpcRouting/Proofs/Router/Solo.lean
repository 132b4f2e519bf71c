import RpcRouting.Proofs.Router.Ticketing
/-! One listener by itself. A machine that knows of the implementations that come and go, and of when
the one listener joins and leaves, tells it what takes it from what it has been told to what it sees.
Of what is done about other listeners the machine is told nothing. -/
namespace RpcRouting
open Current (Identifier)

variable {I L : Type}

/-- What a call tells, whoever is called. -/
def Call.content (call : Call L) : Bool × List Identifier := (call.available, call.rpcs)

/-- What may happen to a router that is of concern to the listener of one registration. -/
inductive Concern (I : Type)
  | offered (ticket : Ticket) (implementation : I) (rpcs : List Identifier)
  | withdrawn (ticket : Ticket)
  | joined
  | left
deriving DecidableEq

/-- What is offered, and what the one listener counts as told while it is registered. -/
structure Solo (I : Type) where
  offers : List (Ticket × I × List Identifier)
  told : Option (List Identifier)

/-- What takes a listener from what it has been told to what it sees. -/
def news (told view : List Identifier) : List (Bool × List Identifier) :=
  [(false, told.filter (· ∉ view)), (true, view.filter (· ∉ told))].filter (!·.2.isEmpty)

namespace Solo

def empty : Solo I := ⟨[], none⟩

def view (accepts : I → Bool) (solo : Solo I) : List Identifier :=
  distinct ((solo.offers.filter (accepts ·.2.1)).flatMap (·.2.2))

/-- A listener that is to hear of everything starts from nothing, another one from what it sees. -/
def amend (replay : Bool) (accepts : I → Bool) (solo : Solo I) : Concern I → Solo I
  | .offered ticket implementation rpcs =>
    { solo with offers := solo.offers ++ [(ticket, implementation, rpcs)] }
  | .withdrawn ticket => { solo with offers := solo.offers.filter (·.1 ≠ ticket) }
  | .joined => { solo with told := some (if replay then [] else solo.view accepts) }
  | .left => { solo with told := none }

/-- What is of no concern amends nothing. -/
def amendBy (replay : Bool) (accepts : I → Bool) (solo : Solo I) (concern : Option (Concern I)) :
    Solo I :=
  (concern.map (solo.amend replay accepts)).getD solo

def tell (accepts : I → Bool) (solo : Solo I) : List (Bool × List Identifier) :=
  (solo.told.map (news · (solo.view accepts))).getD []

/-- Without news what counts as told stays as it is. -/
def settle (accepts : I → Bool) (solo : Solo I) : Solo I :=
  { solo with told := solo.told.map fun told =>
      if (news told (solo.view accepts)).isEmpty then told else solo.view accepts }

/-- All that the listener hears. -/
def hears (replay : Bool) (accepts : I → Bool) (solo : Solo I) :
    List (Concern I) → List (Bool × List Identifier)
  | [] => []
  | concern :: later =>
    let amended := solo.amend replay accepts concern
    amended.tell accepts ++ (amended.settle accepts).hears replay accepts later

end Solo

/-! News. -/

theorem content_calls (subscription : Subscription L) (view : List Identifier) :
    (subscription.difference view).calls.map Call.content = news subscription.told view := by
  unfold Delivery.calls Subscription.difference news
  cases subscription.told.filter (· ∉ view) <;> cases view.filter (· ∉ subscription.told) <;> rfl

theorem isEmpty_news (subscription : Subscription L) (view : List Identifier) :
    (news subscription.told view).isEmpty = (subscription.difference view).isEmpty := by
  unfold news Delivery.isEmpty Subscription.difference
  cases subscription.told.filter (· ∉ view) <;> cases view.filter (· ∉ subscription.told) <;> rfl

theorem told_refresh_eq (subscription : Subscription L) (view : List Identifier) :
    (subscription.refresh view).told =
      if (news subscription.told view).isEmpty then subscription.told else view := by
  rw [isEmpty_news, Subscription.refresh]
  split <;> rfl

/-- Who has been told what it sees has no news. -/
theorem news_eq_nil {told view : List Identifier} (same : told.toFinset = view.toFinset) :
    news told view = [] := by
  have within {first second : List Identifier} (same : first.toFinset = second.toFinset) :
      first.filter (· ∉ second) = [] := by
    refine List.filter_eq_nil_iff.mpr fun rpc member => ?_
    have other : rpc ∈ second := List.mem_toFinset.mp (same ▸ List.mem_toFinset.mpr member)
    simpa using other
  rw [news, within same, within same.symm]
  rfl

/-- Publishing has nothing to tell a listener that has been told what it sees. -/
theorem Solo.quiet {solo : Solo I} {accepts : I → Bool}
    (known : ∀ told, solo.told = some told → told.toFinset = (solo.view accepts).toFinset) :
    solo.tell accepts = [] ∧ solo.settle accepts = solo := by
  obtain ⟨offers, told⟩ := solo
  cases told with
  | none => exact ⟨rfl, rfl⟩
  | some told =>
    have nothing := news_eq_nil (known told rfl)
    simp [tell, settle, nothing]

/-! What is done, as far as it is of concern to one listener. -/

def Ticket.isOffer : Ticket → Bool
  | .offer _ => true
  | .subscription _ => false

/-- The concern of the listener that goes by a ticket in something that is done. -/
def Errand.concern? (own : Ticket) (errand : Errand Ticket I L) : Option (Concern I) :=
  match errand.doing with
  | .register ticket implementation _ rpcs => some (.offered ticket implementation rpcs)
  | .listen ticket _ => if ticket = own then some .joined else none
  | .close ticket =>
    if ticket = own then some .left
    else if ticket.isOffer then some (.withdrawn ticket) else none
  | .miss | .updateSchema _ => none

/-- Tickets are used for what they are made for, and one of them for one listener only. -/
def Errand.Suits (own : Ticket) (watcher : L) (errand : Errand Ticket I L) : Prop :=
  match errand.doing with
  | .register ticket _ _ _ => ticket.isOffer = true
  | .listen ticket listener => ticket.isOffer = false ∧ (ticket = own → listener = watcher)
  | .close _ | .miss | .updateSchema _ => True

/-- What is done about other listeners is of no concern. -/
theorem concerns_beside {own : Ticket} {watcher : L} {errands : List (Errand Ticket I L)}
    {out : Finset Ticket} (suit : ∀ errand ∈ errands, errand.Suits own watcher)
    (others : ∀ ticket ∈ out, ticket.isOffer = false ∧ ticket ≠ own) :
    (errands.filter (·.isBeside out)).filterMap (Errand.concern? own) =
      errands.filterMap (Errand.concern? own) := by
  rw [List.filterMap_filter]
  refine List.filterMap_congr fun errand member => ?_
  split
  · rfl
  · rename_i about
    have suits := suit errand member
    obtain ⟨now, doing⟩ := errand
    cases doing with
    | register ticket implementation cost rpcs =>
      have inside : ticket ∈ out := by simpa [Errand.isBeside, Doing.name?] using about
      cases (others ticket inside).1.symm.trans suits
    | listen ticket listener =>
      have inside : ticket ∈ out := by simpa [Errand.isBeside, Doing.name?] using about
      simp [Errand.concern?, (others ticket inside).2]
    | close ticket =>
      have inside : ticket ∈ out := by simpa [Errand.isBeside, Doing.name?] using about
      simp [Errand.concern?, others ticket inside]
    | miss | updateSchema => rfl

/-! Implementations that go by other tickets. -/

def Concern.ticket? : Concern I → Option Ticket
  | .offered ticket _ _ | .withdrawn ticket => some ticket
  | .joined | .left => none

def Concern.rename (names : Ticket → Ticket) : Concern I → Concern I
  | .offered ticket implementation rpcs => .offered (names ticket) implementation rpcs
  | .withdrawn ticket => .withdrawn (names ticket)
  | .joined => .joined
  | .left => .left

namespace Solo

variable {names : Ticket → Ticket} {accepts : I → Bool} {solo : Solo I} {tickets : Set Ticket}
  {concern : Concern I} {concerns : List (Concern I)}

def rename (names : Ticket → Ticket) (solo : Solo I) : Solo I :=
  { solo with offers := solo.offers.map fun offer => (names offer.1, offer.2) }

theorem view_rename : (solo.rename names).view accepts = solo.view accepts := by
  simp [view, rename, List.filter_map, List.flatMap_map, Function.comp_def]

theorem tell_rename : (solo.rename names).tell accepts = solo.tell accepts := by
  rw [tell, view_rename, rename, tell]

theorem settle_rename :
    (solo.rename names).settle accepts = (solo.settle accepts).rename names := by
  rw [settle, view_rename, rename, settle, rename]

/-- As long as no two tickets get one name it makes no difference what implementations go by. -/
theorem amend_rename (replay : Bool) (accepts : I → Bool) (apart : Set.InjOn names tickets)
    (offered : ∀ offer ∈ solo.offers, offer.1 ∈ tickets)
    (own : ∀ ticket, concern.ticket? = some ticket → ticket ∈ tickets) :
    (solo.rename names).amend replay accepts (concern.rename names) =
      (solo.amend replay accepts concern).rename names ∧
    ∀ offer ∈ (solo.amend replay accepts concern).offers, offer.1 ∈ tickets := by
  cases concern with
  | offered ticket implementation rpcs =>
    refine ⟨by simp [Concern.rename, amend, rename], ?_⟩
    exact List.forall_mem_append.mpr ⟨offered, List.forall_mem_singleton.mpr (own ticket rfl)⟩
  | withdrawn ticket =>
    have same : (solo.rename names).offers.filter (·.1 ≠ names ticket) =
        (solo.offers.filter (·.1 ≠ ticket)).map fun offer => (names offer.1, offer.2) := by
      rw [rename, List.filter_map]
      refine congrArg _ (List.filter_congr fun offer member => ?_)
      have renamed := apart.eq_iff (offered offer member) (own ticket rfl)
      simp [renamed]
    refine ⟨?_, fun offer member => offered offer (List.mem_of_mem_filter member)⟩
    rw [Concern.rename, amend, same]
    rfl
  | joined =>
    refine ⟨?_, offered⟩
    rw [Concern.rename, amend, view_rename]
    rfl
  | left => exact ⟨rfl, offered⟩

theorem hears_rename (replay : Bool) (accepts : I → Bool) (apart : Set.InjOn names tickets)
    (offered : ∀ offer ∈ solo.offers, offer.1 ∈ tickets)
    (own : ∀ concern ∈ concerns, ∀ ticket, concern.ticket? = some ticket → ticket ∈ tickets) :
    (solo.rename names).hears replay accepts (concerns.map (Concern.rename names)) =
      solo.hears replay accepts concerns := by
  induction concerns generalizing solo with
  | nil => rfl
  | cons concern later ih =>
    obtain ⟨first, own⟩ := List.forall_mem_cons.mp own
    obtain ⟨amended, offered⟩ := amend_rename replay accepts apart offered first
    rw [List.map_cons, hears, amended, tell_rename, settle_rename]
    exact congrArg _ (ih offered own)

end Solo
end RpcRouting
