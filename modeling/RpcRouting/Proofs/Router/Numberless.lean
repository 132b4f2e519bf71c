import RpcRouting.Proofs.Router.Choosing
import RpcRouting.Proofs.Router.Paging
/-! How little the numbers of registrations matter. Whom a router chooses, what is available and
what listeners see is told by what is open and by the order in which it was registered. -/
namespace RpcRouting
open Current (Identifier)

variable {I L : Type}

/-- An open registration with its number left out. -/
def Offer.numberless (offer : Offer I) : Offer I := { offer with registration := 0 }

theorem serving_numberless (offers : List (Offer I)) (rpc : Identifier) :
    serving (offers.map Offer.numberless) rpc = (serving offers rpc).map Offer.numberless :=
  List.filter_map ..

private theorem argmin_numberless (offers : List (Offer I)) :
    (offers.map Offer.numberless).argmin (·.cost) =
      (offers.argmin (·.cost)).map Offer.numberless := by
  induction offers using List.reverseRecOn with
  | nil => rfl
  | append_singleton offers offer ih =>
    rw [List.map_append, List.map_singleton, List.argmin_concat, List.argmin_concat, ih]
    cases offers.argmin (·.cost) with
    | none => rfl
    | some best =>
      show (if offer.cost < best.cost then some offer.numberless else some best.numberless) =
        Option.map Offer.numberless (if offer.cost < best.cost then some offer else some best)
      split <;> rfl

theorem choiceFor_numberless (offers : List (Offer I)) (rpc : Identifier) :
    choiceFor (offers.map Offer.numberless) rpc =
      (choiceFor offers rpc).map Offer.numberless := by
  unfold choiceFor
  rw [serving_numberless, argmin_numberless]
  cases (serving offers rpc).argmin (·.cost) <;> rfl

theorem choiceFrom_numberless (offers : List (Offer I)) (field : Option String) (fallback : Bool)
    (type : SchemaPath) (input : Option Payload) :
    choiceFrom (offers.map Offer.numberless) field fallback type input =
      (choiceFrom offers field fallback type input).map Offer.numberless := by
  unfold choiceFrom
  cases contextBy field input with
  | error error => rfl
  | ok context =>
    simp only [serving_numberless, choiceFor_numberless, ne_eq, List.map_eq_nil_iff]
    split
    · rfl
    · split <;> rfl

theorem visible_numberless (accepts : Acceptance I L) (offers : List (Offer I)) (listener : L) :
    visible accepts (offers.map Offer.numberless) listener = visible accepts offers listener := by
  unfold visible
  rw [List.filter_map, List.flatMap_map]
  rfl

namespace Router

/-- Routers that differ at most in the numbers of their open registrations, in what listeners have
been told and in what is done for them. -/
structure Resembles (router other : Router I L) : Prop where
  offers : other.offers.map Offer.numberless = router.offers.map Offer.numberless
  schema : other.schema = router.schema
  settings : other.settings = router.settings

variable {router other : Router I L}

theorem Resembles.choose (resembles : router.Resembles other) (orderly : router.Orderly)
    (orderly' : other.Orderly) : other.choose = router.choose := by
  funext type input
  have whom (choice : Choice (Offer I)) :
      (choice.map Offer.numberless).map (·.implementation) = choice.map (·.implementation) := by
    cases choice <;> rfl
  rw [choose_eq orderly, choose_eq orderly', resembles.schema, resembles.settings, ← whom,
    ← choiceFrom_numberless, resembles.offers, choiceFrom_numberless, whom]

theorem Resembles.isAvailable (resembles : router.Resembles other) (orderly : router.Orderly)
    (orderly' : other.Orderly) (rpc : Identifier) :
    other.isAvailable rpc = router.isAvailable rpc := by
  have served (offers : List (Offer I)) : serving offers rpc ≠ [] ↔
      serving (offers.map Offer.numberless) rpc ≠ [] := by
    rw [serving_numberless, ne_eq, ne_eq, List.map_eq_nil_iff]
  rw [Bool.eq_iff_iff, Router.isAvailable, Router.isAvailable, orderly.directory,
    orderly'.directory, Directory.isAvailable_ofOffers orderly.offers,
    Directory.isAvailable_ofOffers orderly'.offers, served, resembles.offers, ← served]

theorem Resembles.mem_available (resembles : router.Resembles other) (orderly : router.Orderly)
    (orderly' : other.Orderly) (rpc : Identifier) :
    rpc ∈ other.available ↔ rpc ∈ router.available := by
  have declared (offers : List (Offer I)) : (∃ offer ∈ offers, rpc ∈ offer.rpcs) ↔
      ∃ offer ∈ offers.map Offer.numberless, rpc ∈ offer.rpcs := by
    simp [Offer.numberless]
  rw [available, available, orderly.directory, orderly'.directory,
    Directory.mem_available_ofOffers, Directory.mem_available_ofOffers, declared, resembles.offers,
    ← declared]

theorem Resembles.visible (resembles : router.Resembles other) (accepts : Acceptance I L) :
    other.visible accepts = router.visible accepts := by
  funext listener
  rw [Router.visible, Router.visible, ← visible_numberless, resembles.offers, visible_numberless]

end Router
end RpcRouting
