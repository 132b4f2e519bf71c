import RpcRouting.Proofs.Router.Listing
import RpcRouting.Router.Selection
/-! How a router chooses, told without its directory: from the list of the open registrations, and
from the definition of the RPC type that counts. -/
namespace RpcRouting
open Current (Identifier)

variable {I L : Type}

/-- The field of the context by a list of definitions, of which the last one of a type counts. -/
def fieldIn (definitions : List Definition) (type : SchemaPath) : Option String :=
  (definitions.reverse.find? (·.path = type)).bind (·.contextField)

/-- The context of a call whose input carries it in a field, if the type has one. -/
def contextBy (field : Option String) (input : Option Payload) :
    Except PathError (Option InstancePath) :=
  match field, input with
  | some name, some (.object fields) =>
    match fields.lookup name with
    | some (.string text) =>
      match InstancePath.parse text with
      | .ok path => .ok (if path.args = [] then none else some path)
      | .error error => .error error
    | _ => .ok none
  | _, _ => .ok none

/-- The first one of the cheapest open registrations that declare an identifier. -/
def choiceFor (offers : List (Offer I)) (rpc : Identifier) : Choice (Offer I) :=
  match (serving offers rpc).argmin (·.cost) with
  | some offer => .dispatch offer rpc
  | none => .unavailable

/-- What becomes of a call, by the list of the open registrations. -/
def choiceFrom (offers : List (Offer I)) (field : Option String) (fallback : Bool)
    (type : SchemaPath) (input : Option Payload) : Choice (Offer I) :=
  match contextBy field input with
  | .error error => .malformed error
  | .ok context =>
    if serving offers (.create type context) ≠ [] then choiceFor offers (.create type context)
    else if serving offers (.global type) ≠ [] ∧ (context = none ∨ fallback = true) then
      choiceFor offers (.global type)
    else .unavailable

def Choice.map {J : Type} (f : I → J) : Choice I → Choice J
  | .dispatch implementation rpc => .dispatch (f implementation) rpc
  | .unavailable => .unavailable
  | .malformed error => .malformed error

/-! Whom is chosen. -/

theorem serving_of_choiceFor {offers : List (Offer I)} {offer : Offer I} {rpc other : Identifier}
    (chosen : choiceFor offers rpc = .dispatch offer other) : offer ∈ serving offers other := by
  unfold choiceFor at chosen
  split at chosen
  · rename_i best found
    obtain ⟨rfl, rfl⟩ := Choice.dispatch.inj chosen
    exact List.argmin_mem found
  · cases chosen

/-- Who is chosen is open and declares the identifier under which it is called. -/
theorem serving_of_choiceFrom {offers : List (Offer I)} {field : Option String} {fallback : Bool}
    {type : SchemaPath} {input : Option Payload} {offer : Offer I} {rpc : Identifier}
    (chosen : choiceFrom offers field fallback type input = .dispatch offer rpc) :
    offer ∈ serving offers rpc := by
  unfold choiceFrom at chosen
  split at chosen
  · cases chosen
  · split at chosen
    · exact serving_of_choiceFor chosen
    · split at chosen
      · exact serving_of_choiceFor chosen
      · cases chosen

/-! The schema. -/

theorem Schema.find?_insertInto (definition : Definition) (definitions : List Definition)
    (type : SchemaPath) : (insertInto definition definitions).find? (·.path = type) =
      if definition.path = type then some definition else definitions.find? (·.path = type) := by
  induction definitions with
  | nil =>
    rw [insertInto, List.find?_cons]
    by_cases here : definition.path = type <;> simp [here]
  | cons first rest ih =>
    rw [insertInto]
    split
    · rename_i same
      by_cases here : definition.path = type
      · simp [here]
      · simp [here, same ▸ here]
    · split
      · by_cases here : definition.path = type <;> simp [here]
      · rename_i other _
        rw [List.find?_cons, List.find?_cons, ih]
        by_cases here : definition.path = type
        · subst here
          simp [Ne.symm other]
        · simp [here]

/-- A schema made from definitions holds the last one of each type. -/
theorem Schema.contextField?_ofList (definitions : List Definition) (type : SchemaPath) :
    (ofList definitions).contextField? type = fieldIn definitions type := by
  have found : (ofList definitions).lookup type =
      definitions.reverse.find? (·.path = type) := by
    induction definitions using List.reverseRecOn with
    | nil => rfl
    | append_singleton definitions definition ih =>
      have inserted : ofList (definitions ++ [definition]) = (ofList definitions).insert definition :=
        List.foldl_concat ..
      rw [inserted, lookup, insert, find?_insertInto, List.reverse_append, List.reverse_singleton,
        List.singleton_append, List.find?_cons]
      by_cases here : definition.path = type
      · simp [here]
      · simp only [here, decide_false, if_false]
        exact ih
  rw [contextField?, found, fieldIn]

/-! The router. -/

theorem contextIn_eq (name : String) (input : Option Payload) :
    contextIn name input = contextBy (some name) input := by
  have read (text : String) : (fun path => if path.isEmpty then none else some path) <$>
      InstancePath.parse text = match InstancePath.parse text with
        | .ok path => .ok (if path.args = [] then none else some path)
        | .error error => .error error := by
    cases InstancePath.parse text with
    | error error => rfl
    | ok path => cases path.args <;> simp_all [InstancePath.isEmpty, Functor.map, Except.map]
  unfold contextIn contextBy
  cases input with
  | none => rfl
  | some value =>
    cases value with
    | object fields =>
      simp only [Option.bind_some, Payload.field?]
      cases fields.lookup name with
      | none => rfl
      | some value =>
        cases value with
        | string text => exact read text
        | _ => rfl
    | _ => rfl

namespace Router
variable {router : Router I L}

theorem contextOf_eq (type : SchemaPath) (input : Option Payload) :
    router.contextOf type input = contextBy (router.schema.contextField? type) input := by
  unfold contextOf
  cases router.schema.contextField? type with
  | none => cases input <;> rfl
  | some name => exact contextIn_eq name input

theorem dispatch_eq (orderly : router.Orderly) (rpc : Identifier) :
    router.dispatch rpc = (choiceFor router.offers rpc).map (·.implementation) := by
  unfold dispatch choiceFor
  rw [orderly.directory, Directory.best?_ofOffers orderly.offers]
  cases (serving router.offers rpc).argmin (·.cost) <;> rfl

theorem choose_eq (orderly : router.Orderly) (type : SchemaPath) (input : Option Payload) :
    router.choose type input = (choiceFrom router.offers (router.schema.contextField? type)
      router.settings.fallbackToGlobal type input).map (·.implementation) := by
  have available (rpc : Identifier) :
      router.isAvailable rpc = true ↔ serving router.offers rpc ≠ [] := by
    rw [isAvailable, orderly.directory, Directory.isAvailable_ofOffers orderly.offers]
  have nobody {rpc : Identifier} (none : serving router.offers rpc = []) :
      choiceFor router.offers rpc = .unavailable := by
    rw [choiceFor, none]
    rfl
  unfold choose choiceFrom
  rw [contextOf_eq]
  cases contextBy (router.schema.contextField? type) input with
  | error error => rfl
  | ok context =>
    cases context with
    | none =>
      simp only [dispatch_eq orderly, Identifier.create, true_or, and_true]
      by_cases served : serving router.offers (.global type) = []
      · simp [served, nobody served]
      · simp [served]
    | some context =>
      simp only [dispatch_eq orderly, fallsBack, reduceCtorEq, false_or]
      by_cases exact : serving router.offers (.create type (some context)) = []
      · have missing : router.isAvailable (.create type (some context)) = false := by
          simpa [exact] using (available (.create type (some context))).not
        cases router.settings.fallbackToGlobal with
        | false => simp [exact, nobody exact]
        | true =>
          by_cases served : serving router.offers (.global type) = []
          · simp [exact, missing, served, nobody served]
          · simp [exact, missing, served]
      · have there := (available _).mpr exact
        simp [there, exact]

end Router
end RpcRouting
