import RpcRouting.Proofs.Path.Normalising
import RpcRouting.Proofs.Router.Choosing
/-! How a call finds the registrations for the node that its input tells. If there are any, nothing
else counts, and if the input tells another node, or none, they do not count at all. -/
namespace RpcRouting
open Current (Identifier)
open InstancePath (Denotes)

variable {I : Type} {offers : List (Offer I)} {type : SchemaPath} {rpc : Identifier}
  {context : InstancePath} {fields : List (String × Payload)} {name text : String}

/-- The best registration for an identifier is cheaper than every other one, or as cheap and
earlier. -/
def IsBest (offers : List (Offer I)) (rpc : Identifier) (best : Offer I) : Prop :=
  best ∈ serving offers rpc ∧
    ∀ other ∈ serving offers rpc, other = best ∨ best.candidate.Better other.candidate

/-- The first one of the cheapest is the best one. -/
theorem isBest_of_argmin (sorted : (offers.map (·.registration)).Pairwise (· < ·)) {best : Offer I}
    (found : (serving offers rpc).argmin (·.cost) = some best) : IsBest offers rpc best := by
  classical
  have ordered : (serving offers rpc).Pairwise (·.registration < ·.registration) :=
    (List.pairwise_map.mp sorted).sublist List.filter_sublist
  obtain ⟨member, cheapest, first⟩ := List.mem_argmin_iff.mp (Option.mem_def.mpr found)
  refine ⟨member, fun other there => ?_⟩
  by_cases same : other = best
  · exact .inl same
  · refine .inr ?_
    by_cases dearer : best.cost < other.cost
    · exact .inl dearer
    · have alike : best.cost = other.cost := Nat.le_antisymm (cheapest other there) (by omega)
      have before := first other there (by omega)
      have apart : (serving offers rpc).idxOf best ≠ (serving offers rpc).idxOf other :=
        fun index => same ((List.idxOf_inj there).mp index.symm)
      have earlier := List.pairwise_iff_getElem.mp ordered _ _ (List.idxOf_lt_length_of_mem member)
        (List.idxOf_lt_length_of_mem there) (by omega)
      rw [List.getElem_idxOf, List.getElem_idxOf] at earlier
      exact .inr ⟨alike, earlier⟩

theorem choiceFor_of_mem (sorted : (offers.map (·.registration)).Pairwise (· < ·)) {offer : Offer I}
    (served : offer ∈ serving offers rpc) :
    ∃ best, IsBest offers rpc best ∧ choiceFor offers rpc = .dispatch best rpc := by
  unfold choiceFor
  cases found : (serving offers rpc).argmin (·.cost) with
  | none => rw [List.argmin_eq_none.mp found] at served; cases served
  | some best => exact ⟨best, isBest_of_argmin sorted found, rfl⟩

/-- What is called is called for everybody, or for the node that the input tells. -/
theorem rpc_of_choiceFrom {field : Option String} {fallback : Bool} {input : Option Payload}
    {offer : Offer I} (chosen : choiceFrom offers field fallback type input = .dispatch offer rpc) :
    rpc = .global type ∨ ∃ told, contextBy field input = .ok told ∧ rpc = .create type told := by
  have named {wanted : Identifier} (chosen : choiceFor offers wanted = .dispatch offer rpc) :
      rpc = wanted := by
    unfold choiceFor at chosen
    split at chosen
    · exact (Choice.dispatch.inj chosen).2.symm
    · cases chosen
  unfold choiceFrom at chosen
  split at chosen
  · cases chosen
  · rename_i told carried
    split at chosen
    · exact .inr ⟨told, carried, named chosen⟩
    · split at chosen
      · exact .inl (named chosen)
      · cases chosen

variable (carried : fields.lookup name = some (.string text)) (fallback : Bool)
include carried

theorem contextBy_of_parse {path : InstancePath} (read : InstancePath.parse text = .ok path) :
    contextBy (some name) (some (.object fields)) =
      .ok (if path.args = [] then none else some path) := by
  simp only [contextBy, carried, read]

/-- Where a registration declares the identifier of a node, a call whose input tells the node comes
to the best of those that do. -/
theorem choiceFrom_of_denotes (sorted : (offers.map (·.registration)).Pairwise (· < ·))
    (denotes : Denotes text context) (proper : context ≠ .empty) {offer : Offer I}
    (declares : offer ∈ serving offers (.create type (some context))) :
    ∃ best, IsBest offers (.create type (some context)) best ∧
      choiceFrom offers (some name) fallback type (some (.object fields)) =
        .dispatch best (.create type (some context)) := by
  have told := contextBy_of_parse carried (InstancePath.parse_eq_ok_iff.mpr denotes)
  have steps : context.args ≠ [] := fun none => proper (congrArg InstancePath.mk none)
  obtain ⟨best, isBest, chosen⟩ := choiceFor_of_mem sorted declares
  rw [if_neg steps] at told
  refine ⟨best, isBest, ?_⟩
  simp only [choiceFrom, told, if_pos (List.ne_nil_of_mem declares)]
  exact chosen

/-- A call whose input does not tell a node comes to no identifier of the node. -/
theorem context_ne_of_choiceFrom (other : ¬Denotes text context) (proper : context ≠ .empty)
    {offer : Offer I}
    (chosen : choiceFrom offers (some name) fallback type (some (.object fields)) =
      .dispatch offer rpc) : rpc.context ≠ context := by
  rcases rpc_of_choiceFrom chosen with rfl | ⟨told, read, rfl⟩
  · exact proper.symm
  · cases parsed : InstancePath.parse text with
    | error error => simp [contextBy, carried, parsed] at read
    | ok path =>
      rw [contextBy_of_parse carried parsed] at read
      rw [← Except.ok.inj read]
      split
      · exact proper.symm
      · rw [Identifier.context_create]
        rintro rfl
        exact other (InstancePath.parse_eq_ok_iff.mp parsed)

end RpcRouting
