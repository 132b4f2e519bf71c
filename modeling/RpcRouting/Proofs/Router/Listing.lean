import Mathlib.Data.List.MinMax
import RpcRouting.Proofs.Router.Numbering
/-! What a directory made from open registrations lists: for every identifier those that declare it,
and first of all the first one of the cheapest. -/
namespace RpcRouting
open Current (Identifier)

variable {I L : Type}

/-- The open registrations that declare an identifier. -/
def serving (offers : List (Offer I)) (rpc : Identifier) : List (Offer I) :=
  offers.filter (rpc ∈ ·.rpcs)

theorem serving_append (offers : List (Offer I)) (offer : Offer I) (rpc : Identifier) :
    serving (offers ++ [offer]) rpc =
      serving offers rpc ++ if rpc ∈ offer.rpcs then [offer] else [] := by
  rw [serving, List.filter_append, List.filter_singleton]
  by_cases declares : rpc ∈ offer.rpcs <;> simp [declares, serving]

section Keys
variable {K V : Type} [DecidableEq K] (begin : V) (change : V → V) (key : K)

theorem lookup_amendAt (entries : List (K × V)) (other : K) :
    (amendAt begin change key entries).lookup other =
      if other = key then some (change ((entries.lookup key).getD begin))
      else entries.lookup other := by
  induction entries with
  | nil =>
    by_cases same : other = key
    · simp [amendAt, same]
    · simp [amendAt, List.lookup_cons, beq_false_of_ne same, same]
  | cons entry rest ih =>
    obtain ⟨first, value⟩ := entry
    by_cases here : first = key
    · subst first
      by_cases same : other = key
      · simp [amendAt, same]
      · simp [amendAt, List.lookup_cons, beq_false_of_ne same, same]
    · rw [amendAt, if_neg here, List.lookup_cons, List.lookup_cons, List.lookup_cons, ih]
      by_cases same : other = key
      · subst other
        simp [beq_false_of_ne (Ne.symm here)]
      · simp [same]

theorem lookup_map {W : Type} (f : V → W) (entries : List (K × V)) :
    (entries.map fun (other, value) => (other, f value)).lookup key =
      (entries.lookup key).map f := by
  induction entries with
  | nil => rfl
  | cons entry rest ih =>
    rw [List.map_cons, List.lookup_cons, List.lookup_cons, ih]
    cases key == entry.1 <;> rfl

end Keys

namespace Candidate

theorem mem_insert {candidate other : Candidate I} {found : List (Candidate I)} :
    other ∈ candidate.insert found ↔ other = candidate ∨ other ∈ found := by
  induction found with
  | nil => simp [insert]
  | cons first rest ih =>
    rw [insert]
    split
    · simp
    · simp only [List.mem_cons, ih]
      tauto

theorem rank_append (found : List (Candidate I)) (candidate : Candidate I) :
    rank (found ++ [candidate]) = candidate.insert (rank found) :=
  List.foldl_concat ..

theorem mem_rank {candidate : Candidate I} {found : List (Candidate I)} :
    candidate ∈ rank found ↔ candidate ∈ found := by
  induction found using List.reverseRecOn with
  | nil => rfl
  | append_singleton found last ih =>
    rw [rank_append, mem_insert, ih, List.mem_append, List.mem_singleton]
    exact or_comm

/-- A registration that has been added counts already. -/
theorem addTo_addTo (candidate : Candidate I) (found : List (Candidate I)) :
    candidate.addTo (candidate.addTo found) = candidate.addTo found := by
  have counts : (candidate.addTo found).any (·.registration = candidate.registration) = true := by
    unfold addTo
    split
    · assumption
    · exact List.any_eq_true.mpr ⟨candidate, List.mem_append_right _ List.mem_cons_self, by simp⟩
  conv_lhs => rw [addTo, if_pos counts]

theorem addTo_of_new {candidate : Candidate I} {found : List (Candidate I)}
    (new : ∀ other ∈ found, other.registration < candidate.registration) :
    candidate.addTo found = found ++ [candidate] := by
  refine if_neg ?_
  simp only [List.any_eq_true, decide_eq_true_eq, not_exists, not_and]
  exact fun other member => Nat.ne_of_lt (new other member)

theorem addTo_ne_nil (candidate : Candidate I) (found : List (Candidate I)) :
    candidate.addTo found ≠ [] := by
  unfold addTo
  split
  · rename_i counts
    rintro rfl
    cases counts
  · exact List.append_ne_nil_of_right_ne_nil _ (List.cons_ne_nil _ _)

theorem head?_insert (candidate : Candidate I) (found : List (Candidate I)) :
    (candidate.insert found).head? =
      match found.head? with
      | none => some candidate
      | some first => if candidate.Better first then some candidate else some first := by
  cases found with
  | nil => rfl
  | cons first rest =>
    rw [insert]
    split <;> simp [*]

/-- Against one registered earlier only a lower cost helps. -/
theorem better_iff_of_later {candidate earlier : Candidate I}
    (later : earlier.registration < candidate.registration) :
    candidate.Better earlier ↔ candidate.cost < earlier.cost := by
  unfold Better
  omega

/-- Of registrations in the order in which they were made, the first one of the cheapest comes to
stand first. -/
theorem head?_rank {offers : List (Offer I)}
    (sorted : (offers.map (·.registration)).Pairwise (· < ·)) :
    (rank (offers.map Offer.candidate)).head? = (offers.argmin (·.cost)).map Offer.candidate := by
  induction offers using List.reverseRecOn with
  | nil => rfl
  | append_singleton offers offer ih =>
    rw [List.map_append, List.pairwise_append] at sorted
    obtain ⟨before, -, above⟩ := sorted
    replace ih := ih before
    rw [List.map_append, List.map_singleton, rank_append, head?_insert, ih, List.argmin_concat]
    cases cheapest : offers.argmin (·.cost) with
    | none => rfl
    | some best =>
      have earlier : best.candidate.registration < offer.candidate.registration :=
        above _ (List.mem_map_of_mem (List.argmin_mem cheapest)) _ List.mem_cons_self
      by_cases cheaper : offer.cost < best.cost
      · simp [(better_iff_of_later earlier).mpr cheaper, cheaper]
      · have worse := mt (better_iff_of_later earlier).mp cheaper
        simp [worse, cheaper]

end Candidate

/-- Type and context are all there is to an identifier. -/
theorem Current.Identifier.eq_iff {rpc other : Identifier} :
    rpc = other ↔ rpc.type = other.type ∧ rpc.context? = other.context? := by
  refine ⟨fun same => same ▸ ⟨rfl, rfl⟩, fun ⟨type, context⟩ => ?_⟩
  rw [← rpc.create_context, ← other.create_context, type, Current.Identifier.context, context,
    Current.Identifier.context]

theorem Page.candidates_add (page : Page I) (candidate : Candidate I)
    (context other : Option InstancePath) :
    (page.add candidate context).candidates other =
      if other = context then candidate.addTo (page.candidates context)
      else page.candidates other := by
  cases context with
  | none => cases other <;> rfl
  | some context =>
    cases other with
    | none => rfl
    | some other =>
      simp only [add, candidates, lookup_amendAt, Option.some.injEq]
      split <;> rfl

theorem Page.candidates_rank (page : Page I) (context : Option InstancePath) :
    page.rank.candidates context = Candidate.rank (page.candidates context) := by
  cases context with
  | none => rfl
  | some context =>
    rw [candidates, rank, lookup_map, candidates]
    cases page.routed.lookup context <;> rfl

namespace Directory

theorem candidates_empty (rpc : Identifier) : (empty : Directory I).candidates rpc = [] := by
  show Page.candidates .empty rpc.context? = []
  cases rpc.context? <;> rfl

theorem candidates_add (directory : Directory I) (rpc other : Identifier)
    (candidate : Candidate I) :
    (directory.add rpc candidate).candidates other =
      if other = rpc then candidate.addTo (directory.candidates rpc)
      else directory.candidates other := by
  rw [candidates, add, lookup_amendAt]
  by_cases type : other.type = rpc.type
  · simp [type, Page.candidates_add, Current.Identifier.eq_iff, candidates]
  · simp [type, Current.Identifier.eq_iff, candidates]

theorem candidates_addOffer (directory : Directory I) (offer : Offer I) (rpc : Identifier) :
    (directory.addOffer offer).candidates rpc =
      if rpc ∈ offer.rpcs then offer.candidate.addTo (directory.candidates rpc)
      else directory.candidates rpc := by
  have added (rpcs : List Identifier) (directory : Directory I) :
      (rpcs.foldl (·.add · offer.candidate) directory).candidates rpc =
        if rpc ∈ rpcs then offer.candidate.addTo (directory.candidates rpc)
        else directory.candidates rpc := by
    induction rpcs generalizing directory with
    | nil => simp
    | cons first rest ih =>
      rw [List.foldl_cons, ih, candidates_add]
      by_cases here : rpc = first
      · subst first
        simp [Candidate.addTo_addTo]
      · simp [here]
  exact added offer.rpcs directory

theorem collect_append (offers : List (Offer I)) (offer : Offer I) :
    collect (offers ++ [offer]) = (collect offers).addOffer offer :=
  List.foldl_concat ..

theorem candidates_rank (directory : Directory I) (rpc : Identifier) :
    directory.rank.candidates rpc = Candidate.rank (directory.candidates rpc) := by
  rw [candidates, rank, lookup_map, candidates, ← Page.candidates_rank]
  cases directory.pages.lookup rpc.type <;> rfl

/-- Registrations that come in the order of their numbers are collected one after the other. -/
theorem candidates_collect {offers : List (Offer I)}
    (sorted : (offers.map (·.registration)).Pairwise (· < ·)) (rpc : Identifier) :
    (collect offers).candidates rpc = (serving offers rpc).map Offer.candidate := by
  induction offers using List.reverseRecOn with
  | nil => exact candidates_empty rpc
  | append_singleton offers offer ih =>
    rw [List.map_append, List.pairwise_append] at sorted
    obtain ⟨before, -, above⟩ := sorted
    have new : ∀ other ∈ (serving offers rpc).map Offer.candidate,
        other.registration < offer.candidate.registration := by
      intro other member
      obtain ⟨earlier, there, rfl⟩ := List.mem_map.mp member
      exact above _ (List.mem_map_of_mem (List.mem_filter.mp there).1) _ List.mem_cons_self
    rw [collect_append, candidates_addOffer, ih before, serving_append]
    by_cases declares : rpc ∈ offer.rpcs
    · rw [if_pos declares, if_pos declares, Candidate.addTo_of_new new, List.map_append]
      rfl
    · rw [if_neg declares, if_neg declares, List.append_nil]

theorem candidates_ofOffers {offers : List (Offer I)}
    (sorted : (offers.map (·.registration)).Pairwise (· < ·)) (rpc : Identifier) :
    (ofOffers offers).candidates rpc =
      Candidate.rank ((serving offers rpc).map Offer.candidate) := by
  rw [ofOffers, candidates_rank, candidates_collect sorted]

/-- What is listed first is the first one of the cheapest registrations. -/
theorem best?_ofOffers {offers : List (Offer I)}
    (sorted : (offers.map (·.registration)).Pairwise (· < ·)) (rpc : Identifier) :
    (ofOffers offers).best? rpc = ((serving offers rpc).argmin (·.cost)).map Offer.candidate := by
  rw [best?, candidates_ofOffers sorted]
  exact Candidate.head?_rank (sorted.sublist (List.filter_sublist.map _))

/-- An identifier is available if an open registration declares it. -/
theorem isAvailable_ofOffers {offers : List (Offer I)}
    (sorted : (offers.map (·.registration)).Pairwise (· < ·)) (rpc : Identifier) :
    (ofOffers offers).isAvailable rpc = true ↔ serving offers rpc ≠ [] := by
  rw [isAvailable, best?_ofOffers sorted, Option.isSome_map, Option.isSome_iff_ne_none, ne_eq,
    List.argmin_eq_none]

end Directory
end RpcRouting
