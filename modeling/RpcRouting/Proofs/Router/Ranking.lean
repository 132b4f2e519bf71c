import Mathlib.Data.List.Perm.Basic
import RpcRouting.Proofs.Router.Numberless
/-! The whole of what a directory lists. Every identifier that open registrations declare stands in
it once, with one candidate for each of them, the better ones first. -/
namespace RpcRouting
open Current (Identifier)

variable {I L : Type}

namespace Candidate

theorem Better.trans {first second third : Candidate I} (better : first.Better second)
    (still : second.Better third) : first.Better third := by
  unfold Better at *
  omega

/-- Of two registrations one is better. -/
theorem better_of_not_better {first second : Candidate I}
    (other : first.registration ≠ second.registration) (worse : ¬ first.Better second) :
    second.Better first := by
  unfold Better at *
  omega

theorem perm_insert (candidate : Candidate I) (found : List (Candidate I)) :
    (candidate.insert found).Perm (candidate :: found) := by
  induction found with
  | nil => exact .refl _
  | cons first rest ih =>
    rw [insert]
    split
    · exact .refl _
    · exact (ih.cons first).trans (.swap ..)

/-- A candidate of a new registration comes to stand where it belongs. -/
theorem pairwise_insert {candidate : Candidate I} {found : List (Candidate I)}
    (new : ∀ other ∈ found, candidate.registration ≠ other.registration)
    (ranked : found.Pairwise Better) : (candidate.insert found).Pairwise Better := by
  induction found with
  | nil => exact List.pairwise_singleton ..
  | cons first rest ih =>
    obtain ⟨before, later⟩ := List.pairwise_cons.mp ranked
    obtain ⟨other, others⟩ := List.forall_mem_cons.mp new
    rw [insert]
    split
    · rename_i better
      refine List.pairwise_cons.mpr ⟨?_, ranked⟩
      exact List.forall_mem_cons.mpr ⟨better, fun last member => better.trans (before last member)⟩
    · rename_i worse
      refine List.pairwise_cons.mpr ⟨fun next member => ?_, ih others later⟩
      rcases mem_insert.mp member with rfl | old
      · exact better_of_not_better other worse
      · exact before next old

theorem perm_rank (found : List (Candidate I)) : (rank found).Perm found := by
  induction found using List.reverseRecOn with
  | nil => exact .refl _
  | append_singleton found last ih =>
    rw [rank_append]
    calc (last.insert (rank found)).Perm (last :: rank found) := perm_insert ..
      List.Perm _ (last :: found) := ih.cons last
      List.Perm _ (found ++ [last]) := (List.perm_append_singleton ..).symm

theorem pairwise_rank {found : List (Candidate I)}
    (once : (found.map (·.registration)).Nodup) : (rank found).Pairwise Better := by
  induction found using List.reverseRecOn with
  | nil => exact .nil
  | append_singleton found last ih =>
    rw [List.map_append, List.nodup_append] at once
    obtain ⟨before, -, apart⟩ := once
    rw [rank_append]
    refine pairwise_insert (fun other member => ?_) (ih before)
    exact (apart _ (List.mem_map_of_mem (mem_rank.mp member)) _ List.mem_cons_self).symm

end Candidate

/-- For every identifier there is one candidate for each open registration that declares it, and the
better ones stand first. -/
theorem Directory.ranked_ofOffers {offers : List (Offer I)}
    (sorted : (offers.map (·.registration)).Pairwise (· < ·)) (rpc : Identifier) :
    ((ofOffers offers).candidates rpc).Perm ((serving offers rpc).map Offer.candidate) ∧
      ((ofOffers offers).candidates rpc).Pairwise Candidate.Better := by
  rw [candidates_ofOffers sorted]
  have once : (((serving offers rpc).map Offer.candidate).map (·.registration)).Nodup := by
    rw [List.map_map]
    exact (sorted.sublist (List.filter_sublist.map _)).imp Nat.ne_of_lt
  exact ⟨Candidate.perm_rank _, Candidate.pairwise_rank once⟩

/-- A router whose directory says what these registrations, in the order in which they were made,
declare. -/
structure Router.Publishes (router : Router I L) (offers : List (Offer I)) : Prop where
  numbered : (offers.map (·.registration)).Pairwise (· < ·)
  isAvailable : ∀ rpc, router.isAvailable rpc = true ↔ ∃ offer ∈ offers, rpc ∈ offer.rpcs
  once : router.available.Nodup
  available : ∀ rpc, rpc ∈ router.available ↔ ∃ offer ∈ offers, rpc ∈ offer.rpcs
  /-- One candidate for each registration that declares the identifier. -/
  candidates : ∀ rpc, (router.directory.candidates rpc).Perm
    ((offers.filter (rpc ∈ ·.rpcs)).map Offer.candidate)
  /-- By cost, and at the same cost in the order of registration. -/
  ranked : ∀ rpc, (router.directory.candidates rpc).Pairwise Candidate.Better

theorem Router.Orderly.publishes {router : Router I L} (orderly : router.Orderly) :
    router.Publishes router.offers := by
  have sorted := orderly.offers
  have listed (rpc : Identifier) := Directory.ranked_ofOffers sorted rpc
  rw [← orderly.directory] at listed
  refine ⟨sorted, fun rpc => ?_, ?_, fun rpc => ?_, fun rpc => (listed rpc).1,
    fun rpc => (listed rpc).2⟩
  · rw [Router.isAvailable, orderly.directory, Directory.isAvailable_ofOffers sorted, serving,
      ne_eq, List.filter_eq_nil_iff]
    simp
  · rw [Router.available, orderly.directory]
    exact Directory.nodup_available_ofOffers router.offers
  · rw [Router.available, orderly.directory, Directory.mem_available_ofOffers]

end RpcRouting
