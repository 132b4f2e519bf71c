import RpcRouting.Proofs.Router.Listing
/-! The pages of a directory. No type has two of them and no page has a context twice, so that what
is available is listed once, and it is what open registrations declare. -/
namespace RpcRouting
open Current (Identifier)

variable {I : Type}

section Keys
variable {K V : Type} [DecidableEq K] {begin : V} {change : V → V} {key : K}
variable {entries : List (K × V)}

theorem forall_mem_amendAt (P : K → V → Prop) (first : P key (change begin))
    (next : ∀ value, P key value → P key (change value))
    (all : ∀ entry ∈ entries, P entry.1 entry.2) :
    ∀ entry ∈ amendAt begin change key entries, P entry.1 entry.2 := by
  induction entries with
  | nil => exact List.forall_mem_singleton.mpr first
  | cons entry rest ih =>
    obtain ⟨here, others⟩ := List.forall_mem_cons.mp all
    rw [amendAt]
    split
    · rename_i same
      subst same
      exact List.forall_mem_cons.mpr ⟨next _ here, others⟩
    · exact List.forall_mem_cons.mpr ⟨here, ih others⟩

theorem nodup_amendAt (once : (entries.map (·.1)).Nodup) :
    ((amendAt begin change key entries).map (·.1)).Nodup := by
  induction entries with
  | nil => exact List.nodup_singleton key
  | cons entry rest ih =>
    obtain ⟨other, value⟩ := entry
    obtain ⟨fresh, others⟩ := List.nodup_cons.mp once
    rw [amendAt]
    split
    · exact once
    · rename_i ne
      have elsewhere : ∀ entry ∈ amendAt begin change key rest, entry.1 ≠ other :=
        forall_mem_amendAt (fun key _ => key ≠ other) (Ne.symm ne) (fun _ => id)
          fun entry member same => fresh (List.mem_map.mpr ⟨entry, member, same⟩)
      refine List.nodup_cons.mpr ⟨?_, ih others⟩
      intro member
      obtain ⟨entry, there, same⟩ := List.mem_map.mp member
      exact elsewhere entry there same

/-- Where no key occurs twice, what stands in the list is what is found in it. -/
theorem lookup_eq_some_iff_mem (once : (entries.map (·.1)).Nodup) {value : V} :
    entries.lookup key = some value ↔ (key, value) ∈ entries := by
  refine ⟨fun found => ?_, fun member => ?_⟩
  · obtain ⟨before, after, rfl, -⟩ := List.lookup_eq_some_iff.mp found
    exact List.mem_append_right _ List.mem_cons_self
  · obtain ⟨before, after, rfl⟩ := List.append_of_mem member
    refine List.lookup_eq_some_iff.mpr ⟨before, after, rfl, fun entry above => ?_⟩
    rw [List.map_append, List.nodup_append] at once
    rw [bne_iff_ne]
    exact (once.2.2 _ (List.mem_map_of_mem above) _ List.mem_cons_self).symm

end Keys

namespace Current.Identifier

theorem nonempty_of_context? {rpc : Identifier} {context : InstancePath}
    (found : rpc.context? = some context) : context ≠ .empty := by
  obtain ⟨type, scope⟩ := rpc
  cases scope with
  | global => cases found
  | within place nonempty =>
    cases found
    exact nonempty

theorem context?_create {type : SchemaPath} {context : InstancePath} (nonempty : context ≠ .empty) :
    (create type (some context)).context? = some context := by
  rw [create, dif_neg nonempty]
  rfl

end Current.Identifier

/-- No context occurs twice on the page or is empty, and somebody serves each of them. -/
structure Page.Tidy (page : Page I) : Prop where
  once : (page.routed.map (·.1)).Nodup
  served : ∀ entry ∈ page.routed, entry.1 ≠ .empty ∧ entry.2 ≠ []

namespace Page
variable {page : Page I}

theorem tidy_empty : (empty : Page I).Tidy := ⟨List.nodup_nil, by simp [empty]⟩

theorem Tidy.add (tidy : page.Tidy) (candidate : Candidate I) (rpc : Identifier) :
    (page.add candidate rpc.context?).Tidy := by
  cases found : rpc.context? with
  | none => exact ⟨tidy.once, tidy.served⟩
  | some context =>
    have nonempty := Current.Identifier.nonempty_of_context? found
    have served (found : List (Candidate I)) : context ≠ .empty ∧ candidate.addTo found ≠ [] :=
      ⟨nonempty, candidate.addTo_ne_nil found⟩
    exact ⟨nodup_amendAt tidy.once,
      forall_mem_amendAt (fun context found => context ≠ InstancePath.empty ∧ found ≠ [])
        (served []) (fun found _ => served found) tidy.served⟩

theorem available_rank (type : SchemaPath) (page : Page I) :
    page.rank.available type = page.available type := by
  have global : (Candidate.rank page.global).isEmpty = page.global.isEmpty := by
    rw [Bool.eq_iff_iff, List.isEmpty_iff, List.isEmpty_iff, List.eq_nil_iff_forall_not_mem,
      List.eq_nil_iff_forall_not_mem]
    simp only [Candidate.mem_rank]
  rw [available, rank, global, List.map_map, available]
  rfl

/-- A tidy page makes available what it has candidates for. -/
theorem Tidy.mem_available (tidy : page.Tidy) (type : SchemaPath) (rpc : Identifier) :
    rpc ∈ page.available type ↔ rpc.type = type ∧ page.candidates rpc.context? ≠ [] := by
  rw [available, List.mem_append, List.mem_map]
  cases found : rpc.context? with
  | none =>
    have elsewhere : ¬ ∃ entry ∈ page.routed, Identifier.create type (some entry.1) = rpc := by
      rintro ⟨entry, member, rfl⟩
      rw [Current.Identifier.context?_create (tidy.served entry member).1] at found
      cases found
    have is : rpc = .global type ↔ rpc.type = type := by
      rw [Current.Identifier.eq_iff, found]
      exact and_iff_left rfl
    rw [or_iff_left elsewhere, candidates]
    cases page.global <;> simp [is]
  | some context =>
    have nonempty := Current.Identifier.nonempty_of_context? found
    have elsewhere : rpc ∉ if page.global.isEmpty then [] else [Identifier.global type] := by
      intro member
      split at member
      · cases member
      · rw [List.mem_singleton.mp member] at found
        cases found
    have is (other : InstancePath) (there : other ≠ .empty) :
        Identifier.create type (some other) = rpc ↔ rpc.type = type ∧ other = context := by
      rw [Current.Identifier.eq_iff, found, Current.Identifier.context?_create there,
        Current.Identifier.type_create, Option.some.injEq, eq_comm (a := type)]
    rw [or_iff_right elsewhere, candidates]
    constructor
    · rintro ⟨entry, member, same⟩
      obtain ⟨there, served⟩ := tidy.served entry member
      obtain ⟨of, rfl⟩ := (is entry.1 there).mp same
      rw [(lookup_eq_some_iff_mem tidy.once).mpr member]
      exact ⟨of, served⟩
    · rintro ⟨of, served⟩
      cases there : page.routed.lookup context with
      | none => simp [there] at served
      | some candidates =>
        exact ⟨(context, candidates), (lookup_eq_some_iff_mem tidy.once).mp there,
          (is context nonempty).mpr ⟨of, rfl⟩⟩

theorem Tidy.nodup_available (tidy : page.Tidy) (type : SchemaPath) :
    (page.available type).Nodup := by
  have contexts : (page.routed.map fun entry => Identifier.create type (some entry.1)).Nodup := by
    rw [List.nodup_map_iff_inj_on (List.Nodup.of_map _ tidy.once)]
    intro entry member other there same
    have context := congrArg Identifier.context? same
    rw [Current.Identifier.context?_create (tidy.served entry member).1,
      Current.Identifier.context?_create (tidy.served other there).1, Option.some.injEq] at context
    exact List.inj_on_of_nodup_map tidy.once member there context
  refine List.Nodup.append (by split <;> simp) contexts fun rpc global routed => ?_
  obtain ⟨entry, member, rfl⟩ := List.mem_map.mp routed
  split at global
  · cases global
  · have context := congrArg Identifier.context? (List.mem_singleton.mp global)
    rw [Current.Identifier.context?_create (tidy.served entry member).1] at context
    cases context

end Page

/-- No type has two pages, and every page is tidy. -/
structure Directory.Tidy (directory : Directory I) : Prop where
  once : (directory.pages.map (·.1)).Nodup
  pages : ∀ entry ∈ directory.pages, entry.2.Tidy

namespace Directory
variable {directory : Directory I}

theorem Tidy.add (tidy : directory.Tidy) (rpc : Identifier) (candidate : Candidate I) :
    (directory.add rpc candidate).Tidy :=
  ⟨nodup_amendAt tidy.once, forall_mem_amendAt (fun _ (page : Page I) => page.Tidy)
    (Page.tidy_empty.add candidate rpc) (fun _ page => page.add candidate rpc) tidy.pages⟩

theorem tidy_collect (offers : List (Offer I)) : (collect offers).Tidy := by
  have added (rpcs : List Identifier) (candidate : Candidate I) {directory : Directory I}
      (tidy : directory.Tidy) : (rpcs.foldl (·.add · candidate) directory).Tidy := by
    induction rpcs generalizing directory with
    | nil => exact tidy
    | cons rpc rest ih => exact ih (tidy.add rpc candidate)
  induction offers using List.reverseRecOn with
  | nil => exact ⟨List.nodup_nil, by simp [collect, empty]⟩
  | append_singleton offers offer ih =>
    rw [collect_append]
    exact added offer.rpcs offer.candidate ih

theorem available_rank (directory : Directory I) :
    directory.rank.available = directory.available := by
  rw [available, rank, List.flatMap_map, available]
  simp only [Page.available_rank]

/-- A tidy directory makes available what it has candidates for. -/
theorem Tidy.mem_available (tidy : directory.Tidy) (rpc : Identifier) :
    rpc ∈ directory.available ↔ directory.candidates rpc ≠ [] := by
  rw [available, List.mem_flatMap, candidates]
  constructor
  · rintro ⟨⟨type, page⟩, member, listed⟩
    obtain ⟨rfl, served⟩ := ((tidy.pages _ member).mem_available type rpc).mp listed
    rwa [(lookup_eq_some_iff_mem tidy.once).mpr member]
  · intro served
    cases found : directory.pages.lookup rpc.type with
    | none =>
      rw [found] at served
      exact absurd (candidates_empty rpc) served
    | some page =>
      rw [found] at served
      have member := (lookup_eq_some_iff_mem tidy.once).mp found
      exact ⟨_, member, ((tidy.pages _ member).mem_available _ rpc).mpr ⟨rfl, served⟩⟩

theorem candidates_collect_ne_nil (offers : List (Offer I)) (rpc : Identifier) :
    (collect offers).candidates rpc ≠ [] ↔ ∃ offer ∈ offers, rpc ∈ offer.rpcs := by
  induction offers using List.reverseRecOn with
  | nil => simp [collect, candidates_empty]
  | append_singleton offers offer ih =>
    rw [collect_append, candidates_addOffer]
    by_cases declares : rpc ∈ offer.rpcs
    · simp [declares, Candidate.addTo_ne_nil]
    · simpa [declares] using ih

/-- What is available is what open registrations declare. -/
theorem mem_available_ofOffers (offers : List (Offer I)) (rpc : Identifier) :
    rpc ∈ (ofOffers offers).available ↔ ∃ offer ∈ offers, rpc ∈ offer.rpcs := by
  rw [ofOffers, available_rank, (tidy_collect offers).mem_available, candidates_collect_ne_nil]

/-- No identifier is listed twice. -/
theorem nodup_available_ofOffers (offers : List (Offer I)) : (ofOffers offers).available.Nodup := by
  have tidy := tidy_collect offers
  rw [ofOffers, available_rank, available, List.nodup_flatMap]
  refine ⟨fun entry member => (tidy.pages entry member).nodup_available entry.1, ?_⟩
  refine (List.pairwise_map.mp tidy.once).imp_of_mem fun {entry other} here there ne => ?_
  intro rpc listed listed'
  have type := ((tidy.pages entry here).mem_available _ _).mp listed
  have type' := ((tidy.pages other there).mem_available _ _).mp listed'
  exact ne (type.1.symm.trans type'.1)

theorem serves_add (directory : Directory I) (rpc : Identifier) (candidate : Candidate I)
    (type : SchemaPath) : (directory.add rpc candidate).serves type ↔
      type = rpc.type ∨ directory.serves type := by
  rw [serves, add, lookup_amendAt]
  by_cases same : type = rpc.type
  · simp [same]
  · simp [same, serves]

/-- A type has a page if an open registration declares an identifier of that type. -/
theorem serves_ofOffers (offers : List (Offer I)) (type : SchemaPath) :
    (ofOffers offers).serves type ↔ ∃ offer ∈ offers, ∃ rpc ∈ offer.rpcs, rpc.type = type := by
  have added (rpcs : List Identifier) (candidate : Candidate I) (directory : Directory I) :
      (rpcs.foldl (·.add · candidate) directory).serves type ↔
        (∃ rpc ∈ rpcs, rpc.type = type) ∨ directory.serves type := by
    induction rpcs generalizing directory with
    | nil => simp
    | cons rpc rest ih =>
      rw [List.foldl_cons, ih, serves_add, List.exists_mem_cons_iff, eq_comm (a := type),
        or_left_comm, or_assoc]
  have collected : (collect offers).serves type ↔
      ∃ offer ∈ offers, ∃ rpc ∈ offer.rpcs, rpc.type = type := by
    induction offers using List.reverseRecOn with
    | nil => simp [collect, empty, serves]
    | append_singleton offers offer ih =>
      rw [collect_append, addOffer, added, ih]
      simp only [List.mem_append, List.mem_singleton, or_and_right, exists_or, exists_eq_left]
      exact or_comm
  rw [← collected, serves, ofOffers, rank, lookup_map, Option.isSome_map, serves]

end Directory
end RpcRouting
