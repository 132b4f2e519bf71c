import Mathlib.Data.List.Nodup
import RpcRouting.Proofs.Path.Naming
/-! Which listings of keys make one entry: those that give every key name the same values in the same
order, in whatever order the names come. If no name comes twice, the order of the keys does not
matter at all. -/
namespace RpcRouting

/-- The values that are given for a key name, in the order in which they are given. -/
def valuesFor (name : QualifiedName) (keys : List Key) : List String :=
  (keys.filter (·.1 = name)).map (·.2)

theorem map_valuesFor (name : QualifiedName) (keys : List Key) :
    (valuesFor name keys).map (name, ·) = keys.filter (·.1 = name) := by
  have named : ∀ key ∈ keys.filter (·.1 = name), (name, key.2) = key := by
    intro key member
    have same : key.1 = name := by simpa using (List.mem_filter.mp member).2
    rw [← same]
  rw [valuesFor, List.map_map]
  exact (List.map_congr_left named).trans (List.map_id _)

theorem valuesFor_eq_iff {name : QualifiedName} {keys others : List Key} :
    valuesFor name keys = valuesFor name others ↔
      keys.filter (·.1 = name) = others.filter (·.1 = name) := by
  constructor
  · intro same
    rw [← map_valuesFor, same, map_valuesFor]
  · intro same
    rw [valuesFor, same, valuesFor]

theorem perm_insertKey (key : Key) (keys : List Key) : (insertKey key keys).Perm (key :: keys) := by
  induction keys with
  | nil => exact .refl _
  | cons first rest ih =>
    rw [insertKey]
    split
    · exact .refl _
    · exact (ih.cons first).trans (.swap key first rest)

theorem perm_sortKeys (keys : List Key) : (sortKeys keys).Perm keys := by
  induction keys with
  | nil => exact .refl _
  | cons key rest ih => exact (perm_insertKey key (sortKeys rest)).trans (ih.cons key)

namespace Keys
variable {listed others : List Key}

theorem eq_of_toList {keys keys' : Keys} (same : keys.toList = keys'.toList) : keys = keys' := by
  cases keys
  cases same
  rfl

theorem perm_ofList (listed : List Key) : (ofList listed).toList.Perm listed := perm_sortKeys listed

/-- Keys are the same if each name has the same values. -/
theorem ofList_eq_iff :
    ofList listed = ofList others ↔ ∀ name, valuesFor name listed = valuesFor name others := by
  rw [← sorts_iff]
  constructor
  · intro sorts name
    apply valuesFor_eq_iff.mpr
    rw [← sorts name, sorts_ofList others name]
  · intro same name
    rw [sorts_ofList others name]
    exact (valuesFor_eq_iff.mp (same name)).symm

theorem perm_of_ofList_eq (same : ofList listed = ofList others) : listed.Perm others :=
  (perm_ofList listed).symm.trans (same ▸ perm_ofList others)

/-- Where no name comes twice there is one way to put the keys in order. -/
theorem ofList_eq_of_perm (distinct : (listed.map (·.1)).Nodup) (perm : listed.Perm others) :
    ofList listed = ofList others := by
  have unique : ∀ first second, first ∈ (ofList listed).toList → second ∈ (ofList others).toList →
      first.1 ≤ second.1 → second.1 ≤ first.1 → first = second := by
    intro first second here there before after
    have first_listed : first ∈ listed := (perm_ofList listed).mem_iff.mp here
    have second_listed : second ∈ listed :=
      perm.mem_iff.mpr ((perm_ofList others).mem_iff.mp there)
    exact List.inj_on_of_nodup_map distinct first_listed second_listed
      (QualifiedName.le_antisymm before after)
  have stored : (ofList listed).toList.Perm (ofList others).toList :=
    (perm_ofList listed).trans (perm.trans (perm_ofList others).symm)
  apply eq_of_toList
  exact List.Perm.eq_of_pairwise unique (ofList listed).sorted (ofList others).sorted stored

end Keys

namespace PathArgument

/-- Entries of one node are the same if and only if every key name has the same values in the same
order; where no name comes twice, if and only if the keys are the same in some order. What an entry
has stored are the keys that were given, in the order of their names. -/
theorem entry_determined_by_values (node : QualifiedName) (listed others : List Key) :
    (entry node (.ofList listed) = entry node (.ofList others) ↔
      ∀ name, valuesFor name listed = valuesFor name others) ∧
    ((listed.map (·.1)).Nodup →
      (entry node (.ofList listed) = entry node (.ofList others) ↔ listed.Perm others)) ∧
    (Keys.ofList listed).toList.Pairwise (·.1 ≤ ·.1) ∧
    (Keys.ofList listed).toList.Perm listed := by
  simp only [entry.injEq, true_and]
  refine ⟨Keys.ofList_eq_iff, ?_, pairwise_sortKeys listed, Keys.perm_ofList listed⟩
  intro distinct
  constructor
  · exact Keys.perm_of_ofList_eq
  · exact Keys.ofList_eq_of_perm distinct

/-- Keys of two names make the same entry in either order, two keys of one name do not. -/
theorem entry_determined_by_values_reordered :
    let id : QualifiedName := ⟨"id", by decide⟩
    let zone : QualifiedName := ⟨"zone", by decide⟩
    entry id (.ofList [(zone, "eu"), (id, "n1")]) =
      entry id (.ofList [(id, "n1"), (zone, "eu")]) ∧
    entry id (.ofList [(id, "n1"), (zone, "eu"), (id, "n2")]) ≠
      entry id (.ofList [(id, "n2"), (id, "n1"), (zone, "eu")]) := by
  intro id zone
  obtain ⟨-, reorder, -, -⟩ :=
    entry_determined_by_values id [(zone, "eu"), (id, "n1")] [(id, "n1"), (zone, "eu")]
  obtain ⟨values, -, -, -⟩ := entry_determined_by_values id
    [(id, "n1"), (zone, "eu"), (id, "n2")] [(id, "n2"), (id, "n1"), (zone, "eu")]
  constructor
  · exact (reorder (by decide)).mpr (by decide)
  · intro same
    have here : valuesFor id [(id, "n1"), (zone, "eu"), (id, "n2")] ≠
        valuesFor id [(id, "n2"), (id, "n1"), (zone, "eu")] := by decide
    exact here (values.mp same id)

end PathArgument
end RpcRouting
