import Mathlib.Data.List.Nodup
import RpcRouting.Facade.Roster
/-! The entries of a roster. Each has a number of its own, and each operation says what becomes of
the registrations behind the facade that the roster holds. In whatever order they are gone through,
none is left out and none comes twice. -/
namespace RpcRouting

theorem Order.perm_arrange {α : Type} (order : Order) (taken : Nat) (entries : List (Nat × α)) :
    (order.arrange taken entries).Perm entries := by
  have places (items : List (Nat × α)) : (List.range items.length).filterMap (items[·]?) = items := by
    induction items with
    | nil => rfl
    | cons first rest ih =>
      rw [List.length_cons, List.range_succ_eq_map, List.filterMap_cons, List.filterMap_map]
      exact congrArg (first :: ·) ih
  have perm := (order.perm taken (entries.map (·.1))).filterMap (entries[·]?)
  rwa [List.length_map, places] at perm

namespace Roster

variable {I A U : Type} {roster : Roster I A U} {id : Nat} {u : U}

/-- The numbers of the implementations that are entered. -/
def numbers (roster : Roster I A U) : List Nat := roster.records.map (·.1)

def listenerNumbers (roster : Roster I A U) : List Nat := roster.listeners.map (·.1)

/-- A roster whose entries have numbers of their own, which have been taken before. -/
structure Numbered (roster : Roster I A U) : Prop where
  records : roster.numbers.Nodup
  listeners : roster.listenerNumbers.Nodup
  records_lt : ∀ id ∈ roster.numbers, id < roster.nextNumber
  listeners_lt : ∀ id ∈ roster.listenerNumbers, id < roster.nextNumber

/-- A roster holds nothing for an implementation, so that nothing is lost with its record. -/
def HoldsNothing (roster : Roster I A U) (id : Nat) : Prop :=
  ∀ record, (id, record) ∈ roster.records → record.underlying = none

theorem numbered_empty : (empty : Roster I A U).Numbered := ⟨.nil, .nil, nofun, nofun⟩

/-! Looking up. -/

theorem split_of_lookup {α : Type} {entries : List (Nat × α)} {value : α}
    (found : entries.lookup id = some value) (nodup : (entries.map Prod.fst).Nodup) :
    ∃ before after, entries = before ++ (id, value) :: after ∧
      (∀ entry ∈ before, entry.1 ≠ id) ∧ ∀ entry ∈ after, entry.1 ≠ id := by
  induction entries with
  | nil => cases found
  | cons first rest ih =>
    obtain ⟨number, item⟩ := first
    obtain ⟨new, nodup⟩ := List.nodup_cons.mp nodup
    rw [List.lookup_cons] at found
    by_cases same : number = id
    · subst same
      rw [beq_self_eq_true, Option.some.injEq] at found
      subst found
      refine ⟨[], rest, rfl, nofun, ?_⟩
      intro entry member same
      exact new (List.mem_map.mpr ⟨entry, member, same⟩)
    · rw [beq_false_of_ne (Ne.symm same)] at found
      obtain ⟨before, after, rfl, above, below⟩ := ih found nodup
      refine ⟨(number, item) :: before, after, rfl, ?_, below⟩
      intro entry member
      rcases List.mem_cons.mp member with rfl | old
      · exact same
      · exact above entry old

theorem lookup_eq_none {α : Type} {entries : List (Nat × α)} :
    entries.lookup id = none ↔ id ∉ entries.map Prod.fst := by
  induction entries with
  | nil => simp
  | cons first rest ih =>
    rw [List.lookup_cons, List.map_cons, List.mem_cons]
    by_cases same : id = first.1
    · simp [same]
    · rw [beq_false_of_ne same]
      simpa [same] using ih

theorem record?_eq_none : roster.record? id = none ↔ id ∉ roster.numbers := lookup_eq_none

theorem listener?_eq_none : roster.listener? id = none ↔ id ∉ roster.listenerNumbers :=
  lookup_eq_none

theorem mem_of_lookup {α : Type} {entries : List (Nat × α)} {value : α}
    (found : entries.lookup id = some value) : (id, value) ∈ entries := by
  obtain ⟨before, after, rfl, -⟩ := List.lookup_eq_some_iff.mp found
  simp

theorem mem_of_record? {record : Record I A U} (found : roster.record? id = some record) :
    (id, record) ∈ roster.records := mem_of_lookup found

theorem mem_of_listener? (found : roster.listener? id = some u) : (id, u) ∈ roster.listeners :=
  mem_of_lookup found

theorem detach?_eq_some {next : Roster I A U} {underlying : Option U} :
    roster.detach? id = some (next, underlying) ↔ ∃ record, roster.record? id = some record ∧
      roster.setUnderlying id none = next ∧ record.underlying = underlying := by
  simp [detach?]

/-! Implementations. -/

theorem records_setUnderlying (underlying : Option U) :
    (roster.setUnderlying id underlying).records = roster.records.map fun entry =>
      if entry.1 = id then (id, { entry.2 with underlying := underlying }) else entry := by
  refine List.map_congr_left fun entry _ => ?_
  obtain ⟨number, record⟩ := entry
  dsimp only
  split
  · rename_i same
    rw [same]
  · rfl

@[simp]
theorem numbers_setUnderlying (underlying : Option U) :
    (roster.setUnderlying id underlying).numbers = roster.numbers := by
  rw [numbers, records_setUnderlying, List.map_map]
  refine List.map_congr_left fun entry _ => ?_
  by_cases same : entry.1 = id <;> simp [same]

@[simp]
theorem numbers_enter (implementation : I) (adapter : A) :
    (roster.enter id implementation adapter).numbers = roster.numbers ++ [id] := by
  simp [numbers, enter]

theorem numbers_remove [DecidableEq A] :
    (roster.remove id).numbers = roster.numbers.filter (· ≠ id) := by
  unfold remove
  cases there : roster.record? id with
  | none =>
    have absent := record?_eq_none.mp there
    refine (List.filter_eq_self.mpr fun number member => ?_).symm
    simpa using fun same : number = id => absent (same ▸ member)
  | some record =>
    simp [numbers, List.filter_map, Function.comp_def]

@[simp]
theorem listeners_remove [DecidableEq A] : (roster.remove id).listeners = roster.listeners := by
  unfold remove
  split <;> rfl

@[simp]
theorem nextNumber_remove [DecidableEq A] : (roster.remove id).nextNumber = roster.nextNumber := by
  unfold remove
  split <;> rfl

theorem mem_records_remove [DecidableEq A] {entry : Nat × Record I A U}
    (member : entry ∈ (roster.remove id).records) : entry ∈ roster.records := by
  unfold remove at member
  split at member
  · exact member
  · exact List.mem_of_mem_filter member

theorem mem_records_setUnderlying {underlying : Option U} {number : Nat} {record : Record I A U}
    (member : (number, record) ∈ (roster.setUnderlying id underlying).records) :
    number = id ∧ record.underlying = underlying ∨
      number ≠ id ∧ (number, record) ∈ roster.records := by
  rw [records_setUnderlying] at member
  obtain ⟨entry, old, same⟩ := List.mem_map.mp member
  split at same
  · obtain ⟨rfl, rfl⟩ := Prod.mk.inj same
    exact .inl ⟨rfl, rfl⟩
  · rename_i other
    rw [same] at old other
    exact .inr ⟨other, old⟩

/-- Taking a registration out of a record, or attaching one, shows in what the roster holds. -/
theorem count_setUnderlying [DecidableEq U] {record : Record I A U} (numbered : roster.Numbered)
    (there : roster.record? id = some record) (underlying : Option U) (u : U) :
    (roster.setUnderlying id underlying).underlyings.count u + record.underlying.toList.count u =
      roster.underlyings.count u + underlying.toList.count u := by
  obtain ⟨before, after, records, above, below⟩ := split_of_lookup there numbered.records
  have unchanged {entries : List (Nat × Record I A U)} (others : ∀ entry ∈ entries, entry.1 ≠ id) :
      (entries.map fun entry =>
        if entry.1 = id then (id, { entry.2 with underlying := underlying }) else entry) =
          entries := by
    refine (List.map_congr_left fun entry member => ?_).trans (List.map_id entries)
    rw [if_neg (others entry member), id_eq]
  have changed : (roster.setUnderlying id underlying).records =
      before ++ (id, { record with underlying := underlying }) :: after := by
    rw [records_setUnderlying, records, List.map_append, List.map_cons, if_pos rfl,
      unchanged above, unchanged below]
  have listeners : (roster.setUnderlying id underlying).listeners = roster.listeners := rfl
  simp only [underlyings, changed, listeners, records, List.filterMap_append, List.count_append,
    List.filterMap_cons]
  cases record.underlying <;> cases underlying <;> simp [List.count_cons] <;> omega

/-- With a record that holds nothing nothing is lost. -/
theorem underlyings_remove [DecidableEq A] (nothing : roster.HoldsNothing id) :
    (roster.remove id).underlyings = roster.underlyings := by
  unfold remove
  cases there : roster.record? id with
  | none => rfl
  | some record =>
    simp only [underlyings, List.filterMap_filter]
    congr 1
    refine List.filterMap_congr fun entry member => ?_
    by_cases hit : entry.1 = id
    · simp [hit, nothing entry.2 (hit ▸ member)]
    · simp [hit]

/-! Listeners. -/

theorem count_removeListener [DecidableEq U] {underlying : U} (numbered : roster.Numbered)
    (there : roster.listener? id = some underlying) (u : U) :
    (roster.removeListener id).underlyings.count u + [underlying].count u =
      roster.underlyings.count u := by
  obtain ⟨before, after, listeners, above, below⟩ := split_of_lookup there numbered.listeners
  have kept : (roster.removeListener id).listeners = before ++ after := by
    rw [removeListener, listeners, List.filter_append, List.filter_cons_of_neg (by simp),
      List.filter_eq_self.mpr (by simpa using above), List.filter_eq_self.mpr (by simpa using below)]
  have records : (roster.removeListener id).records = roster.records := rfl
  simp only [underlyings, kept, records, listeners, List.map_append, List.map_cons,
    List.count_append, List.count_cons, List.count_nil]
  omega

theorem count_enterListener [DecidableEq U] (underlying u : U) :
    (roster.enterListener id underlying).underlyings.count u =
      roster.underlyings.count u + [underlying].count u := by
  simp only [underlyings, enterListener, List.map_append, List.map_cons, List.map_nil,
    List.count_append]
  omega

@[simp]
theorem listenerNumbers_enterListener (underlying : U) :
    (roster.enterListener id underlying).listenerNumbers = roster.listenerNumbers ++ [id] := by
  simp [listenerNumbers, enterListener]

@[simp]
theorem listenerNumbers_remove [DecidableEq A] :
    (roster.remove id).listenerNumbers = roster.listenerNumbers := by
  rw [listenerNumbers, listeners_remove, listenerNumbers]

theorem listenerNumbers_removeListener :
    (roster.removeListener id).listenerNumbers = roster.listenerNumbers.filter (· ≠ id) := by
  simp [listenerNumbers, removeListener, List.filter_map, Function.comp_def]

/-! What is found after each operation. -/

theorem lookup_cons_eq {α : Type} (first : Nat × α) (rest : List (Nat × α)) (number : Nat) :
    (first :: rest).lookup number =
      if number = first.1 then some first.2 else rest.lookup number := by
  rw [List.lookup_cons]
  by_cases same : number = first.1
  · rw [if_pos same, same, beq_self_eq_true]
  · rw [if_neg same, beq_false_of_ne same]

theorem lookup_filter_ne {α : Type} (entries : List (Nat × α)) (id number : Nat) :
    (entries.filter (·.1 ≠ id)).lookup number =
      if number = id then none else entries.lookup number := by
  induction entries with
  | nil => simp
  | cons first rest ih =>
    by_cases hit : first.1 = id
    · rw [List.filter_cons_of_neg (by simpa using hit), ih, lookup_cons_eq, hit]
      split <;> rfl
    · rw [List.filter_cons_of_pos (by simpa using hit), lookup_cons_eq, lookup_cons_eq, ih]
      by_cases same : number = first.1
      · rw [if_pos same, if_pos same, if_neg (same ▸ hit)]
      · rw [if_neg same, if_neg same]

theorem record?_setUnderlying (underlying : Option U) (number : Nat) :
    (roster.setUnderlying id underlying).record? number = (roster.record? number).map fun record =>
      if number = id then { record with underlying := underlying } else record := by
  unfold record?
  rw [records_setUnderlying]
  induction roster.records with
  | nil => rfl
  | cons first rest ih =>
    rw [List.map_cons, lookup_cons_eq, lookup_cons_eq, ih]
    by_cases hit : first.1 = id
    · rw [if_pos hit, ← hit]
      split <;> simp_all
    · rw [if_neg hit]
      split
      · rename_i same
        simp [same, hit]
      · rfl

theorem record?_enter (implementation : I) (adapter : A) (number : Nat) :
    (roster.enter id implementation adapter).record? number = (roster.record? number).or
      (if number = id then some ⟨implementation, adapter, none⟩ else none) := by
  rw [record?, enter, List.lookup_append, lookup_cons_eq]
  rfl

theorem record?_remove [DecidableEq A] (number : Nat) :
    (roster.remove id).record? number = if number = id then none else roster.record? number := by
  unfold remove
  split
  · rename_i none
    split
    · rename_i same
      rw [same, none]
    · rfl
  · exact lookup_filter_ne roster.records id number

theorem listener?_removeListener (number : Nat) :
    (roster.removeListener id).listener? number =
      if number = id then none else roster.listener? number :=
  lookup_filter_ne roster.listeners id number

theorem listener?_enterListener (underlying : U) (number : Nat) :
    (roster.enterListener id underlying).listener? number =
      (roster.listener? number).or (if number = id then some underlying else none) := by
  rw [listener?, enterListener, List.lookup_append, lookup_cons_eq]
  rfl

/-! The entries in an order. -/

theorem perm_records_arranged (roster : Roster I A U) (order : Order) :
    (roster.arranged order).records.Perm roster.records := order.perm_arrange ..

theorem perm_listeners_arranged (roster : Roster I A U) (order : Order) :
    (roster.arranged order).listeners.Perm roster.listeners := order.perm_arrange ..

theorem perm_numbers_arranged (roster : Roster I A U) (order : Order) :
    (roster.arranged order).numbers.Perm roster.numbers :=
  (roster.perm_records_arranged order).map _

theorem perm_listenerNumbers_arranged (roster : Roster I A U) (order : Order) :
    (roster.arranged order).listenerNumbers.Perm roster.listenerNumbers :=
  (roster.perm_listeners_arranged order).map _

theorem perm_underlyings_arranged (roster : Roster I A U) (order : Order) :
    (roster.arranged order).underlyings.Perm roster.underlyings :=
  ((roster.perm_records_arranged order).filterMap _).append
    ((roster.perm_listeners_arranged order).map _)

/-! What a roster holds after each operation. -/

theorem mem_underlyings {u : U} : u ∈ roster.underlyings ↔
    (∃ id record, (id, record) ∈ roster.records ∧ record.underlying = some u) ∨
      ∃ id, (id, u) ∈ roster.listeners := by
  simp [underlyings]

theorem mem_underlyings_of_record? {record : Record I A U} (found : roster.record? id = some record)
    (holds : record.underlying = some u) : u ∈ roster.underlyings :=
  mem_underlyings.mpr (.inl ⟨id, record, mem_of_record? found, holds⟩)

theorem mem_underlyings_of_listener? (found : roster.listener? id = some u) :
    u ∈ roster.underlyings :=
  mem_underlyings.mpr (.inr ⟨id, mem_of_listener? found⟩)

@[simp]
theorem underlyings_takeNumber : roster.takeNumber.underlyings = roster.underlyings := rfl

@[simp]
theorem underlyings_enter (implementation : I) (adapter : A) :
    (roster.enter id implementation adapter).underlyings = roster.underlyings := by
  simp [underlyings, enter]

theorem mem_underlyings_setUnderlying {attached : Option U}
    (member : u ∈ (roster.setUnderlying id attached).underlyings) :
    u ∈ roster.underlyings ∨ attached = some u := by
  rcases mem_underlyings.mp member with ⟨number, record, entry, holds⟩ | ⟨number, entry⟩
  · rcases mem_records_setUnderlying entry with ⟨-, same⟩ | ⟨-, old⟩
    · exact .inr (same.symm.trans holds)
    · exact .inl (mem_underlyings.mpr (.inl ⟨number, record, old, holds⟩))
  · exact .inl (mem_underlyings.mpr (.inr ⟨number, entry⟩))

theorem mem_underlyings_remove [DecidableEq A] (member : u ∈ (roster.remove id).underlyings) :
    u ∈ roster.underlyings := by
  rcases mem_underlyings.mp member with ⟨number, record, entry, holds⟩ | ⟨number, entry⟩
  · exact mem_underlyings.mpr (.inl ⟨number, record, mem_records_remove entry, holds⟩)
  · rw [listeners_remove] at entry
    exact mem_underlyings.mpr (.inr ⟨number, entry⟩)

theorem mem_underlyings_enterListener {underlying : U} :
    u ∈ (roster.enterListener id underlying).underlyings ↔
      u ∈ roster.underlyings ∨ u = underlying := by
  simp [underlyings, enterListener, or_assoc]

theorem mem_underlyings_removeListener (member : u ∈ (roster.removeListener id).underlyings) :
    u ∈ roster.underlyings := by
  rcases mem_underlyings.mp member with entry | ⟨number, entry⟩
  · exact mem_underlyings.mpr (.inl entry)
  · exact mem_underlyings.mpr (.inr ⟨number, List.mem_of_mem_filter entry⟩)

/-! What each operation keeps. -/

theorem HoldsNothing.enter {number : Nat} (nothing : roster.HoldsNothing number)
    (implementation : I) (adapter : A) :
    (roster.takeNumber.enter id implementation adapter).HoldsNothing number := by
  intro record member
  rcases List.mem_append.mp member with old | new
  · exact nothing record old
  · cases List.mem_singleton.mp new
    rfl

theorem holdsNothing_setUnderlying {number : Nat} {underlying : Option U}
    (own : number = id → underlying = none) (others : number ≠ id → roster.HoldsNothing number) :
    (roster.setUnderlying id underlying).HoldsNothing number := by
  intro record member
  rcases mem_records_setUnderlying member with ⟨hit, same⟩ | ⟨other, old⟩
  · exact same.trans (own hit)
  · exact others other record old

theorem HoldsNothing.remove [DecidableEq A] {number : Nat} (nothing : roster.HoldsNothing number)
    (id : Nat) : (roster.remove id).HoldsNothing number :=
  fun record member => nothing record (mem_records_remove member)

namespace Numbered

theorem holdsNothing_nextNumber (numbered : roster.Numbered) :
    roster.HoldsNothing roster.nextNumber := by
  intro record member
  have taken := numbered.records_lt _ (List.mem_map_of_mem (f := Prod.fst) member)
  exact absurd taken (Nat.lt_irrefl _)

theorem takeNumber (numbered : roster.Numbered) : roster.takeNumber.Numbered :=
  ⟨numbered.records, numbered.listeners,
    fun id member => Nat.lt_succ_of_lt (numbered.records_lt id member),
    fun id member => Nat.lt_succ_of_lt (numbered.listeners_lt id member)⟩

theorem enter (numbered : roster.Numbered) (implementation : I) (adapter : A) :
    (roster.takeNumber.enter roster.nextNumber implementation adapter).Numbered := by
  have taken := numbered.takeNumber
  refine ⟨?_, taken.listeners, ?_, taken.listeners_lt⟩
  · rw [numbers_enter]
    refine List.nodup_append.mpr ⟨numbered.records, List.nodup_singleton _, ?_⟩
    intro number member last same
    rw [List.mem_singleton.mp same]
    exact Nat.ne_of_lt (numbered.records_lt number member)
  · rw [numbers_enter]
    intro number member
    rcases List.mem_append.mp member with old | new
    · exact taken.records_lt number old
    · rw [List.mem_singleton.mp new]
      exact Nat.lt_succ_self _

theorem setUnderlying (numbered : roster.Numbered) (id : Nat) (underlying : Option U) :
    (roster.setUnderlying id underlying).Numbered := by
  refine ⟨?_, numbered.listeners, ?_, numbered.listeners_lt⟩
  · rw [numbers_setUnderlying]
    exact numbered.records
  · rw [numbers_setUnderlying]
    exact numbered.records_lt

theorem remove [DecidableEq A] (numbered : roster.Numbered) (id : Nat) :
    (roster.remove id).Numbered := by
  refine ⟨?_, ?_, ?_, ?_⟩
  · rw [numbers_remove]
    exact numbered.records.filter _
  · rw [listenerNumbers_remove]
    exact numbered.listeners
  · rw [numbers_remove, nextNumber_remove]
    exact fun number member => numbered.records_lt number (List.mem_of_mem_filter member)
  · rw [listenerNumbers_remove, nextNumber_remove]
    exact numbered.listeners_lt

theorem enterListener (numbered : roster.Numbered) (taken : id < roster.nextNumber)
    (new : id ∉ roster.listenerNumbers) (underlying : U) :
    (roster.enterListener id underlying).Numbered := by
  refine ⟨numbered.records, ?_, numbered.records_lt, ?_⟩
  · rw [listenerNumbers_enterListener]
    refine List.nodup_append.mpr ⟨numbered.listeners, List.nodup_singleton _, ?_⟩
    rintro number member last same rfl
    exact new (List.mem_singleton.mp same ▸ member)
  · rw [listenerNumbers_enterListener]
    intro number member
    rcases List.mem_append.mp member with old | last
    · exact numbered.listeners_lt number old
    · rw [List.mem_singleton.mp last]
      exact taken

theorem removeListener (numbered : roster.Numbered) (id : Nat) :
    (roster.removeListener id).Numbered := by
  refine ⟨numbered.records, ?_, numbered.records_lt, ?_⟩
  · rw [listenerNumbers_removeListener]
    exact numbered.listeners.filter _
  · rw [listenerNumbers_removeListener]
    exact fun number member => numbered.listeners_lt number (List.mem_of_mem_filter member)

end Numbered
end Roster
end RpcRouting
