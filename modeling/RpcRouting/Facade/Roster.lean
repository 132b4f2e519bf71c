/-! The roster of a facade: for each of its open registrations what was registered, the adapter that
stands for it behind the facade, and the registration there. An implementation is entered before its
adapter is registered, so that listeners who are called meanwhile find it. -/
namespace RpcRouting

structure Record (I A U : Type) where
  implementation : I
  adapter : A
  /-- The registration behind the facade. It is missing while it is being made or released. -/
  underlying : Option U

/-- Here `I` are the implementations registered with the facade, `A` their adapters, and `U` the
registrations behind it. -/
structure Roster (I A U : Type) where
  /-- The number of the next registration. The counter of the program has 64 bits; fewer than
  `2 ^ 64` registrations are assumed, so that no number comes twice. -/
  nextNumber : Nat
  records : List (Nat × Record I A U)
  owners : List (A × Nat)
  listeners : List (Nat × U)

/-- An order in which the entries of a roster are gone through when they are closed. It may depend
on how many registrations the roster has seen and on which are in it; nothing else is known about
it. -/
structure Order where
  /-- Which entry comes when, as places in the list of the numbers. -/
  places : (taken : Nat) → (numbers : List Nat) → List Nat
  perm : ∀ taken numbers, (places taken numbers).Perm (List.range numbers.length)

namespace Order

/-- The order in which the entries were made. -/
def asEntered : Order := ⟨fun _ numbers => List.range numbers.length, fun _ _ => .refl _⟩

def arrange {α : Type} (order : Order) (taken : Nat) (entries : List (Nat × α)) : List (Nat × α) :=
  (order.places taken (entries.map (·.1))).filterMap (entries[·]?)

end Order

namespace Roster

variable {I A U : Type}

def empty : Roster I A U := ⟨1, [], [], []⟩

def takeNumber (roster : Roster I A U) : Roster I A U :=
  { roster with nextNumber := roster.nextNumber + 1 }

/-- Enters an implementation whose registration behind the facade is still to be made. -/
def enter (roster : Roster I A U) (id : Nat) (implementation : I) (adapter : A) : Roster I A U :=
  { roster with
    records := roster.records ++ [(id, ⟨implementation, adapter, none⟩)]
    owners := roster.owners ++ [(adapter, id)] }

def record? (roster : Roster I A U) (id : Nat) : Option (Record I A U) := roster.records.lookup id

def setUnderlying (roster : Roster I A U) (id : Nat) (underlying : Option U) : Roster I A U :=
  { roster with
    records := roster.records.map fun (other, record) =>
      if other = id then (other, { record with underlying := underlying }) else (other, record) }

/-- Completes a registration. If it has been released meanwhile there is nothing to complete, and
the registration behind the facade is left over. -/
def complete (roster : Roster I A U) (id : Nat) (underlying : U) : Roster I A U × Option U :=
  match roster.record? id with
  | some _ => (roster.setUnderlying id (some underlying), none)
  | none => (roster, some underlying)

/-- The implementation for which an adapter stands. -/
def implementation? [DecidableEq A] (roster : Roster I A U) (adapter : A) : Option I := do
  let (_, id) ← roster.owners.find? (·.1 = adapter)
  return (← roster.record? id).implementation

/-- Begins a release: takes the registration behind the facade, if it is there. -/
def detach? (roster : Roster I A U) (id : Nat) : Option (Roster I A U × Option U) :=
  (roster.record? id).map fun record => (roster.setUnderlying id none, record.underlying)

def remove [DecidableEq A] (roster : Roster I A U) (id : Nat) : Roster I A U :=
  match roster.record? id with
  | none => roster
  | some record =>
    { roster with
      records := roster.records.filter (·.1 ≠ id)
      owners := roster.owners.filter (·.1 ≠ record.adapter) }

def enterListener (roster : Roster I A U) (id : Nat) (underlying : U) : Roster I A U :=
  { roster with listeners := roster.listeners ++ [(id, underlying)] }

def listener? (roster : Roster I A U) (id : Nat) : Option U := roster.listeners.lookup id

def removeListener (roster : Roster I A U) (id : Nat) : Roster I A U :=
  { roster with listeners := roster.listeners.filter (·.1 ≠ id) }

/-- The roster with its entries in an order. -/
def arranged (roster : Roster I A U) (order : Order) : Roster I A U :=
  { roster with
    records := order.arrange roster.nextNumber roster.records
    listeners := order.arrange roster.nextNumber roster.listeners }

/-- The registrations behind the facade that the roster holds, implementations first. -/
def underlyings (roster : Roster I A U) : List U :=
  roster.records.filterMap (·.2.underlying) ++ roster.listeners.map (·.2)

end Roster

end RpcRouting
