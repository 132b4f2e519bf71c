import RpcRouting.Proofs.Router.Numberless
/-! What is open of the registrations with a router, by names and in the order in which they were
made. A ledger has no numbers in it; so to leave registrations out of what is done is to leave them
out of the ledger, and the order in which registrations are closed makes no difference to it. -/
namespace RpcRouting
open Current (Identifier)

/-- What may be done to a router whose registrations go by names. -/
inductive Doing (N I L : Type)
  | register (name : N) (implementation : I) (cost : Nat) (rpcs : List Identifier)
  | listen (name : N) (listener : L)
  | close (name : N)
  /-- Something is closed that is not there. -/
  | miss
  | updateSchema (schema : Schema)

/-- Something that is done, with how listeners accept implementations then. -/
structure Errand (N I L : Type) where
  accepts : Acceptance I L
  doing : Doing N I L

/-- How listeners accept implementations for good, and which of them do. -/
structure Custom (N I L : Type) where
  lasts : N → Prop
  accepts : Acceptance I L

/-- What is open, and the schema that is in force. -/
structure Ledger (N I L : Type) where
  /-- Implementations without their numbers. -/
  offers : List (N × Offer I)
  listeners : List (N × L)
  schema : Schema

variable {N I L : Type}

/-- The registration that something is done about. -/
def Doing.name? : Doing N I L → Option N
  | .register name _ _ _ | .listen name _ | .close name => some name
  | .miss | .updateSchema _ => none

/-- The name by which a new registration goes. -/
def Doing.opens? : Doing N I L → Option N
  | .register name _ _ _ | .listen name _ => some name
  | .close _ | .miss | .updateSchema _ => none

/-- Registrations that are closed one after the other. -/
def closings (accepts : Acceptance I L) (names : List N) : List (Errand N I L) :=
  names.map fun name => ⟨accepts, .close name⟩

/-- Listeners accept the implementations that are registered as they do for good, if they do. -/
def Ledger.Agrees (custom : Custom N I L) (now : Acceptance I L) (ledger : Ledger N I L) : Prop :=
  ∀ listener ∈ ledger.listeners, custom.lasts listener.1 → ∀ offer ∈ ledger.offers,
    now listener.2 offer.2.implementation = custom.accepts listener.2 offer.2.implementation

/-- One ledger has no entries but those of another. -/
structure Ledger.Within (ledger other : Ledger N I L) : Prop where
  offers : ledger.offers.Sublist other.offers
  listeners : ledger.listeners.Sublist other.listeners

namespace Ledger

def ofSettings (settings : RouterSettings) : Ledger N I L := ⟨[], [], settings.schema⟩

def names (ledger : Ledger N I L) : List N :=
  ledger.offers.map (·.1) ++ ledger.listeners.map (·.1)

theorem Agrees.within {custom : Custom N I L} {now : Acceptance I L} {ledger other : Ledger N I L}
    (agrees : other.Agrees custom now) (within : ledger.Within other) :
    ledger.Agrees custom now := fun listener member lasts offer inside =>
  agrees listener (within.listeners.subset member) lasts offer (within.offers.subset inside)

end Ledger

variable [DecidableEq N]

/-- Whether something is about none of the registrations that are left out. -/
def Errand.isBeside (out : Finset N) (errand : Errand N I L) : Bool :=
  errand.doing.name?.all (· ∉ out)

namespace Ledger

def take (ledger : Ledger N I L) (errand : Errand N I L) : Ledger N I L :=
  match errand.doing with
  | .register name implementation cost rpcs =>
    { ledger with offers := ledger.offers ++ [(name, ⟨0, cost, implementation, rpcs⟩)] }
  | .listen name listener => { ledger with listeners := ledger.listeners ++ [(name, listener)] }
  | .close name => { ledger with
    offers := ledger.offers.filter (·.1 ≠ name)
    listeners := ledger.listeners.filter (·.1 ≠ name) }
  | .miss => ledger
  | .updateSchema schema => { ledger with schema := schema }

def after (ledger : Ledger N I L) (errands : List (Errand N I L)) : Ledger N I L :=
  errands.foldl take ledger

def without (out : Finset N) (ledger : Ledger N I L) : Ledger N I L :=
  { ledger with
    offers := ledger.offers.filter (·.1 ∉ out)
    listeners := ledger.listeners.filter (·.1 ∉ out) }

/-- Something is done that opens no registration by the name of another, while listeners accept as
they do for good. -/
structure Fits (custom : Custom N I L) (ledger : Ledger N I L) (errand : Errand N I L) : Prop where
  fresh : ∀ name, errand.doing.opens? = some name → name ∉ ledger.names
  before : ledger.Agrees custom errand.accepts
  after : (ledger.take errand).Agrees custom errand.accepts

def FitAll (custom : Custom N I L) (ledger : Ledger N I L) : List (Errand N I L) → Prop
  | [] => True
  | errand :: later => ledger.Fits custom errand ∧ (ledger.take errand).FitAll custom later

variable {custom : Custom N I L} {now : Acceptance I L} {ledger other : Ledger N I L}
  {errand : Errand N I L} {errands : List (Errand N I L)} {out : Finset N} {name entry : N}

/-! What is entered. -/

theorem mem_names_take_register {implementation : I} {cost : Nat} {rpcs : List Identifier} :
    entry ∈ (ledger.take ⟨now, .register name implementation cost rpcs⟩).names ↔
      entry = name ∨ entry ∈ ledger.names := by
  simp only [names, take, List.map_append, List.map_singleton, List.mem_append,
    List.mem_singleton]
  tauto

theorem mem_names_take_listen {listener : L} :
    entry ∈ (ledger.take ⟨now, .listen name listener⟩).names ↔
      entry = name ∨ entry ∈ ledger.names := by
  simp only [names, take, List.map_append, List.map_singleton, List.mem_append,
    List.mem_singleton]
  tauto

theorem mem_names_take_close :
    entry ∈ (ledger.take ⟨now, .close name⟩).names ↔ entry ∈ ledger.names ∧ entry ≠ name := by
  have left {A : Type} (entries : List (N × A)) :
      entry ∈ (entries.filter (·.1 ≠ name)).map (·.1) ↔
        entry ∈ entries.map (·.1) ∧ entry ≠ name := by
    simp only [List.mem_map, List.mem_filter, decide_eq_true_eq]
    constructor
    · rintro ⟨pair, ⟨inside, other⟩, rfl⟩
      exact ⟨⟨pair, inside, rfl⟩, other⟩
    · rintro ⟨⟨pair, inside, rfl⟩, other⟩
      exact ⟨pair, ⟨inside, other⟩, rfl⟩
  simp only [names, take, List.mem_append, left]
  tauto

/-! What is left out, and what is closed. -/

theorem after_append (ledger : Ledger N I L) (first second : List (Errand N I L)) :
    ledger.after (first ++ second) = (ledger.after first).after second :=
  List.foldl_append

/-- What is done is left out with the registrations that it is about. -/
theorem take_without (ledger : Ledger N I L) (errand : Errand N I L) (out : Finset N) :
    (ledger.take errand).without out =
      if errand.isBeside out then (ledger.without out).take errand else ledger.without out := by
  obtain ⟨now, doing⟩ := errand
  cases doing with
  | register name implementation cost rpcs =>
    by_cases inside : name ∈ out <;> simp [take, without, Errand.isBeside, Doing.name?, inside]
  | listen name listener =>
    by_cases inside : name ∈ out <;> simp [take, without, Errand.isBeside, Doing.name?, inside]
  | close name =>
    by_cases inside : name ∈ out
    · have gone (entry : N) : (!decide (entry ∈ out) && !decide (entry = name)) =
          !decide (entry ∈ out) := by
        by_cases same : entry = name <;> simp [same, inside]
      simp [take, without, Errand.isBeside, Doing.name?, inside, List.filter_filter, gone]
    · simp [take, without, Errand.isBeside, Doing.name?, inside, List.filter_filter, Bool.and_comm]
  | miss | updateSchema => simp [take, without, Errand.isBeside, Doing.name?]

theorem after_without (ledger : Ledger N I L) (errands : List (Errand N I L)) (out : Finset N) :
    (ledger.without out).after (errands.filter (·.isBeside out)) =
      (ledger.after errands).without out := by
  induction errands generalizing ledger with
  | nil => rfl
  | cons errand later ih =>
    have first := ledger.take_without errand out
    rw [List.filter_cons]
    split
    · rename_i beside
      rw [if_pos beside] at first
      exact (congrArg (Ledger.after · _) first.symm).trans (ih _)
    · rename_i about
      rw [if_neg about] at first
      exact (congrArg (Ledger.after · _) first.symm).trans (ih _)

/-- Of what is closed nothing is left to be left out. -/
theorem without_of_closed (closed : ∀ name ∈ out, name ∉ ledger.names) :
    ledger.without out = ledger := by
  have kept {A : Type} {entries : List (N × A)}
      (inside : ∀ entry ∈ entries, entry.1 ∈ ledger.names) :
      entries.filter (·.1 ∉ out) = entries :=
    List.filter_eq_self.mpr fun entry member =>
      decide_eq_true fun gone => closed _ gone (inside entry member)
  unfold without
  rw [kept fun entry member => List.mem_append_left _ (List.mem_map_of_mem member),
    kept fun entry member => List.mem_append_right _ (List.mem_map_of_mem member)]

/-- Closing registrations one after the other leaves what is left without them. -/
theorem after_closings (ledger : Ledger N I L) (now : Acceptance I L) (names : List N) :
    ledger.after (closings now names) = ledger.without names.toFinset := by
  induction names generalizing ledger with
  | nil => simp [closings, after, without]
  | cons name later ih =>
    refine (ih (ledger.take ⟨now, .close name⟩)).trans ?_
    simp [take, without, List.filter_filter, not_or, Bool.and_comm]

/-- What is not entered may be closed without a difference. -/
theorem take_close_of_not_mem (ledger : Ledger N I L) (now : Acceptance I L)
    (absent : name ∉ ledger.names) : ledger.take ⟨now, .close name⟩ = ledger :=
  (ledger.after_closings now [name]).trans (without_of_closed (by simpa using absent))

/-! What fits a ledger. -/

theorem fitAll_append {first second : List (Errand N I L)} :
    ledger.FitAll custom (first ++ second) ↔
      ledger.FitAll custom first ∧ (ledger.after first).FitAll custom second := by
  induction first generalizing ledger with
  | nil => exact (iff_of_eq (true_and _)).symm
  | cons errand later ih => exact (and_congr_right fun _ => ih).trans and_assoc.symm

theorem within_without (ledger : Ledger N I L) (out : Finset N) :
    (ledger.without out).Within ledger :=
  ⟨List.filter_sublist, List.filter_sublist⟩

theorem Within.take (within : ledger.Within other) (errand : Errand N I L) :
    (ledger.take errand).Within (other.take errand) := by
  obtain ⟨now, doing⟩ := errand
  cases doing with
  | register name implementation cost rpcs =>
    exact ⟨within.offers.append_right _, within.listeners⟩
  | listen name listener => exact ⟨within.offers, within.listeners.append_right _⟩
  | close name => exact ⟨within.offers.filter _, within.listeners.filter _⟩
  | miss | updateSchema => exact ⟨within.offers, within.listeners⟩

theorem Fits.within (fits : other.Fits custom errand) (within : ledger.Within other) :
    ledger.Fits custom errand where
  fresh name opens member := by
    refine fits.fresh name opens ?_
    rcases List.mem_append.mp member with offer | listener
    · exact List.mem_append_left _ ((within.offers.map _).subset offer)
    · exact List.mem_append_right _ ((within.listeners.map _).subset listener)
  before := fits.before.within within
  after := fits.after.within (within.take errand)

theorem FitAll.without (fit : ledger.FitAll custom errands) (out : Finset N) :
    (ledger.without out).FitAll custom (errands.filter (·.isBeside out)) := by
  induction errands generalizing ledger with
  | nil => trivial
  | cons errand later ih =>
    obtain ⟨fits, rest⟩ := fit
    have later := ih rest
    rw [take_without] at later
    rw [List.filter_cons]
    split
    · rename_i beside
      rw [if_pos beside] at later
      exact ⟨fits.within (ledger.within_without out), later⟩
    · rename_i about
      rwa [if_neg about] at later

/-- Where listeners accept as they do for good, registrations may be closed in any order. -/
theorem fitAll_closings (agrees : ledger.Agrees custom now) (names : List N) :
    ledger.FitAll custom (closings now names) := by
  induction names generalizing ledger with
  | nil => trivial
  | cons name later ih =>
    have within : (ledger.take ⟨now, .close name⟩).Within ledger :=
      ⟨List.filter_sublist, List.filter_sublist⟩
    have closed := agrees.within within
    exact ⟨⟨nofun, agrees, closed⟩, ih closed⟩

theorem FitAll.reorder {earlier later : List (Errand N I L)} {names order : List N}
    (fit : ledger.FitAll custom (earlier ++ closings now names ++ later))
    (ordered : order.Perm names) :
    ledger.FitAll custom (earlier ++ closings now order ++ later) ∧
      ledger.after (earlier ++ closings now order ++ later) =
        ledger.after (earlier ++ closings now names ++ later) := by
  have same : (ledger.after earlier).after (closings now order) =
      (ledger.after earlier).after (closings now names) := by
    rw [after_closings, after_closings, List.toFinset_eq_of_perm _ _ ordered]
  obtain ⟨begun, rest⟩ := fitAll_append.mp fit
  obtain ⟨first, closes⟩ := fitAll_append.mp begun
  have closed : (ledger.after earlier).FitAll custom (closings now order) := by
    cases names with
    | nil =>
      rw [ordered.eq_nil]
      trivial
    | cons name others => exact fitAll_closings closes.1.before order
  have whole : ledger.after (earlier ++ closings now order) =
      ledger.after (earlier ++ closings now names) := by
    rw [after_append, same, after_append]
  refine ⟨fitAll_append.mpr ⟨fitAll_append.mpr ⟨first, closed⟩, whole ▸ rest⟩, ?_⟩
  rw [after_append, whole, ← after_append]

end Ledger
end RpcRouting
