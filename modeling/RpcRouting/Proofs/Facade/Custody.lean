import RpcRouting.Proofs.Facade.Entries
import RpcRouting.Proofs.Run
import RpcRouting.Session.Basic
/-! Facades over anything at all. What is behind a facade is left open: it hands out registrations as
it likes, and while it is called anybody may use the facades again. What is followed is the rosters,
the work of the facades that is under way, and what passes between the facades and what is behind
them. -/
namespace RpcRouting
open Session (Life)

/-- A piece of a facade's work that is under way. -/
inductive Duty (U : Type)
  /-- An implementation is being registered behind the facade. -/
  | complete (facade id : Nat)
  | completeListener (facade id : Nat)
  | close (underlying : U)
  | release (facade id : Nat)
  /-- The registration behind the facade is being released. -/
  | finishRelease (facade id : Nat)
  | releaseListener (facade id : Nat)
  | releaseListeners (facade : Nat)
  /-- Somebody calls the facade, and has it meanwhile. -/
  | call (facade : Nat)
  /-- Somebody releases a handle, and has the roster meanwhile. -/
  | hold (facade : Nat)
  /-- What a roster has held is closed, as the roster is gone. -/
  | closeAll (underlyings : List U)

/-- What passes between facades, those who use them and what is behind them. -/
inductive Deal (U : Type)
  /-- The registration of an implementation begins. -/
  | began (facade id : Nat)
  | beganListener (facade id : Nat)
  /-- The facade has been given the registration behind it. -/
  | handed (facade id : Nat) (underlying : U)
  | handedListener (facade id : Nat) (underlying : U)
  /-- The handle of an implementation is closed or dropped. -/
  | closed (facade id : Nat)
  | closedListener (facade id : Nat)
  /-- The facade is closed, with all that is registered through it. -/
  | closing (facade : Nat)
  | released (underlying : U)
  /-- A panic cuts the release of a registration short. -/
  | cut (facade id : Nat)
  /-- A panic keeps a facade that is closed from releasing its listeners. -/
  | cutListeners (facade : Nat)
deriving DecidableEq

variable {I A U : Type}

namespace Duty

def facade? : Duty U → Option Nat
  | .complete facade _ | .completeListener facade _ | .release facade _ | .finishRelease facade _
  | .releaseListener facade _ | .releaseListeners facade | .call facade | .hold facade => some facade
  | .close _ | .closeAll _ => none

/-- The facade whose roster a piece of work uses. -/
def roster? : Duty U → Option Nat
  | .call _ | .hold _ => none
  | duty => duty.facade?

/-- What passes when a panic cuts short a piece of work that releases what is registered. -/
def cut? : Duty U → Option (Deal U)
  | .release facade id | .finishRelease facade id | .releaseListener facade id =>
    some (.cut facade id)
  | .releaseListeners facade => some (.cutListeners facade)
  | _ => none

/-- What a piece of work is to close. -/
def underlyings : Duty U → List U
  | .close underlying => [underlying]
  | .closeAll underlyings => underlyings
  | _ => []

end Duty

namespace Deal

def facade? : Deal U → Option Nat
  | .began facade _ | .beganListener facade _ | .handed facade _ _ | .handedListener facade _ _
  | .closed facade _ | .closedListener facade _ | .closing facade | .cut facade _
  | .cutListeners facade => some facade
  | .released _ => none

def handed? : Deal U → Option U
  | .handed _ _ underlying | .handedListener _ _ underlying => some underlying
  | _ => none

def released? : Deal U → Option U
  | .released underlying => some underlying
  | _ => none

end Deal

/-- The registrations that facades have been given, in their order. -/
def handed (deals : List (Deal U)) : List U := deals.filterMap Deal.handed?

def released (deals : List (Deal U)) : List U := deals.filterMap Deal.released?

@[simp]
theorem handed_append (first second : List (Deal U)) :
    handed (first ++ second) = handed first ++ handed second := List.filterMap_append

@[simp]
theorem released_append (first second : List (Deal U)) :
    released (first ++ second) = released first ++ released second := List.filterMap_append

@[simp]
theorem handed_cons (deal : Deal U) (deals : List (Deal U)) :
    handed (deal :: deals) = deal.handed?.toList ++ handed deals := by
  rw [handed, List.filterMap_cons]
  cases deal.handed? <;> rfl

@[simp]
theorem released_cons (deal : Deal U) (deals : List (Deal U)) :
    released (deal :: deals) = deal.released?.toList ++ released deals := by
  rw [released, List.filterMap_cons]
  cases deal.released? <;> rfl

@[simp]
theorem handed_nil : handed ([] : List (Deal U)) = [] := rfl

@[simp]
theorem released_nil : released ([] : List (Deal U)) = [] := rfl

/-- What there is of a facade. -/
structure Holding (I A U : Type) where
  roster : Roster I A U
  life : Life

/-- The registrations behind a facade that its roster holds, as long as there is a roster. -/
def Holding.held (holding : Holding I A U) : List U :=
  if holding.life = .gone then [] else holding.roster.underlyings

variable [DecidableEq A]

/-- What one facade does, or is made to do, with the rest of the work below: what becomes of it,
which work is taken up, what passes, and which work is put on top. A facade closes what it has in an
order of its own. -/
inductive Turn (facade : Nat) (below : List (Duty U)) :
    Holding I A U → List (Duty U) → List (Deal U) → Holding I A U → List (Duty U) → Prop
  -- At any time, by anybody who has the facade or a handle.
  | register {roster : Roster I A U} (implementation : I) (adapter : A) :
      Turn facade below ⟨roster, .alive⟩ [] [.began facade roster.nextNumber]
        ⟨roster.takeNumber.enter roster.nextNumber implementation adapter, .alive⟩
        [.complete facade roster.nextNumber, .call facade]
  | listen {roster : Roster I A U} :
      Turn facade below ⟨roster, .alive⟩ [] [.beganListener facade roster.nextNumber]
        ⟨roster.takeNumber, .alive⟩ [.completeListener facade roster.nextNumber, .call facade]
  | shut {roster : Roster I A U} {numbers : List Nat} (all : numbers.Perm roster.numbers) :
      Turn facade below ⟨roster, .alive⟩ [] [.closing facade] ⟨roster, .alive⟩
        (numbers.map (.release facade) ++ [.releaseListeners facade, .call facade])
  | use {roster : Roster I A U} :
      Turn facade below ⟨roster, .alive⟩ [] [] ⟨roster, .alive⟩ [.call facade]
  | close {holding : Holding I A U} (id : Nat) (there : holding.life ≠ .gone) :
      Turn facade below holding [] [.closed facade id] holding [.release facade id, .hold facade]
  | closeLate {holding : Holding I A U} (id : Nat) (gone : holding.life = .gone) :
      Turn facade below holding [] [.closed facade id] holding []
  | closeListener {holding : Holding I A U} (id : Nat) (there : holding.life ≠ .gone) :
      Turn facade below holding [] [.closedListener facade id] holding
        [.releaseListener facade id, .hold facade]
  | closeListenerLate {holding : Holding I A U} (id : Nat) (gone : holding.life = .gone) :
      Turn facade below holding [] [.closedListener facade id] holding []
  -- Nobody has the facade any longer.
  | leave {roster : Roster I A U} (left : .call facade ∉ below) (held : .hold facade ∈ below) :
      Turn facade below ⟨roster, .alive⟩ [] [] ⟨roster, .leaving⟩ []
  | vanish {roster : Roster I A U} {underlyings : List U} (left : .call facade ∉ below)
      (free : .hold facade ∉ below) (all : underlyings.Perm roster.underlyings) :
      Turn facade below ⟨roster, .alive⟩ [] [] ⟨roster, .gone⟩ [.closeAll underlyings]
  -- What is behind the facade has done as it was asked, or has panicked.
  | attach {id : Nat} {roster : Roster I A U} {record : Record I A U} {life : Life} (underlying : U)
      (entered : roster.record? id = some record) :
      Turn facade below ⟨roster, life⟩ [.complete facade id] [.handed facade id underlying]
        ⟨roster.setUnderlying id (some underlying), life⟩ []
  | orphan {id : Nat} {holding : Holding I A U} (underlying : U)
      (missing : holding.roster.record? id = none) :
      Turn facade below holding [.complete facade id] [.handed facade id underlying] holding
        [.close underlying]
  | enterListener {id : Nat} {roster : Roster I A U} {life : Life} (underlying : U) :
      Turn facade below ⟨roster, life⟩ [.completeListener facade id]
        [.handedListener facade id underlying] ⟨roster.enterListener id underlying, life⟩ []
  | abandon {id : Nat} {holding : Holding I A U} :
      Turn facade below holding [.complete facade id] [] holding []
  | abandonListener {id : Nat} {holding : Holding I A U} :
      Turn facade below holding [.completeListener facade id] [] holding []
  -- Releases.
  | release {id : Nat} {roster : Roster I A U} {record : Record I A U} {life : Life}
      (entered : roster.record? id = some record) :
      Turn facade below ⟨roster, life⟩ [.release facade id] [] ⟨roster.setUnderlying id none, life⟩
        (record.underlying.toList.map .close ++ [.finishRelease facade id])
  | releaseMissing {id : Nat} {holding : Holding I A U}
      (missing : holding.roster.record? id = none) :
      Turn facade below holding [.release facade id] [] holding []
  | finishRelease {id : Nat} {roster : Roster I A U} {life : Life} :
      Turn facade below ⟨roster, life⟩ [.finishRelease facade id] [] ⟨roster.remove id, life⟩ []
  | releaseListener {id : Nat} {roster : Roster I A U} {underlying : U} {life : Life}
      (entered : roster.listener? id = some underlying) :
      Turn facade below ⟨roster, life⟩ [.releaseListener facade id] []
        ⟨roster.removeListener id, life⟩ [.close underlying]
  | releaseListenerMissing {id : Nat} {holding : Holding I A U}
      (missing : holding.roster.listener? id = none) :
      Turn facade below holding [.releaseListener facade id] [] holding []
  | releaseListeners {holding : Holding I A U} {numbers : List Nat}
      (all : numbers.Perm holding.roster.listenerNumbers) :
      Turn facade below holding [.releaseListeners facade] [] holding
        (numbers.map (.releaseListener facade))
  -- Calls and releases of handles are over. The last one lets the roster go, if nobody has the
  -- facade.
  | back {holding : Holding I A U} : Turn facade below holding [.call facade] [] holding []
  | letGo {holding : Holding I A U} (kept : holding.life = .leaving → .hold facade ∈ below) :
      Turn facade below holding [.hold facade] [] holding []
  | letGoLast {roster : Roster I A U} {underlyings : List U} (free : .hold facade ∉ below)
      (all : underlyings.Perm roster.underlyings) :
      Turn facade below ⟨roster, .leaving⟩ [.hold facade] [] ⟨roster, .gone⟩ [.closeAll underlyings]
  | cut {holding : Holding I A U} {duty : Duty U} {deal : Deal U} (releases : duty.cut? = some deal)
      (own : duty.facade? = some facade) : Turn facade below holding [duty] [deal] holding []

/-- Facades, and the work of theirs that is under way. -/
structure Custody (I A U : Type) where
  facades : List (Holding I A U)
  duties : List (Duty U)

namespace Custody

/-- So many facades that have just been made. -/
def fresh (count : Nat) : Custody I A U := ⟨List.replicate count ⟨.empty, .alive⟩, []⟩

inductive Step : Custody I A U → List (Deal U) → Custody I A U → Prop
  | turn {custody : Custody I A U} (facade : Nat) (popped : List (Duty U)) {below : List (Duty U)}
      (there : custody.facades[facade]? = some before) (top : custody.duties = popped ++ below)
      (turn : Turn facade below before popped deals after pushed) :
      Step custody deals ⟨custody.facades.set facade after, pushed ++ below⟩
  | close {facades : List (Holding I A U)} :
      Step ⟨facades, .close underlying :: below⟩ [.released underlying] ⟨facades, below⟩
  | closeNext {facades : List (Holding I A U)} :
      Step ⟨facades, .closeAll (underlying :: rest) :: below⟩ []
        ⟨facades, .close underlying :: .closeAll rest :: below⟩
  | closeLast {facades : List (Holding I A U)} :
      Step ⟨facades, .closeAll [] :: below⟩ [] ⟨facades, below⟩

/-- All registrations that facades hold, or are about to close. -/
def held (custody : Custody I A U) : List U :=
  custody.facades.flatMap Holding.held ++ custody.duties.flatMap Duty.underlyings

/-- Nothing of a facade is under way, and nothing that is to close a registration behind it. -/
def Rests (custody : Custody I A U) (facade : Nat) (underlying : U) : Prop :=
  ∀ duty ∈ custody.duties, duty.facade? ≠ some facade ∧ underlying ∉ duty.underlyings

/-- Nobody has a facade any longer. -/
def Dropped (custody : Custody I A U) (facade : Nat) : Prop :=
  ∃ holding, custody.facades[facade]? = some holding ∧ holding.life ≠ .alive

/-- A facade has no entry for an implementation, or no roster at all. -/
def Lacks (custody : Custody I A U) (facade id : Nat) : Prop :=
  ∀ holding, custody.facades[facade]? = some holding → holding.life ≠ .gone →
    holding.roster.record? id = none

def LacksListener (custody : Custody I A U) (facade id : Nat) : Prop :=
  ∀ holding, custody.facades[facade]? = some holding → holding.life ≠ .gone →
    holding.roster.listener? id = none

end Custody

/-- The handle of an implementation has been closed, or its facade after its registration began. -/
def GivenUp (deals : List (Deal U)) (facade id : Nat) : Prop :=
  [.began facade id, .closed facade id].Sublist deals ∨
    [.began facade id, .closing facade].Sublist deals

/-- The handle of a listener has been closed, or its facade after its registration was complete. -/
def GivenUpListener (deals : List (Deal U)) (facade id : Nat) (underlying : U) : Prop :=
  [.handedListener facade id underlying, .closedListener facade id].Sublist deals ∨
    [.handedListener facade id underlying, .closing facade].Sublist deals

/-- No registration behind a facade is released more often than it has been handed out; and what has
been given up is released exactly once, with no entry left, as soon as nothing of the facade is under
way and unless a panic has cut its release short. -/
structure ReleasesOnce [DecidableEq U] (deals : List (Deal U)) (custody : Custody I A U) : Prop where
  atMostOnce : ∀ underlying, (released deals).count underlying ≤ (handed deals).count underlying
  implementation : ∀ facade id underlying, .handed facade id underlying ∈ deals →
    (handed deals).count underlying = 1 → .cut facade id ∉ deals → custody.Rests facade underlying →
    GivenUp deals facade id ∨ custody.Dropped facade →
    (released deals).count underlying = 1 ∧ custody.Lacks facade id
  listener : ∀ facade id underlying, .handedListener facade id underlying ∈ deals →
    (handed deals).count underlying = 1 → .cut facade id ∉ deals → .cutListeners facade ∉ deals →
    custody.Rests facade underlying →
    GivenUpListener deals facade id underlying ∨ custody.Dropped facade →
    (released deals).count underlying = 1 ∧ custody.LacksListener facade id

end RpcRouting
