import Mathlib
import RpcRouting.Registration
/-! A registration in use. Whoever has it closes it, looks at it and drops it in the end, and what it
does on its release may use it again meanwhile. The release is taken out before it is begun, so that
it happens once. -/
namespace RpcRouting

namespace Registration

inductive Use
  | close
  /-- Asks for the subject, and whether the registration is closed. -/
  | look
deriving DecidableEq, Repr

inductive Task
  | use (use : Use)
  | drop
  /-- All that a release has to do has been done. -/
  | finish
deriving DecidableEq, Repr

inductive Happening (α : Type)
  | closing
  | dropping
  | releasing
  | released
  /-- What a look finds: the subject and whether the registration is closed, as long as the
  registration is there. -/
  | seen (found : Option (α × Bool))

variable {α : Type}

namespace Happening

def isClosing : Happening α → Bool
  | closing => true
  | _ => false

def isDropping : Happening α → Bool
  | dropping => true
  | _ => false

def isReleasing : Happening α → Bool
  | releasing => true
  | _ => false

def isReleased : Happening α → Bool
  | released => true
  | _ => false

def isSeen : Happening α → Bool
  | seen _ => true
  | _ => false

end Happening

namespace Task

/-- Whether a task releases a registration that is open. -/
def closes : Task → Bool
  | use .close | drop => true
  | use .look | finish => false

@[simp]
theorem closes_use (made : Use) : (use made).closes = decide (made = .close) := by
  cases made <;> rfl

@[simp]
theorem closes_drop : drop.closes = true := rfl

def isLook : Task → Bool
  | use .look => true
  | _ => false

def isFinish : Task → Bool
  | finish => true
  | _ => false

/-- The tasks of a release that uses the registration so. -/
def ofRelease (uses : List Use) : List Task := uses.map use ++ [finish]

end Task

/-- A registration whose release uses it again. -/
abbrev Reentrant (α : Type) := Registration α (List Use)

/-- What a release that is still to come will do. -/
def ahead (found : Option (Reentrant α)) : List Task :=
  ((found.bind (·.release)).map Task.ofRelease).getD []

/-- What happens while one task after the other is done with a registration, which is missing once it
has been dropped. A release is done before the tasks that are left, and finds the registration as it
has been left for it. -/
def happenings : Option (Reentrant α) → List Task → List (Happening α)
  | _, [] => []
  | found, .finish :: rest => .released :: happenings found rest
  | none, .use .look :: rest => .seen none :: happenings none rest
  | none, .use .close :: rest => happenings none rest
  | none, .drop :: rest => happenings none rest
  | some found, .use .look :: rest =>
    .seen (some (found.subject, found.isClosed)) :: happenings (some found) rest
  | some found, .use .close :: rest =>
    match _held : found.release with
    | none => .closing :: happenings (some found) rest
    | some uses =>
      .closing :: .releasing :: happenings (some found.close) (Task.ofRelease uses ++ rest)
  | some found, .drop :: rest =>
    match _held : found.release with
    | none => .dropping :: happenings none rest
    | some uses => .dropping :: .releasing :: happenings none (Task.ofRelease uses ++ rest)
termination_by found work => work.length + (ahead found).length
decreasing_by
  all_goals simp_all [ahead, close]
  all_goals omega

/-- The tasks of whoever has a registration: it is used, and dropped in the end or not. -/
def tasksOf (uses : List Use) (dropped : Bool) : List Task :=
  uses.map .use ++ if dropped then [Task.drop] else []

def happeningsOf (made : Reentrant α) (uses : List Use) (dropped : Bool) : List (Happening α) :=
  happenings (some made) (tasksOf uses dropped)

/-- Whether something is left to be released. -/
def isOpen (found : Option (Reentrant α)) : Bool := found.any (!·.isClosed)

section
variable {found : Reentrant α}

@[simp]
theorem isOpen_none : isOpen (none : Option (Reentrant α)) = false := rfl

@[simp]
theorem isOpen_close (found : Reentrant α) : isOpen (some found.close) = false := rfl

theorem isOpen_of_release (held : found.release = some uses) : isOpen (some found) = true := by
  simp [isOpen, isClosed, held]

theorem isOpen_of_closed (closed : found.release = none) : isOpen (some found) = false := by
  simp [isOpen, isClosed, closed]

theorem ahead_of_release (held : found.release = some uses) :
    ahead (some found) = Task.ofRelease uses := by
  simp [ahead, held]

end

/-- What happens of a kind is what there is of tasks of a kind, but for the release itself. -/
structure Counts (p : Happening α → Bool) (q : Task → Bool) : Prop where
  closing : p .closing = false
  dropping : p .dropping = false
  seen : ∀ found, p (.seen found) = q (.use .look)
  released : p .released = q .finish
  close : q (.use .close) = false
  drop : q .drop = false

theorem counts_releasing : Counts (@Happening.isReleasing α) fun _ => false :=
  ⟨rfl, rfl, fun _ => rfl, rfl, rfl, rfl⟩

theorem counts_released : Counts (@Happening.isReleased α) Task.isFinish :=
  ⟨rfl, rfl, fun _ => rfl, rfl, rfl, rfl⟩

theorem counts_looks : Counts (@Happening.isSeen α) Task.isLook :=
  ⟨rfl, rfl, fun _ => rfl, rfl, rfl, rfl⟩

/-- What is counted of the happenings is what the tasks do, and what the release does if a task
closes the registration while it is open. The release itself happens once. -/
theorem countP_happenings {p : Happening α → Bool} {q : Task → Bool} (counts : Counts p q)
    (found : Option (Reentrant α)) (work : List Task) :
    (happenings found work).countP p = work.countP q +
      if isOpen found && work.any Task.closes then (p .releasing).toNat + (ahead found).countP q
      else 0 := by
  obtain ⟨closing, dropping, seen, released, close, drop⟩ := counts
  have once (releasing : Bool) : (if releasing = true then 1 else 0) = releasing.toNat := by
    cases releasing <;> rfl
  fun_induction happenings found work with
  | case1 => simp
  | case2 found rest ih =>
    rw [List.countP_cons, ih, List.countP_cons, released, List.any_cons, Task.closes]
    simp only [Bool.false_or]
    omega
  | case3 rest ih =>
    rw [List.countP_cons, ih, List.countP_cons, seen]
    simp
  | case4 rest ih => simpa [close] using ih
  | case5 rest ih => simpa [drop] using ih
  | case6 found rest ih =>
    rw [List.countP_cons, ih, List.countP_cons, seen, List.any_cons, Task.closes]
    simp only [Bool.false_or]
    omega
  | case7 found rest closed ih => simpa [closing, close, isOpen_of_closed closed] using ih
  | case8 found rest uses held ih =>
    -- Once the release has been taken out nothing is left to be released.
    simp only [isOpen_close, Bool.false_and, Bool.false_eq_true, if_false] at ih
    simp only [List.countP_cons, closing, ih, List.countP_append, close, isOpen_of_release held,
      ahead_of_release held, List.any_cons, Task.closes, once]
    simp
    omega
  | case9 found rest closed ih => simpa [dropping, drop, isOpen_of_closed closed] using ih
  | case10 found rest uses held ih =>
    simp only [isOpen_none, Bool.false_and, Bool.false_eq_true, if_false] at ih
    simp only [List.countP_cons, dropping, ih, List.countP_append, drop, isOpen_of_release held,
      ahead_of_release held, List.any_cons, Task.closes, once]
    simp
    omega

/-- What there is to be found after what has happened. -/
def sight (found : Option (Reentrant α)) (before : List (Happening α)) : Option (α × Bool) :=
  if before.any Happening.isDropping then none
  else found.map fun there => (there.subject, there.isClosed || before.any Happening.isClosing)

@[simp]
theorem sight_nil (found : Option (Reentrant α)) :
    sight found [] = found.map fun there => (there.subject, there.isClosed) := by
  simp [sight]

/-- What is neither a close nor a drop makes no difference to what is found. -/
theorem sight_other {event : Happening α} (closing : event.isClosing = false)
    (dropping : event.isDropping = false) (found : Option (Reentrant α))
    (before : List (Happening α)) : sight found (event :: before) = sight found before := by
  simp [sight, closing, dropping]

/-- From a close on the registration is found closed. -/
theorem sight_closing (found : Reentrant α) (before : List (Happening α)) :
    sight (some found) (.closing :: before) = sight (some found.close) before := by
  simp [sight, close, isClosed, Happening.isClosing, Happening.isDropping]

/-- From a drop on nothing is found. -/
theorem sight_dropping (found : Option (Reentrant α)) (before : List (Happening α)) :
    sight found (.dropping :: before) = sight none before := by
  simp [sight, Happening.isDropping]

theorem close_of_closed {found : Reentrant α} (closed : found.release = none) :
    found.close = found := by
  cases found
  cases closed
  rfl

theorem found_of_seen {found : Option (Reentrant α)} {work : List Task}
    {before after : List (Happening α)} {answer : Option (α × Bool)}
    (looked : happenings found work = before ++ .seen answer :: after) :
    answer = sight found before := by
  fun_induction happenings found work generalizing before with
  | case1 => simp at looked
  | case2 found rest ih =>
    obtain ⟨-, first⟩ | ⟨before, rfl, later⟩ := List.cons_eq_append_iff.mp looked
    · cases first
    · rw [sight_other rfl rfl, ih later]
  | case3 rest ih | case6 found rest ih =>
    obtain ⟨rfl, first⟩ | ⟨before, rfl, later⟩ := List.cons_eq_append_iff.mp looked
    · cases first
      simp
    · rw [sight_other rfl rfl, ih later]
  | case4 rest ih | case5 rest ih => exact ih looked
  | case7 found rest closed ih =>
    obtain ⟨-, first⟩ | ⟨before, rfl, later⟩ := List.cons_eq_append_iff.mp looked
    · cases first
    · rw [sight_closing, close_of_closed closed, ih later]
  | case8 found rest uses held ih =>
    obtain ⟨-, first⟩ | ⟨before, rfl, later⟩ := List.cons_eq_append_iff.mp looked
    · cases first
    · obtain ⟨-, second⟩ | ⟨before, rfl, still⟩ := List.cons_eq_append_iff.mp later
      · cases second
      · rw [sight_closing, sight_other rfl rfl, ih still]
  | case9 found rest closed ih =>
    obtain ⟨-, first⟩ | ⟨before, rfl, later⟩ := List.cons_eq_append_iff.mp looked
    · cases first
    · rw [sight_dropping, ih later]
  | case10 found rest uses held ih =>
    obtain ⟨-, first⟩ | ⟨before, rfl, later⟩ := List.cons_eq_append_iff.mp looked
    · cases first
    · obtain ⟨-, second⟩ | ⟨before, rfl, still⟩ := List.cons_eq_append_iff.mp later
      · cases second
      · rw [sight_dropping, sight_other rfl rfl, ih still]

/-! Whole uses. -/

@[simp]
theorem countP_isLook (uses : List Use) :
    uses.countP (Task.isLook ∘ Task.use) = uses.count .look := by
  rw [List.count]
  congr 1
  funext use
  cases use <;> rfl

theorem countP_isLook_ofRelease (acts : List Use) :
    (Task.ofRelease acts).countP Task.isLook = acts.count .look := by
  simp [Task.ofRelease, Task.isLook]

theorem countP_isFinish_ofRelease (acts : List Use) :
    (Task.ofRelease acts).countP Task.isFinish = 1 := by
  simp [Task.ofRelease, Task.isFinish, Function.comp_def]

section
variable (uses : List Use) (dropped : Bool)

theorem countP_isLook_tasksOf :
    (tasksOf uses dropped).countP Task.isLook = uses.count .look := by
  cases dropped <;> simp [tasksOf, Task.isLook]

theorem countP_isFinish_tasksOf : (tasksOf uses dropped).countP Task.isFinish = 0 := by
  cases dropped <;> simp [tasksOf, Task.isFinish, Function.comp_def]

theorem any_closes_tasksOf :
    (tasksOf uses dropped).any Task.closes = decide (.close ∈ uses ∨ dropped = true) := by
  rw [Bool.eq_iff_iff, tasksOf, List.any_append, List.any_map]
  cases dropped <;> simp

variable {p : Happening α → Bool} {q : Task → Bool} (subject : α) (acts : List Use)

theorem countP_opened (counts : Counts p q) :
    (happeningsOf (opened subject acts) uses dropped).countP p = (tasksOf uses dropped).countP q +
      if .close ∈ uses ∨ dropped = true then
        (p .releasing).toNat + (Task.ofRelease acts).countP q
      else 0 := by
  have held : (opened subject acts).release = some acts := rfl
  rw [happeningsOf, countP_happenings counts, isOpen_of_release held, ahead_of_release held,
    any_closes_tasksOf, Bool.true_and]
  simp only [decide_eq_true_eq]

theorem countP_inert (counts : Counts p q) :
    (happeningsOf (inert subject) uses dropped).countP p = (tasksOf uses dropped).countP q := by
  rw [happeningsOf, countP_happenings counts, isOpen_of_closed rfl]
  simp

end

/-- How it goes with a registration: how often it is released, each time to the end, how many looks
there are, and what each finds as long as the registration has not been dropped. -/
structure Goes (subject : α) (times looks : Nat) (closed : List (Happening α) → Bool)
    (happened : List (Happening α)) : Prop where
  releasing : happened.countP Happening.isReleasing = times
  released : happened.countP Happening.isReleased = times
  looks : happened.countP Happening.isSeen = looks
  seen : ∀ before answer after, happened = before ++ .seen answer :: after →
    answer = if before.any Happening.isDropping then none else some (subject, closed before)

/-- A registration is released once if it is closed or dropped while it is open, however often and
from wherever that is done. It shows what has been registered, and that it is closed from the first
close on. One that never was open is not released, and shows that it is closed all along. -/
theorem releases_exactly_once (subject : α) (acts uses : List Use) (dropped : Bool) :
    Goes subject (if .close ∈ uses ∨ dropped then 1 else 0)
      (uses.count .look + if .close ∈ uses ∨ dropped then acts.count .look else 0)
      (·.any Happening.isClosing) (happeningsOf (opened subject acts) uses dropped) ∧
    Goes subject 0 (uses.count .look) (fun _ => true) (happeningsOf (inert subject) uses dropped) := by
  constructor
  · constructor
    · rw [countP_opened uses dropped subject acts counts_releasing]
      simp [Happening.isReleasing]
    · rw [countP_opened uses dropped subject acts counts_released, countP_isFinish_tasksOf,
        countP_isFinish_ofRelease, Nat.zero_add]
      rfl
    · rw [countP_opened uses dropped subject acts counts_looks, countP_isLook_tasksOf,
        countP_isLook_ofRelease]
      simp [Happening.isSeen]
    · intro before answer after looked
      exact found_of_seen looked
  · constructor
    · rw [countP_inert uses dropped subject counts_releasing]
      simp
    · rw [countP_inert uses dropped subject counts_released, countP_isFinish_tasksOf]
    · rw [countP_inert uses dropped subject counts_looks, countP_isLook_tasksOf]
    · intro before answer after looked
      exact found_of_seen looked

/-- A release that closes its registration again and looks at it, of a registration that is closed
twice and dropped. -/
theorem releases_exactly_once_reentrant :
    let happened := happeningsOf (opened "listener" [.look, .close, .close])
      [.look, .close, .look, .close] true
    Goes "listener" 1 3 (·.any Happening.isClosing) happened ∧
      happened = [.seen (some ("listener", false)), .closing, .releasing,
        .seen (some ("listener", true)), .closing, .closing, .released,
        .seen (some ("listener", true)), .closing, .dropping] := by
  constructor
  · exact (releases_exactly_once "listener" [.look, .close, .close]
      [.look, .close, .look, .close] true).1
  · cbv

end Registration

/-! Registrations on trial. -/

namespace Trial
open Registration
variable {α : Type}

/-- The registration of a trial, whose release only closes it again. -/
def inUse (trial : Trial α) : Reentrant α :=
  ⟨trial.registration.subject, trial.registration.release.map fun again => .replicate again .close⟩

theorem repeat_close_of_release {trial : Trial α} (held : trial.registration.release = some again)
    (times : Nat) :
    (times + 1).repeat close trial = ⟨trial.registration.close, trial.releases + 1⟩ := by
  induction times with
  | zero =>
    show trial.close = _
    simp only [close, closeWithin, held]
    exact repeat_closeWithin_of_closed _ rfl 1 again
  | succ times ih =>
    rw [Nat.repeat, ih]
    exact closeWithin_of_closed _ rfl 2

/-- A trial counts how often its registration is released; to drop it is to close it once more. -/
theorem releases_repeat_close (trial : Trial α) (times : Nat) (dropped : Bool) :
    ((times + dropped.toNat).repeat close trial).releases = trial.releases +
      (happeningsOf trial.inUse (.replicate times .close) dropped).countP
        Happening.isReleasing := by
  cases held : trial.registration.release with
  | none =>
    have never : trial.inUse = inert trial.registration.subject := by simp [inUse, inert, held]
    have still : (times + dropped.toNat).repeat close trial = trial :=
      repeat_closeWithin_of_closed trial held 2 _
    rw [still, never, countP_inert _ _ _ counts_releasing]
    simp
  | some again =>
    have made : trial.inUse = opened trial.registration.subject (.replicate again .close) := by
      simp [inUse, opened, held]
    have touched : .close ∈ List.replicate times Use.close ∨ dropped = true ↔
        times + dropped.toNat ≠ 0 := by
      cases dropped <;> simp
    rw [made, countP_opened _ _ _ _ counts_releasing]
    cases closes : times + dropped.toNat with
    | zero =>
      rw [if_neg (by simpa [closes] using touched)]
      simp [Nat.repeat]
    | succ more =>
      rw [if_pos (by simpa [closes] using touched), repeat_close_of_release held]
      simp [Happening.isReleasing]

end Trial
end RpcRouting
