/-! A registration is a token for something registered. While it is open it holds what there is to
do when it is released; closing it takes that out, so that it is done at most once. -/
namespace RpcRouting

structure Registration (α ρ : Type) where
  subject : α
  /-- What releases the registration; nothing once it is closed. -/
  release : Option ρ
deriving DecidableEq

namespace Registration

variable {α ρ : Type}

def opened (subject : α) (release : ρ) : Registration α ρ := ⟨subject, some release⟩

def inert (subject : α) : Registration α ρ := ⟨subject, none⟩

def isClosed (registration : Registration α ρ) : Bool := registration.release.isNone

def close (registration : Registration α ρ) : Registration α ρ :=
  { registration with release := none }

def describe (registration : Registration α ρ) : String :=
  "Registration \x7b closed: " ++ (if registration.isClosed then "true" else "false") ++ ", .. \x7d"

end Registration

/-- A registration on trial: how often it has been released. Its release closes it again so many
times while it runs. -/
structure Trial (α : Type) where
  registration : Registration α Nat
  releases : Nat

namespace Trial

variable {α : Type}

/-- Closes the registration, where releases may close it again to a depth of `depth`. -/
def closeWithin (trial : Trial α) : (depth : Nat) → Trial α
  | 0 => trial
  | depth + 1 =>
    match trial.registration.release with
    | none => trial
    | some again =>
      again.repeat (fun running => closeWithin running depth)
        ⟨trial.registration.close, trial.releases + 1⟩

theorem closeWithin_of_closed (trial : Trial α) (h : trial.registration.release = none)
    (depth : Nat) : trial.closeWithin depth = trial := by
  cases depth with
  | zero => rfl
  | succ depth => simp [closeWithin, h]

theorem repeat_closeWithin_of_closed (trial : Trial α) (h : trial.registration.release = none)
    (depth again : Nat) : again.repeat (fun running => closeWithin running depth) trial = trial := by
  induction again with
  | zero => rfl
  | succ again ih => rw [Nat.repeat, ih, closeWithin_of_closed trial h]

/-- Closes the registration. A release finds it closed already, so that no depth is needed. -/
def close (trial : Trial α) : Trial α := trial.closeWithin 2

theorem close_eq_closeWithin (trial : Trial α) (depth : Nat) :
    trial.close = trial.closeWithin (depth + 1) := by
  unfold close
  rw [closeWithin, closeWithin]
  split
  · rfl
  · rw [repeat_closeWithin_of_closed _ rfl, repeat_closeWithin_of_closed _ rfl]

end Trial

end RpcRouting
