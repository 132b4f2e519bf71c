import RpcRouting.Fault.Crossing
/-! Faults that cross into the other generation and back. A fault comes back as it went, unless it
is a failure directly around a fault of the generation it crosses into: then the shell is taken off
on the way, and what comes back is made of the fault within. -/
namespace RpcRouting

theorem Fault.ofLink_link (fault : Fault) : ofLink fault.link fault.cause? = fault := by
  cases fault <;> rfl

theorem Fault.as?_eq_some {g : Generation} {fault : Fault} {own : RpcFault g} :
    fault.as? g = some own ↔ fault = own.toFault := by
  constructor
  · intro seen
    unfold as? at seen
    split at seen
    · next found kind message outermost =>
      split at seen
      · next same =>
        obtain rfl := Option.some.inj seen
        calc fault = ofLink fault.link fault.cause? := fault.ofLink_link.symm
          _ = ofLink (.rpc g kind message) fault.cause? := by rw [outermost, same]
      · contradiction
    · contradiction
  · rintro rfl
    exact as?_toFault own

namespace RpcFault
variable {source target : Generation}

/-- The fault of another generation that a failure is a bare shell around. -/
def shelled? (fault : RpcFault source) (target : Generation) : Option (RpcFault target) :=
  match fault.kind with
  | .notAvailable => none
  | .failed => fault.cause.bind (·.as? target)

/-- Whether a fault that crosses into a generation comes back as it went. A shell is taken off on
the way, so it has to be one that is put on again on the way back. -/
def ComesBackFrom (target : Generation) (fault : RpcFault source) : Prop :=
  ∀ inner, fault.shelled? target = some inner →
    fault.message = CrossingPolicy.default.message ∧ inner.kind = .failed ∧
      inner.shelled? source = none

theorem as?_toFault_of_ne (different : source ≠ target) (fault : RpcFault source) :
    fault.toFault.as? target = none := by
  obtain ⟨kind, message, cause⟩ := fault
  cases cause <;> simp [toFault, link, Fault.ofLink, Fault.as?, Fault.link, different]

theorem cause_of_shelled? {fault : RpcFault source} {inner : RpcFault target}
    (shell : fault.shelled? target = some inner) :
    fault = .failed fault.message (some inner.toFault) := by
  obtain ⟨kind, message, cause⟩ := fault
  cases kind with
  | notAvailable => simp [shelled?] at shell
  | failed =>
    obtain ⟨direct, rfl, seen⟩ := Option.bind_eq_some_iff.mp shell
    rw [Fault.as?_eq_some.mp seen]
    rfl

/-- A fault has one link more than what it is directly around. -/
theorem length_chain_of_shelled? {fault : RpcFault source} {inner : RpcFault target}
    (shell : fault.shelled? target = some inner) :
    fault.toFault.chain.length = inner.toFault.chain.length + 1 := by
  rw [cause_of_shelled? shell]
  rfl

/-! The crossing by the default policy, case by case. -/

theorem cross_of_shelled? {fault : RpcFault source} {inner : RpcFault target}
    (shell : fault.shelled? target = some inner) : fault.cross .default target = inner := by
  rw [cause_of_shelled? shell]
  simp [cross, failed, CrossingPolicy.default]

theorem cross_of_failed {fault : RpcFault source} (kind : fault.kind = .failed)
    (bare : fault.shelled? target = none) :
    fault.cross .default target = .failed CrossingPolicy.default.message (some fault.toFault) := by
  simp only [shelled?, kind] at bare
  simp only [cross, kind, bare]
  rfl

theorem cross_toFault (different : source ≠ target) (fault : RpcFault source) :
    fault.toFault.cross .default source target = fault.cross .default target := by
  rw [Fault.cross, as?_toFault_of_ne different]
  simp only [Fault.as?_toFault]

/-- A fault that is no shell comes back as it went. -/
theorem cross_cross_of_bare {fault : RpcFault source} (bare : fault.shelled? target = none) :
    (fault.cross .default target).cross .default source = fault := by
  obtain ⟨kind, message, cause⟩ := fault
  cases kind with
  | notAvailable => rfl
  | failed =>
    rw [cross_of_failed rfl bare]
    apply cross_of_shelled?
    exact Fault.as?_toFault _

/-- What crosses back is the fault itself just where the shell taken off is put on again. -/
theorem cross_cross_eq_iff (fault : RpcFault source) :
    (fault.cross .default target).cross .default source = fault ↔
      fault.ComesBackFrom target := by
  cases shell : fault.shelled? target with
  | none => simp [ComesBackFrom, shell, cross_cross_of_bare shell]
  | some inner =>
    have whole := cause_of_shelled? shell
    simp only [ComesBackFrom, shell, Option.some.injEq, forall_eq', cross_of_shelled? shell]
    constructor
    · intro back
      have failed : fault.kind = .failed := congrArg RpcFault.kind whole
      cases kind : inner.kind with
      | notAvailable =>
        -- A lack of implementations stays one on the way back.
        have : (inner.cross .default source).kind = .notAvailable := by simp [cross, kind,
          CrossingPolicy.default, notAvailable]
        rw [back, failed] at this
        contradiction
      | failed =>
        cases within : inner.shelled? source with
        | some innermost =>
          -- The fault would be within itself.
          rw [cross_of_shelled? within] at back
          have outer := length_chain_of_shelled? shell
          have deeper := length_chain_of_shelled? within
          rw [back] at deeper
          omega
        | none =>
          rw [cross_of_failed kind within] at back
          exact ⟨(congrArg RpcFault.message back).symm, rfl, rfl⟩
    · rintro ⟨message, kind, within⟩
      rw [cross_of_failed kind within, whole, ← message]

end RpcFault
end RpcRouting
