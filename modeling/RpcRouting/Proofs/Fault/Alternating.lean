import RpcRouting.Proofs.Fault.Crossing
/-! Faults that cross from one generation to the other again and again, as they do where facades and
routers are stacked. Each crossing takes off a shell, keeps the fault, or puts a shell around it that
the next crossing takes off. So a fault settles after as many crossings as its chain has links: from
then on it goes to and fro between two forms, which never grow and keep the root cause. -/
namespace RpcRouting

def Generation.other : Generation → Generation
  | .legacy => .current
  | .current => .legacy

/-- The innermost link of a fault. -/
def Fault.rootCause : Fault → Link
  | .root link => link
  | .caused _ cause => cause.rootCause

/-- A fault of either generation. -/
structure CarriedFault where
  generation : Generation
  fault : RpcFault generation

namespace CarriedFault

def chain (carried : CarriedFault) : List Link := carried.fault.toFault.chain

def rootCause (carried : CarriedFault) : Link := carried.fault.toFault.rootCause

/-- The fault that it is a bare shell around. -/
def shelled? (carried : CarriedFault) : Option (RpcFault carried.generation.other) :=
  carried.fault.shelled? carried.generation.other

/-- Crosses into the other generation. -/
def cross (carried : CarriedFault) : CarriedFault :=
  ⟨carried.generation.other, carried.fault.cross .default carried.generation.other⟩

end CarriedFault

/-- The fault after `n + 1` crossings, the first of which is into the current generation. -/
def Fault.crossed (fault : Fault) : (n : Nat) → CarriedFault
  | 0 => ⟨.current, fault.cross .default .legacy .current⟩
  | n + 1 => (fault.crossed n).cross

theorem Fault.chain_ne_nil (fault : Fault) : fault.chain ≠ [] := by
  cases fault <;> simp [chain]

/-! One crossing. -/

namespace RpcFault
variable {source target : Generation}

/-- A crossing takes off a shell, keeps a lack of implementations, or puts a shell around. -/
theorem cross_cases (fault : RpcFault source) (target : Generation) :
    (∃ inner, fault.shelled? target = some inner ∧ fault.cross .default target = inner) ∨
    (fault.shelled? target = none ∧
      fault.cross .default target = .notAvailable fault.message fault.cause) ∨
    (fault.shelled? target = none ∧ fault.cross .default target =
      .failed CrossingPolicy.default.message (some fault.toFault)) := by
  cases shell : fault.shelled? target with
  | some inner => exact .inl ⟨inner, rfl, cross_of_shelled? shell⟩
  | none =>
    cases kind : fault.kind with
    | notAvailable =>
      refine .inr (.inl ⟨rfl, ?_⟩)
      simp only [cross, kind]
      rfl
    | failed => exact .inr (.inr ⟨rfl, cross_of_failed kind shell⟩)

/-- What a fault is caused by is all but its first link. -/
theorem length_chain_notAvailable (fault : RpcFault source) :
    (notAvailable fault.message fault.cause : RpcFault target).toFault.chain.length =
      fault.toFault.chain.length := by
  obtain ⟨kind, message, cause⟩ := fault
  cases cause <;> rfl

theorem rootCause_notAvailable (fault : RpcFault source) :
    (notAvailable fault.message fault.cause : RpcFault target).toFault.rootCause.message =
      fault.toFault.rootCause.message := by
  obtain ⟨kind, message, cause⟩ := fault
  cases cause <;> rfl

theorem rootCause_cross (fault : RpcFault source) (target : Generation) :
    (fault.cross .default target).toFault.rootCause.message =
      fault.toFault.rootCause.message := by
  rcases fault.cross_cases target with ⟨inner, shell, same⟩ | ⟨-, same⟩ | ⟨-, same⟩
  · rw [same, cause_of_shelled? shell]
    rfl
  · rw [same, rootCause_notAvailable]
  · rw [same]
    rfl

theorem length_chain_cross_le (fault : RpcFault source) (target : Generation) :
    (fault.cross .default target).toFault.chain.length ≤ fault.toFault.chain.length + 1 := by
  rcases fault.cross_cases target with ⟨inner, shell, same⟩ | ⟨-, same⟩ | ⟨-, same⟩
  · rw [same, length_chain_of_shelled? shell]
    omega
  · rw [same, length_chain_notAvailable]
    omega
  · rw [same]
    exact Nat.le_refl _

end RpcFault

namespace CarriedFault
variable {carried : CarriedFault}

/-- A fault that comes back as it went. -/
def Settled (carried : CarriedFault) : Prop := carried.cross.cross = carried

theorem settled_of_bare (bare : carried.shelled? = none) : carried.Settled := by
  obtain ⟨generation, fault⟩ := carried
  cases generation with
  | legacy =>
    have bare : fault.shelled? .current = none := bare
    exact congrArg (CarriedFault.mk .legacy) (RpcFault.cross_cross_of_bare bare)
  | current =>
    have bare : fault.shelled? .legacy = none := bare
    exact congrArg (CarriedFault.mk .current) (RpcFault.cross_cross_of_bare bare)

theorem Settled.cross (settled : carried.Settled) : carried.cross.Settled :=
  congrArg CarriedFault.cross settled

/-- A fault that is no shell settles by crossing; a shell loses a link. -/
theorem settled_or_shorter (carried : CarriedFault) :
    carried.Settled ∨ carried.cross.chain.length + 1 = carried.chain.length := by
  cases shell : carried.shelled? with
  | none => exact .inl (settled_of_bare shell)
  | some inner =>
    right
    have longer := RpcFault.length_chain_of_shelled? shell
    have bare : carried.cross.chain = inner.toFault.chain :=
      congrArg (·.toFault.chain) (RpcFault.cross_of_shelled? shell)
    rw [bare, chain, longer]

theorem length_cross_le (carried : CarriedFault) :
    carried.cross.chain.length ≤ carried.chain.length + 1 :=
  carried.fault.length_chain_cross_le _

/-- A settled fault whose two forms have few links more than a fault had at first. -/
structure SettledWithin (links : Nat) (carried : CarriedFault) : Prop where
  settled : carried.Settled
  here : carried.chain.length ≤ links + 2
  there : carried.cross.chain.length ≤ links + 2

theorem SettledWithin.cross {links : Nat} (within : carried.SettledWithin links) :
    carried.cross.SettledWithin links where
  settled := within.settled.cross
  here := within.there
  there := by
    have back : carried.cross.cross = carried := within.settled
    rw [back]
    exact within.here

/-- Until a fault settles, each crossing takes a link away. -/
theorem cross_shorter_or_settled {links crossings : Nat}
    (short : carried.chain.length + crossings ≤ links) :
    carried.cross.chain.length + (crossings + 1) ≤ links ∨ carried.cross.SettledWithin links := by
  rcases carried.settled_or_shorter with settled | shorter
  · right
    have longer := carried.length_cross_le
    have back : carried.cross.cross = carried := settled
    refine ⟨settled.cross, ?_, ?_⟩
    · omega
    · rw [back]
      omega
  · left
    omega

end CarriedFault

namespace Fault

/-- What is of neither generation is wrapped, and settles. -/
theorem settledWithin_wrap (fault : Fault) (foreign : fault.as? .legacy = none) :
    (CarriedFault.mk .current (CrossingPolicy.default.wrap .current fault)).SettledWithin
      fault.chain.length where
  settled := CarriedFault.settled_of_bare foreign
  here := Nat.le_succ _
  there := CarriedFault.length_cross_le _

/-- After so many crossings a fault has lost as many links, unless it has settled before. -/
theorem crossed_shorter_or_settled (fault : Fault) (n : Nat) :
    (fault.crossed n).chain.length + n ≤ fault.chain.length ∨
      (fault.crossed n).SettledWithin fault.chain.length := by
  induction n with
  | zero =>
    rw [crossed, cross]
    cases already : fault.as? .current with
    | some own =>
      left
      rw [as?_eq_some.mp already]
      exact Nat.le_refl _
    | none =>
      cases legacy : fault.as? .legacy with
      | some own =>
        have whole : (CarriedFault.mk .legacy own).chain.length + 0 ≤ fault.chain.length := by
          rw [as?_eq_some.mp legacy]
          exact Nat.le_refl _
        refine (CarriedFault.cross_shorter_or_settled whole).imp_left fun shorter => ?_
        exact Nat.le_of_succ_le shorter
      | none => exact .inr (fault.settledWithin_wrap legacy)
  | succ n ih =>
    rcases ih with short | within
    · exact CarriedFault.cross_shorter_or_settled short
    · exact .inr within.cross

theorem rootCause_crossed (fault : Fault) (n : Nat) :
    (fault.crossed n).rootCause.message = fault.rootCause.message := by
  induction n with
  | zero =>
    rw [crossed, cross]
    cases already : fault.as? .current with
    | some own =>
      rw [as?_eq_some.mp already]
      rfl
    | none =>
      cases legacy : fault.as? .legacy with
      | some own =>
        rw [as?_eq_some.mp legacy]
        exact own.rootCause_cross .current
      | none => rfl
  | succ n ih => exact (RpcFault.rootCause_cross _ _).trans ih

/-- However often a fault crosses, its chain never has more than two links more than at first, and
its root cause says what it said. From as many crossings on as the chain has links, and one, two
faults take turns. -/
theorem crossed_takes_turns (fault : Fault) (n : Nat) :
    (fault.crossed n).chain.length ≤ fault.chain.length + 2 ∧
      (fault.crossed n).rootCause.message = fault.rootCause.message ∧
      fault.crossed (fault.chain.length + n + 2) = fault.crossed (fault.chain.length + n) := by
  refine ⟨?_, fault.rootCause_crossed n, ?_⟩
  · rcases fault.crossed_shorter_or_settled n with short | within
    · omega
    · exact within.here
  · rcases fault.crossed_shorter_or_settled (fault.chain.length + n) with short | within
    · have some : 0 < (fault.crossed (fault.chain.length + n)).chain.length :=
        List.length_pos_iff.mpr (chain_ne_nil _)
      omega
    · exact within.settled

example : ((root (.foreign "cable cut")).crossed 1).chain =
    [.rpc .legacy .failed "RPC failed", .rpc .current .failed "RPC failed",
      .foreign "cable cut"] := rfl

end Fault
end RpcRouting
