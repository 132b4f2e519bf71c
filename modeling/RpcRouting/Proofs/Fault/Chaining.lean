import RpcRouting.Proofs.Fault.Alternating
/-! What a crossing makes of the chain of a fault, under any policy and in either direction. The
outermost link, and where it is a failure the link directly below it, tell what becomes of it; what
stands below stays as it is. -/
namespace RpcRouting

/-- The generation of whose contract a link is, if it is of one. -/
def Link.generation? : Link → Option Generation
  | .rpc generation _ _ => some generation
  | .path _ | .foreign _ => none

theorem Generation.other_ne (generation : Generation) : generation.other ≠ generation := by
  cases generation <;> decide

namespace CrossingPolicy

/-- A lack of implementations that stays one in the target generation. -/
def Renews (policy : CrossingPolicy) (target : Generation) (fault : Fault) : Prop :=
  policy.keepNotAvailable = true ∧
    ∃ message, fault.link = .rpc target.other .notAvailable message

/-- A failure that is taken off, because a fault of the target generation stands directly below. -/
def Unwraps (policy : CrossingPolicy) (target : Generation) (fault : Fault) : Prop :=
  policy.unwrapTarget = true ∧ (∃ message, fault.link = .rpc target.other .failed message) ∧
    ∃ direct ∈ fault.chain.tail.head?, direct.generation? = some target

/-- The chain that a fault has in the target generation. -/
structure Yields (policy : CrossingPolicy) (target : Generation) (fault : Fault)
    (chain : List Link) : Prop where
  passed : fault.link.generation? = some target → chain = fault.chain
  renewed : policy.Renews target fault →
    chain = .rpc target .notAvailable fault.link.message :: fault.chain.tail
  unwrapped : policy.Unwraps target fault → chain = fault.chain.tail
  wrapped : fault.link.generation? ≠ some target → ¬policy.Renews target fault →
    ¬policy.Unwraps target fault → chain = .rpc target .failed policy.message :: fault.chain

/-- Whatever the rule, what stands below the outermost link stays as it is. -/
theorem Yields.tail_suffix {policy : CrossingPolicy} {target : Generation} {fault : Fault}
    {chain : List Link} (yields : policy.Yields target fault chain) : fault.chain.tail <:+ chain := by
  by_cases inside : fault.link.generation? = some target
  · rw [yields.passed inside]
    exact List.tail_suffix _
  · by_cases renews : policy.Renews target fault
    · rw [yields.renewed renews]
      exact List.suffix_cons ..
    · by_cases unwraps : policy.Unwraps target fault
      · exact yields.unwrapped unwraps ▸ List.suffix_rfl
      · rw [yields.wrapped inside renews unwraps]
        exact (List.tail_suffix _).trans (List.suffix_cons ..)

/-- The two rules are about faults of the generation that is left. -/
theorem bare_of_generation?_ne (policy : CrossingPolicy) {target : Generation} {fault : Fault}
    (foreign : fault.link.generation? ≠ some target.other) :
    ¬policy.Renews target fault ∧ ¬policy.Unwraps target fault := by
  constructor
  · rintro ⟨-, message, own⟩
    rw [own] at foreign
    exact foreign rfl
  · rintro ⟨-, ⟨message, own⟩, -⟩
    rw [own] at foreign
    exact foreign rfl

theorem bare_of_generation? (policy : CrossingPolicy) {target : Generation} {fault : Fault}
    (inside : fault.link.generation? = some target) :
    ¬policy.Renews target fault ∧ ¬policy.Unwraps target fault := by
  refine policy.bare_of_generation?_ne ?_
  rw [inside]
  exact fun same => target.other_ne (Option.some.inj same).symm

end CrossingPolicy

namespace Fault

theorem as?_eq_none_iff {g : Generation} {fault : Fault} :
    fault.as? g = none ↔ fault.link.generation? ≠ some g := by
  unfold as?
  cases fault.link with
  | rpc found kind message => simp [Link.generation?]
  | path | foreign => simp [Link.generation?]

theorem head?_chain (fault : Fault) : fault.chain.head? = some fault.link := by
  cases fault <;> rfl

end Fault

namespace RpcFault
variable {source target : Generation}

theorem link_toFault (fault : RpcFault source) : fault.toFault.link = fault.link := by
  obtain ⟨kind, message, cause⟩ := fault
  cases cause <;> rfl

/-- Below the outermost link stands the chain of the cause. -/
theorem chain_toFault (fault : RpcFault source) :
    fault.toFault.chain = fault.link :: (fault.cause.map Fault.chain).getD [] := by
  obtain ⟨kind, message, cause⟩ := fault
  cases cause <;> rfl

theorem isNotAvailable_iff {fault : RpcFault source} : fault.isNotAvailable = true ↔
    ∃ message, fault.toFault.chain.head? = some (.rpc source .notAvailable message) := by
  rw [chain_toFault, List.head?_cons]
  simp [isNotAvailable, link]

/-! The rules, for a fault of the generation that is left. -/

theorem renews_toFault {policy : CrossingPolicy} {fault : RpcFault target.other} :
    policy.Renews target fault.toFault ↔
      policy.keepNotAvailable = true ∧ fault.kind = .notAvailable := by
  simp [CrossingPolicy.Renews, link_toFault, link]

theorem unwraps_toFault {policy : CrossingPolicy} {fault : RpcFault target.other} :
    policy.Unwraps target fault.toFault ↔
      policy.unwrapTarget = true ∧ ∃ inner, fault.shelled? target = some inner := by
  obtain ⟨kind, message, cause⟩ := fault
  rw [CrossingPolicy.Unwraps, link_toFault, chain_toFault, List.tail_cons]
  cases kind with
  | notAvailable => simp [link, shelled?]
  | failed =>
    cases cause with
    | none => simp [shelled?]
    | some cause =>
      have seen : (∃ inner, cause.as? target = some inner) ↔
          cause.link.generation? = some target := by
        rw [← Option.ne_none_iff_exists', ne_eq, Fault.as?_eq_none_iff, Decidable.not_not]
      simp [link, shelled?, Fault.head?_chain, seen]

/-- By what rule a fault crosses. -/
theorem cross_by_rule (policy : CrossingPolicy) (fault : RpcFault target.other) :
    (policy.Renews target fault.toFault ∧
      fault.cross policy target = .notAvailable fault.message fault.cause) ∨
    (∃ inner, policy.Unwraps target fault.toFault ∧ fault.shelled? target = some inner ∧
      fault.cross policy target = inner) ∨
    (¬policy.Renews target fault.toFault ∧ ¬policy.Unwraps target fault.toFault ∧
      fault.cross policy target = policy.wrap target fault.toFault) := by
  rw [renews_toFault, unwraps_toFault]
  cases kind : fault.kind with
  | notAvailable =>
    have bare : fault.shelled? target = none := by simp [shelled?, kind]
    cases keep : policy.keepNotAvailable <;> simp [cross, kind, keep, bare]
  | failed =>
    have same : fault.shelled? target = fault.cause.bind (·.as? target) := by simp [shelled?, kind]
    cases shell : fault.cause.bind (·.as? target) with
    | none => simp [cross, kind, same, shell]
    | some inner =>
      cases unwrap : policy.unwrapTarget <;> simp [cross, kind, same, shell, unwrap]

theorem yields_cross (policy : CrossingPolicy) (fault : RpcFault target.other) :
    policy.Yields target fault.toFault (fault.cross policy target).toFault.chain := by
  have outer : fault.toFault.link.generation? ≠ some target := by
    rw [link_toFault]
    simpa [link, Link.generation?] using target.other_ne
  have apart : policy.Renews target fault.toFault → ¬policy.Unwraps target fault.toFault := by
    rw [renews_toFault, unwraps_toFault]
    rintro ⟨-, kind⟩ ⟨-, inner, shell⟩
    simp [shelled?, kind] at shell
  rcases fault.cross_by_rule policy with ⟨renews, same⟩ | ⟨inner, unwraps, shell, same⟩ |
    ⟨bare, closed, same⟩
  · refine ⟨fun inner => absurd inner outer, fun _ => ?_, fun unwraps => absurd unwraps (apart renews),
      fun _ bare => absurd renews bare⟩
    rw [same, link_toFault, chain_toFault, chain_toFault]
    rfl
  · refine ⟨fun inner => absurd inner outer, fun renews => absurd unwraps (apart renews), fun _ => ?_,
      fun _ _ closed => absurd unwraps closed⟩
    rw [same, cause_of_shelled? shell]
    rfl
  · refine ⟨fun inner => absurd inner outer, fun renews => absurd renews bare,
      fun unwraps => absurd unwraps closed, fun _ _ _ => ?_⟩
    rw [same]
    rfl

/-! Taking a shell off. -/

/-- Crosses as `cross` does, but looks twice at what a failure stands around: first whether it is of
the target generation, then to take it out. What is answered when the second look does not find what
the first one has found is up to `lost`. -/
def crossLooking (lost : String → Option Fault → RpcFault target) (fault : RpcFault source)
    (policy : CrossingPolicy) : RpcFault target :=
  match fault.kind with
  | .notAvailable =>
    if policy.keepNotAvailable then .notAvailable fault.message fault.cause
    else policy.wrap target fault.toFault
  | .failed =>
    if policy.unwrapTarget ∧ fault.cause.any fun cause => (cause.as? target).isSome then
      match fault.cause with
      | some cause =>
        match cause.as? target with
        | some inner => inner
        | none => lost fault.message (some cause)
      | none => lost fault.message none
    else policy.wrap target fault.toFault

/-- The second look finds what the first one has found. -/
theorem crossLooking_eq_cross (lost : String → Option Fault → RpcFault target)
    (fault : RpcFault source) (policy : CrossingPolicy) :
    fault.crossLooking lost policy = fault.cross policy target := by
  obtain ⟨kind, message, cause⟩ := fault
  cases kind with
  | notAvailable => rfl
  | failed =>
    cases cause with
    | none => simp [crossLooking, cross]
    | some cause => cases inner : cause.as? target <;> simp [crossLooking, cross, inner]

end RpcFault

namespace Fault
variable {policy : CrossingPolicy} {target : Generation}

/-- Whatever crosses, its chain in the target generation is told by the rules. -/
theorem yields_cross (policy : CrossingPolicy) (target : Generation) (fault : Fault) :
    policy.Yields target fault (fault.cross policy target.other target).toFault.chain := by
  unfold cross
  cases already : fault.as? target with
  | some own =>
    obtain rfl := as?_eq_some.mp already
    have inside : own.toFault.link.generation? = some target := by
      rw [RpcFault.link_toFault]
      rfl
    obtain ⟨old, whole⟩ := policy.bare_of_generation? inside
    exact ⟨fun _ => rfl, fun renews => absurd renews old, fun unwraps => absurd unwraps whole,
      fun other => absurd inside other⟩
  | none =>
    cases left : fault.as? target.other with
    | some own =>
      obtain rfl := as?_eq_some.mp left
      exact own.yields_cross policy
    | none =>
      obtain ⟨old, whole⟩ := policy.bare_of_generation?_ne (as?_eq_none_iff.mp left)
      exact ⟨fun inside => absurd inside (as?_eq_none_iff.mp already),
        fun renews => absurd renews old, fun unwraps => absurd unwraps whole, fun _ _ _ => rfl⟩

/-- The outermost link of what has crossed is a lack of implementations in the cases in which the
rules put or leave one there. -/
theorem isNotAvailable_cross (policy : CrossingPolicy) (target : Generation) (fault : Fault) :
    (fault.cross policy target.other target).isNotAvailable = true ↔
      (∃ message, fault.link = .rpc target .notAvailable message) ∨
      policy.Renews target fault ∨
      policy.Unwraps target fault ∧
        ∃ message, fault.chain.tail.head? = some (.rpc target .notAvailable message) := by
  obtain ⟨passed, renewed, unwrapped, wrapped⟩ := yields_cross policy target fault
  rw [RpcFault.isNotAvailable_iff]
  have other {message : String} (outside : fault.link.generation? ≠ some target) :
      fault.link ≠ .rpc target .notAvailable message := by
    intro same
    rw [same] at outside
    exact outside rfl
  by_cases inside : fault.link.generation? = some target
  · rw [passed inside, head?_chain]
    simp [policy.bare_of_generation? inside]
  · by_cases renews : policy.Renews target fault
    · rw [renewed renews]
      simp [renews]
    · by_cases unwraps : policy.Unwraps target fault
      · rw [unwrapped unwraps]
        simp [renews, unwraps, other inside]
      · rw [wrapped inside renews unwraps]
        simp [renews, unwraps, other inside]

/-- Under any policy, in either direction: the chain of a fault that has crossed is told by the four
rules, so that below the outermost link nothing is lost, put in or moved. The result is a lack of
implementations just where the rules say so; a fault of the generation that is left crosses as it
would by itself; and the shell around a fault of the target generation is never found empty. -/
theorem crossed_chain (fault : Fault) (policy : CrossingPolicy) (target : Generation) :
    policy.Yields target fault (fault.cross policy target.other target).toFault.chain ∧
      fault.chain.tail <:+ (fault.cross policy target.other target).toFault.chain ∧
      ((fault.cross policy target.other target).isNotAvailable = true ↔
        (∃ message, fault.link = .rpc target .notAvailable message) ∨
        policy.Renews target fault ∨
        policy.Unwraps target fault ∧
          ∃ message, fault.chain.tail.head? = some (.rpc target .notAvailable message)) ∧
      ∀ own : RpcFault target.other,
        own.toFault.cross policy target.other target = own.cross policy target ∧
          ∀ lost, own.crossLooking lost policy = own.cross policy target := by
  refine ⟨yields_cross policy target fault, (yields_cross policy target fault).tail_suffix,
    isNotAvailable_cross policy target fault, fun own => ⟨?_, ?_⟩⟩
  · rw [cross, RpcFault.as?_toFault_of_ne target.other_ne]
    simp only [as?_toFault]
  · exact fun lost => own.crossLooking_eq_cross lost policy

example : ((root (.foreign "cable cut")).cross ⟨"bridge failure", true, true⟩ .legacy
    .current).toFault.chain = [.rpc .current .failed "bridge failure", .foreign "cable cut"] := rfl

end Fault
end RpcRouting
