import RpcRouting.Proofs.Session.Growth
/-! Taking a step leaves the routers alone. What the step does to them it puts on the stack, as a
change of registrations or the adoption of a schema. -/
namespace RpcRouting.Session.State
variable {s t : State}

/-- Who abandons a facade lets it go, and who abandons a router only forgets it. -/
theorem abandon_cases (s : State) (target : Target) :
    (∃ refusal, s.abandon target = s.refuse refusal) ∨
      ∃ targets, (∀ id, targets.hasFacade id = true → s.targets.hasFacade id = true) ∧
        (s.abandon target = State.reply { s with targets := targets } (.text "dropped") ∨
          ∃ id, s.abandon target =
            (State.push { s with targets := targets } [.answer (.text "dropped")]).letFacadeGo id) := by
  cases target with
  | facade | facade2 =>
    simp only [State.abandon]
    split
    · exact .inl ⟨_, rfl⟩
    · refine .inr ⟨_, fun other has => ?_, .inr ⟨_, rfl⟩⟩
      simp_all [Targets.hasFacade]
  | router =>
    simp only [State.abandon]
    split
    · exact .inl ⟨_, rfl⟩
    · exact .inr ⟨{ s.targets with router := none }, fun _ has => has, .inl rfl⟩
  | second | unknown => exact .inl ⟨_, rfl⟩

namespace Grows

theorem keep (s : State) (name : String) (handle : Handle) (answer : Answer) :
    Grows s (s.keep name handle answer) := by
  unfold State.keep
  refine Grows.trans ?_ (push _ fun frame member => ?_)
  · exact of_eq rfl rfl rfl rfl rfl rfl rfl
  · rcases List.mem_append.mp member with closes | answers
    · obtain ⟨closed, -, rfl⟩ := List.mem_map.mp closes
      exact ⟨rfl, trivial⟩
    · rw [List.mem_singleton.mp answers]
      exact ⟨rfl, trivial⟩

theorem withHandle (s : State) (name : String) {act : Nat → State}
    (acts : ∀ handle, Grows s (act handle)) : Grows s (s.withHandle name act) := by
  unfold State.withHandle
  split
  · exact acts _
  · exact refuse s _

theorem withTarget (s : State) (target : Target) {onFacade : Nat → Facade → State}
    {onRouter : Nat → Router Server Watcher → State}
    (facades : ∀ id facade, Grows s (onFacade id facade))
    (routers : ∀ id router, Grows s (onRouter id router)) :
    Grows s (s.withTarget target onFacade onRouter) := by
  unfold State.withTarget
  split
  · split
    · exact facades _ _
    · exact refuse s _
  · split
    · exact routers _ _
    · exact refuse s _
  · exact refuse s _

theorem withRead (s : State) (read : Except PathError α) {act : α → State}
    (acts : ∀ value, Grows s (act value)) : Grows s (s.withRead read act) := by
  unfold State.withRead
  split
  · exact acts _
  · exact refuse s _

/-! Registrations. -/

theorem registerWith (s : State) (router : Nat) {server : Server} (rpcs : List Current.Identifier)
    (known : server.implementation < s.implementations.length) :
    Grows s (s.registerWith router server rpcs) := by
  refine ite (note s _ _ _) (push s ?_)
  simp [Frame.isPlain, KnowsFrame, KnowsChange, known]

theorem registerThrough (s : State) (id : Nat) (facade : Facade) (handle : String)
    {implementation : Nat} (rpcs : List Legacy.Identifier)
    (known : implementation < s.implementations.length) :
    Grows s (s.registerThrough id facade handle implementation rpcs) := by
  refine (((modifyRoster s id _).trans (note _ _ _ _)).trans (push _ ?_)).trans
    (registerWith _ _ _ known)
  simp [Frame.isPlain, KnowsFrame]

theorem registerDirectly (s : State) (router : Nat) (handle : String) {implementation : Nat}
    (rpcs : List Current.Identifier) (known : implementation < s.implementations.length) :
    Grows s (s.registerDirectly router handle implementation rpcs) := by
  refine (push s ?_).trans (registerWith _ _ _ known)
  simp [Frame.isPlain, KnowsFrame]

theorem listenThrough (s : State) (id : Nat) (facade : Facade) (handle : String) {listener : Nat}
    (known : listener < s.listeners.length) :
    Grows s (s.listenThrough id facade handle listener) := by
  unfold State.listenThrough
  have counted := modifyRoster s id (·.takeNumber)
  cases facade.service with
  | none =>
    refine counted.trans (push _ ?_)
    simp [Frame.isPlain, KnowsFrame]
  | some router =>
    refine (counted.trans (push _ ?_)).trans (push _ ?_)
    · simp [Frame.isPlain, KnowsFrame]
    · simp only [List.mem_singleton, forall_eq]
      exact ⟨rfl, known⟩

theorem listenDirectly (s : State) (router : Nat) (handle : String) {listener : Nat}
    (known : listener < s.listeners.length) :
    Grows s (s.listenDirectly router handle listener) := by
  refine push s ?_
  simpa [Frame.isPlain, KnowsFrame, KnowsChange, Watcher.listener] using known

theorem register (s : State) (target : Target) (handle : String) {implementation : Nat}
    (rpcs : List IdentifierText) (known : implementation < s.implementations.length) :
    Grows s (s.register target handle implementation rpcs) :=
  withTarget s target
    (fun id facade => withRead s _ fun _ => registerThrough s id facade handle _ known)
    (fun id _ => withRead s _ fun _ => registerDirectly s id handle _ known)

theorem listen (s : State) (target : Target) (handle : String) {listener : Nat}
    (known : listener < s.listeners.length) : Grows s (s.listen target handle listener) :=
  withTarget s target (fun id facade => listenThrough s id facade handle known)
    (fun id _ => listenDirectly s id handle known)

theorem closeFacade (s : State) (id : Nat) (facade : Facade) :
    Grows s (s.closeFacade id facade) := by
  refine (note s _ _ _).trans (push _ fun frame member => ?_)
  rcases List.mem_append.mp member with releases | rest
  · obtain ⟨entry, -, rfl⟩ := List.mem_map.mp releases
    exact ⟨rfl, trivial⟩
  · simp only [List.mem_cons, List.not_mem_nil, or_false] at rest
    rcases rest with rfl | rfl | rfl <;> exact ⟨rfl, trivial⟩

theorem abandon (s : State) (target : Target) : Grows s (s.abandon target) := by
  obtain ⟨refusal, same⟩ | ⟨targets, -, same | ⟨id, same⟩⟩ := s.abandon_cases target
  · exact same ▸ refuse s refusal
  · exact same ▸ of_eq rfl rfl rfl rfl rfl rfl rfl
  · rw [same]
    refine Grows.trans (Grows.trans ?_ (push _ ?_)) (letFacadeGo _ _)
    · exact of_eq rfl rfl rfl rfl rfl rfl rfl
    · simp [Frame.isPlain, KnowsFrame]

/-! Calls and the schema. -/

theorem invoke (s : State) (target : Target) (type : String) (input : Option Payload) :
    Grows s (s.invoke target type input) := by
  refine withTarget s target (fun id facade => withRead s _ fun type => ?_)
    (fun id _ => withRead s _ fun type => ?_)
  · refine (callService s facade.service type input).trans (push _ ?_)
    simp [Frame.isPlain, KnowsFrame]
  · refine (callRouter s id type input).trans (push _ ?_)
    simp [Frame.isPlain, KnowsFrame]

theorem updateServiceSchema (s : State) (service : Option Nat) (schema : Schema) :
    Grows s (s.updateServiceSchema service schema) := by
  cases service with
  | none => exact note s _ _ _
  | some router =>
    refine push s ?_
    simp [Frame.isPlain, KnowsFrame]

theorem updateSchema (s : State) (target : Target) (definitions : List (String × Option String)) :
    Grows s (s.updateSchema target definitions) :=
  withTarget s target
    (fun _ _ => withRead s _ fun _ => (updateServiceSchema s _ _).trans (reply _ _))
    (fun _ _ => withRead s _ fun _ => (updateServiceSchema s _ _).trans (reply _ _))

end Grows

/-! Names. -/

theorem lookup_lt {names : List (String × Nat)} {bound id : Nat}
    (known : ∀ entry ∈ names, entry.2 < bound) {name : String}
    (found : names.lookup name = some id) : id < bound := by
  induction names with
  | nil => cases found
  | cons first rest ih =>
    rw [List.lookup_cons] at found
    split at found
    · obtain rfl := Option.some.inj found
      exact known first List.mem_cons_self
    · exact ih (fun entry member => known entry (List.mem_cons_of_mem _ member)) found

theorem bindName_lt {names : List (String × Nat)} {bound id : Nat}
    (known : ∀ entry ∈ names, entry.2 < bound) (new : id < bound) (name : String) :
    ∀ entry ∈ bindName names name id, entry.2 < bound := by
  intro entry member
  rcases List.mem_cons.mp member with rfl | old
  · exact new
  · exact known entry (List.mem_filter.mp old).1

theorem introduceImplementation_grows (known : s.NamesKnown) {name : String}
    {plan : Option (ImplementationPlan Step)} {id : Nat}
    (introduced : s.introduceImplementation name plan = some (t, id)) :
    Grows s t ∧ id < t.implementations.length := by
  cases plan with
  | none =>
    obtain ⟨found, there, same⟩ := Option.map_eq_some_iff.mp introduced
    obtain ⟨rfl, rfl⟩ := Prod.mk.inj same
    exact ⟨.refl _, lookup_lt known.implementations there⟩
  | some plan =>
    obtain ⟨rfl, rfl⟩ := Prod.mk.inj (Option.some.inj introduced)
    refine ⟨⟨rfl, by simp, Nat.le_refl _, fun _ => ⟨?_, known.listeners⟩, ⟨[], rfl, nofun⟩, rfl⟩,
      by simp⟩
    refine bindName_lt (fun entry member => ?_) (by simp) name
    exact Nat.lt_of_lt_of_le (known.implementations entry member) (by simp)

theorem introduceListener_grows (known : s.NamesKnown) {name : String}
    {plan : Option (ListenerPlan Step)} {id : Nat}
    (introduced : s.introduceListener name plan = some (t, id)) :
    Grows s t ∧ id < t.listeners.length := by
  cases plan with
  | none =>
    obtain ⟨found, there, same⟩ := Option.map_eq_some_iff.mp introduced
    obtain ⟨rfl, rfl⟩ := Prod.mk.inj same
    exact ⟨.refl _, lookup_lt known.listeners there⟩
  | some plan =>
    obtain ⟨rfl, rfl⟩ := Prod.mk.inj (Option.some.inj introduced)
    refine ⟨⟨rfl, Nat.le_refl _, by simp, fun _ => ⟨known.implementations, ?_⟩,
      ⟨[], rfl, nofun⟩, rfl⟩, by simp⟩
    refine bindName_lt (fun entry member => ?_) (by simp) name
    exact Nat.lt_of_lt_of_le (known.listeners entry member) (by simp)

/-- No step touches the routers, or makes deliveries, by itself. -/
theorem take_grows (known : s.NamesKnown) (step : Step) : Grows s (s.take step) := by
  cases step with
  | register target handle name plan rpcs =>
    simp only [State.take]
    split
    · obtain ⟨grows, there⟩ := introduceImplementation_grows known ‹_›
      exact grows.trans (.register _ _ _ _ there)
    · exact .refuse s _
  | listen target handle name plan =>
    simp only [State.take]
    split
    · obtain ⟨grows, there⟩ := introduceListener_grows known ‹_›
      exact grows.trans (.listen _ _ _ there)
    · exact .refuse s _
  | close handle =>
    refine .withHandle s handle fun id => .push s ?_
    simp [Frame.isPlain, KnowsFrame]
  | closed handle => exact .withHandle s handle fun id => .reply s _
  | forget handle =>
    refine .withHandle s handle fun id => .trans ?_ (.push _ ?_)
    · exact .of_eq rfl rfl rfl rfl rfl rfl rfl
    · simp [Frame.isPlain, KnowsFrame]
  | invoke target type input => exact .invoke s target type input
  | isAvailable target rpc =>
    exact .withTarget s target (fun _ _ => .refuse s _)
      (fun _ _ => .withRead s _ fun _ => .reply s _)
  | look target => exact .withTarget s target (fun _ _ => .refuse s _) (fun _ _ => .reply s _)
  | updateSchema target definitions => exact .updateSchema s target definitions
  | setCost name cost =>
    simp only [State.take]
    split
    · exact (Grows.modifyImplementation s _ _).trans (.reply _ _)
    · exact .refuse s _
  | setRejected name preference =>
    simp only [State.take]
    split
    · exact (Grows.modifyListener s _ _).trans (.reply _ _)
    · exact .refuse s _
  | asked name =>
    simp only [State.take]
    split
    · exact .reply s _
    · exact .refuse s _
  | describe target => exact .withTarget s target (fun _ _ => .reply s _) (fun _ _ => .reply s _)
  | describeHandle name =>
    refine .withHandle s name fun id => ?_
    split
    · exact .reply s _
    · exact .refuse s _
  | closeFacade target =>
    exact .withTarget s target (fun _ _ => .closeFacade s _ _) (fun _ _ => .refuse s _)
  | abandon target => exact .abandon s target
  | panic message => exact .of_eq rfl rfl rfl rfl rfl rfl rfl
  | unknown name => exact .refuse s _

end RpcRouting.Session.State
