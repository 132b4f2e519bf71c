import RpcRouting.Proofs.Session.Changing
/-! Nobody is lost: whoever is registered, named, or about to be called is one of the session's
implementations and listeners. So the calls on the stack reach somebody, and a router never chooses
an implementation that is not there. -/
namespace RpcRouting.Session

/-- A frame that has nothing to do with what a router does. -/
def Frame.isQuiet : Frame → Bool
  | .change _ _ | .adopt _ _ | .deliver _ | .call _ _ => false
  | _ => true

namespace State

/-- Who is registered with a router, or is to be told something, is known to the session. -/
structure KnowsRouter (s : State) (router : Router Server Watcher) : Prop where
  offers : ∀ offer ∈ router.offers,
    offer.implementation.implementation < s.implementations.length
  subscriptions : ∀ subscription ∈ router.subscriptions,
    subscription.listener.listener < s.listeners.length
  pending : ∀ delivery ∈ router.pending, delivery.listener.listener < s.listeners.length

structure Known (s : State) : Prop extends NamesKnown s where
  routers : ∀ router ∈ s.routers, s.KnowsRouter router
  frames : ∀ frame ∈ s.frames, s.KnowsFrame frame

variable {s t : State} {router : Nat} {found : Router Server Watcher}

namespace KnowsRouter

theorem mono (known : s.KnowsRouter found)
    (implementations : s.implementations.length ≤ t.implementations.length)
    (listeners : s.listeners.length ≤ t.listeners.length) : t.KnowsRouter found where
  offers offer member := Nat.lt_of_lt_of_le (known.offers offer member) implementations
  subscriptions subscription member :=
    Nat.lt_of_lt_of_le (known.subscriptions subscription member) listeners
  pending delivery member := Nat.lt_of_lt_of_le (known.pending delivery member) listeners

/-- What a change adds to the registrations is what the change is about. -/
theorem amend (known : s.KnowsRouter found) {change : Change Server Watcher}
    (about : s.KnowsChange change) (accepts : Acceptance Server Watcher) :
    s.KnowsRouter (found.amend accepts change) := by
  cases change with
  | register server cost rpcs =>
    refine ⟨fun offer member => ?_, known.subscriptions, known.pending⟩
    rcases List.mem_append.mp member with old | new
    · exact known.offers offer old
    · rw [List.mem_singleton.mp new]
      exact about
  | unregister registration =>
    exact ⟨fun offer member => known.offers offer (List.mem_filter.mp member).1,
      known.subscriptions, known.pending⟩
  | listen listener =>
    refine ⟨known.offers, fun subscription member => ?_, known.pending⟩
    rcases List.mem_append.mp member with old | new
    · exact known.subscriptions subscription old
    · rw [List.mem_singleton.mp new]
      exact about
  | unlisten registration =>
    exact ⟨known.offers, fun subscription member =>
      known.subscriptions subscription (List.mem_filter.mp member).1, known.pending⟩

theorem apply (known : s.KnowsRouter found) {change : Change Server Watcher}
    (about : s.KnowsChange change) (accepts : Acceptance Server Watcher) :
    s.KnowsRouter (found.apply accepts change) := by
  have amended := known.amend about accepts
  refine ⟨amended.offers, fun subscription member => ?_, fun delivery member => ?_⟩
  · rw [Router.subscriptions_apply] at member
    obtain ⟨before, old, rfl⟩ := List.mem_map.mp member
    rw [listener_refresh]
    exact amended.subscriptions before old
  · rw [Router.pending_apply] at member
    rcases List.mem_append.mp member with old | new
    · exact known.pending delivery old
    · obtain ⟨subscription, opened, rfl, -⟩ := Router.mem_differences.mp new
      exact amended.subscriptions subscription opened

theorem onDuty (known : s.KnowsRouter found) : s.KnowsRouter found.onDuty := by
  constructor
  · rw [Router.offers_onDuty]
    exact known.offers
  · rw [Router.subscriptions_onDuty]
    exact known.subscriptions
  · rw [Router.pending_onDuty]
    exact known.pending

end KnowsRouter

theorem Grows.known (grows : Grows s t) (known : s.Known) : t.Known := by
  obtain ⟨pushed, frames, above⟩ := grows.frames
  refine ⟨grows.names known.toNamesKnown, ?_, ?_⟩
  · rw [grows.routers]
    exact fun router member =>
      (known.routers router member).mono grows.implementations grows.listeners
  · intro frame member
    rw [frames] at member
    rcases List.mem_append.mp member with new | old
    · exact (above frame new).2
    · exact (known.frames frame old).mono grows.implementations grows.listeners

theorem Changes.known {after : Router Server Watcher} {pushed : List Frame}
    (changes : Changes router after pushed s t) (known : s.Known) (knows : s.KnowsRouter after)
    (above : ∀ frame ∈ pushed, s.KnowsFrame frame) : t.Known := by
  have implementations := Nat.le_of_eq (congrArg List.length changes.implementations).symm
  have listeners := Nat.le_of_eq changes.listeners.symm
  refine ⟨changes.names known.toNamesKnown, fun other member => ?_, fun frame member => ?_⟩
  · rw [changes.routers] at member
    rcases mem_of_modify member with ⟨before, -, rfl⟩ | old
    · exact knows.mono implementations listeners
    · exact (known.routers other old).mono implementations listeners
  · rw [changes.frames] at member
    rcases List.mem_append.mp member with new | old
    · exact (above frame new).mono implementations listeners
    · exact (known.frames frame old).mono implementations listeners

theorem Known.router? (known : s.Known) (there : s.router? router = some found) :
    s.KnowsRouter found :=
  known.routers found (List.mem_of_getElem? there)

theorem Known.below {frame : Frame} (known : (s.push [frame]).Known) :
    s.Known ∧ s.KnowsFrame frame := by
  refine ⟨⟨⟨known.implementations, known.listeners⟩, fun router member => ?_,
    fun below member => ?_⟩, ?_⟩
  · exact (known.routers router member).mono (Nat.le_refl _) (Nat.le_refl _)
  · exact (known.frames below (List.mem_cons_of_mem _ member)).mono (Nat.le_refl _) (Nat.le_refl _)
  · exact (known.frames frame List.mem_cons_self).mono (Nat.le_refl _) (Nat.le_refl _)

/-- A listener that is called is one of the session's. -/
theorem Known.listener {call : Call Watcher} (known : (s.push [.call router call]).Known) :
    ∃ found, s.listeners[call.listener.listener]? = some found :=
  ⟨_, List.getElem?_eq_getElem known.below.2⟩

/-! The work on top of the stack. -/

/-- Work on a router that is not there comes to nothing. -/
theorem enter_missing (missing : s.router? router = none) :
    (∀ change, s.enter (.change router change) = s) ∧
      (∀ schema, s.enter (.adopt router schema) = s) ∧ s.enter (.deliver router) = s := by
  refine ⟨fun change => ?_, fun schema => ?_, ?_⟩
  · simp only [enter, State.change, missing]
  · simp only [enter, State.adopt, missing]
  · simp only [enter, State.deliverNext, missing]

/-- Work other than on routers grows the session. -/
theorem enter_grows {frame : Frame} (known : s.NamesKnown) (quiet : frame.isQuiet = true) :
    Grows s (s.enter frame) := by
  cases frame with
  | change | adopt | deliver | call => cases quiet
  | script steps =>
    cases steps with
    | nil => exact .refl s
    | cons step rest =>
      have pushed : Grows s (s.push [.report step.name, .script rest]) :=
        .push s (by simp [Frame.isPlain, KnowsFrame])
      exact pushed.trans (take_grows (pushed.names known) step)
  | report name => exact .emit s rfl
  | answer answer => exact .reply s _
  | answerClosed handle => exact .reply s _
  | keep name handle answer => exact .keep s name handle answer
  | close handle => exact .close s handle
  | closeKept handle => exact .closeKept s handle
  | complete facade id underlying => exact .complete s facade id underlying
  | completeListener facade id underlying => exact .completeListener s facade id underlying
  | release facade id => exact .beginRelease s facade id
  | finishRelease facade id => exact .finishRelease s facade id
  | releaseListener facade id => exact .beginListenerRelease s facade id
  | finishListenerRelease id => exact .note s _ _ _
  | releaseListeners facade => exact .releaseListeners s facade
  | letGo resource => exact .letGo s resource
  | closeAll handles =>
    cases handles with
    | nil => exact .refl s
    | cons handle rest => exact .push s (by simp [Frame.isPlain, KnowsFrame])
  | resume message => exact .of_eq rfl rfl rfl rfl rfl rfl rfl

theorem enter_known {frame : Frame} (known : (s.push [frame]).Known) : (s.enter frame).Known := by
  obtain ⟨below, about⟩ := known.below
  cases frame with
  | change router change =>
    cases there : s.router? router with
    | none => rwa [(enter_missing there).1]
    | some found =>
      refine (change_changes there change).known below ((below.router? there).apply about _).onDuty ?_
      intro frame member
      rw [mem_dutyAfter member]
      trivial
  | adopt router schema =>
    cases there : s.router? router with
    | none => rwa [(enter_missing there).2.1]
    | some found =>
      have knows := below.router? there
      exact (adopt_changes there schema).known below
        ⟨knows.offers, knows.subscriptions, knows.pending⟩ nofun
  | deliver router =>
    cases there : s.router? router with
    | none => rwa [(enter_missing there).2.2]
    | some found =>
      have knows := below.router? there
      cases next : found.nextDelivery? with
      | none =>
        exact (deliverNext_changes_of_none there next).known below
          ⟨knows.offers, knows.subscriptions, knows.pending⟩ nofun
      | some taken =>
        obtain ⟨delivery, rest⟩ := taken
        obtain ⟨first, same⟩ := (Router.nextDelivery?_eq_some _ _ _).mp next
        refine (deliverNext_changes_of_some there next).known below ?_ fun frame member => ?_
        · rw [same]
          exact ⟨knows.offers, knows.subscriptions, fun later member =>
            knows.pending later (first ▸ List.mem_cons_of_mem _ member)⟩
        · rcases List.mem_append.mp member with called | duty
          · obtain ⟨call, inside, rfl⟩ := List.mem_map.mp called
            show call.listener.listener < s.listeners.length
            rw [(Desk.registration_of_mem_calls inside).2]
            exact knows.pending delivery (first ▸ List.mem_cons_self)
          · rw [List.mem_singleton.mp duty]
            trivial
  | call router call =>
    obtain ⟨found, there⟩ := known.listener
    refine (Grows.callListener there).known ⟨⟨below.implementations, below.listeners⟩, ?_, ?_⟩
    · exact fun router member => (below.routers router member).mono (Nat.le_refl _) (Nat.le_refl _)
    · exact fun frame member => (below.frames frame member).mono (Nat.le_refl _) (Nat.le_refl _)
  | script | report | answer | answerClosed | keep | close | closeKept | complete
  | completeListener | release | finishRelease | releaseListener | finishListenerRelease
  | releaseListeners | letGo | closeAll | resume =>
    exact (enter_grows below.toNamesKnown rfl).known below

end State
end RpcRouting.Session
