import RpcRouting.Session.Run
/-! What most work of a session has in common: it leaves the routers alone, forgets nobody, tells
listeners nothing, and puts nothing on the stack that makes deliveries. Routers are touched by three
kinds of frames only, which change registrations, adopt schemas and make deliveries. -/
namespace RpcRouting.Session

def Event.isNotification : Event → Bool
  | .notified .. => true
  | _ => false

/-- A frame that neither makes the deliveries of a router nor is a call of one. -/
def Frame.isPlain : Frame → Bool
  | .deliver _ | .call _ _ => false
  | _ => true

namespace State

/-- What listeners have been told, as the log has it. -/
def notifications (s : State) : List Event := s.log.filter (·.isNotification)

/-- What is registered by a change is known to the session. -/
def KnowsChange (s : State) : Change Server Watcher → Prop
  | .register server _ _ => server.implementation < s.implementations.length
  | .listen watcher => watcher.listener < s.listeners.length
  | .unregister _ | .unlisten _ => True

/-- Whom a frame is about is known to the session. -/
def KnowsFrame (s : State) : Frame → Prop
  | .change _ change => s.KnowsChange change
  | .call _ call => call.listener.listener < s.listeners.length
  | _ => True

/-- Names stand for somebody. -/
structure NamesKnown (s : State) : Prop where
  implementations : ∀ entry ∈ s.implementationNames, entry.2 < s.implementations.length
  listeners : ∀ entry ∈ s.listenerNames, entry.2 < s.listeners.length

/-- Work that leaves the routers alone, tells listeners nothing, and puts only plain frames on the
stack. -/
structure Grows (s t : State) : Prop where
  routers : t.routers = s.routers
  implementations : s.implementations.length ≤ t.implementations.length
  listeners : s.listeners.length ≤ t.listeners.length
  names : s.NamesKnown → t.NamesKnown
  frames : ∃ pushed, t.frames = pushed ++ s.frames ∧
    ∀ frame ∈ pushed, frame.isPlain = true ∧ t.KnowsFrame frame
  notifications : t.notifications = s.notifications

theorem KnowsFrame.mono {s t : State} {frame : Frame} (known : s.KnowsFrame frame)
    (implementations : s.implementations.length ≤ t.implementations.length)
    (listeners : s.listeners.length ≤ t.listeners.length) : t.KnowsFrame frame := by
  cases frame with
  | change router change =>
    cases change with
    | register server cost rpcs => exact Nat.lt_of_lt_of_le known implementations
    | listen watcher => exact Nat.lt_of_lt_of_le known listeners
    | unregister | unlisten => trivial
  | call router call => exact Nat.lt_of_lt_of_le known listeners
  | _ => trivial

namespace Grows
variable {s t u : State}

/-- Work that concerns nothing of the kind. -/
theorem of_eq (routers : t.routers = s.routers)
    (implementations : t.implementations.length = s.implementations.length)
    (listeners : t.listeners.length = s.listeners.length)
    (implementationNames : t.implementationNames = s.implementationNames)
    (listenerNames : t.listenerNames = s.listenerNames) (frames : t.frames = s.frames)
    (log : t.log = s.log) : Grows s t := by
  refine ⟨routers, Nat.le_of_eq implementations.symm, Nat.le_of_eq listeners.symm, ?_,
    ⟨[], frames, nofun⟩, by rw [State.notifications, log, State.notifications]⟩
  intro known
  constructor
  · rw [implementationNames, implementations]
    exact known.implementations
  · rw [listenerNames, listeners]
    exact known.listeners

theorem refl (s : State) : Grows s s := of_eq rfl rfl rfl rfl rfl rfl rfl

theorem trans (first : Grows s t) (second : Grows t u) : Grows s u := by
  obtain ⟨later, last, above⟩ := second.frames
  obtain ⟨pushed, middle, below⟩ := first.frames
  refine ⟨second.routers.trans first.routers, Nat.le_trans first.implementations
    second.implementations, Nat.le_trans first.listeners second.listeners,
    second.names ∘ first.names, ⟨later ++ pushed, ?_, ?_⟩,
    second.notifications.trans first.notifications⟩
  · rw [last, middle, List.append_assoc]
  · intro frame member
    rcases List.mem_append.mp member with new | old
    · exact above frame new
    · exact ⟨(below frame old).1, (below frame old).2.mono second.implementations second.listeners⟩

theorem push (s : State) {frames : List Frame}
    (plain : ∀ frame ∈ frames, frame.isPlain = true ∧ s.KnowsFrame frame) :
    Grows s (s.push frames) :=
  ⟨rfl, Nat.le_refl _, Nat.le_refl _, fun known => ⟨known.1, known.2⟩, ⟨frames, rfl, plain⟩, rfl⟩

theorem ite {p : Prop} [Decidable p] (yes : Grows s t) (no : Grows s u) :
    Grows s (if p then t else u) := by
  split
  · exact yes
  · exact no

theorem emit (s : State) {event : Event} (silent : event.isNotification = false) :
    Grows s (s.emit event) :=
  ⟨rfl, Nat.le_refl _, Nat.le_refl _, fun known => ⟨known.1, known.2⟩, ⟨[], rfl, nofun⟩, by
    simp [State.emit, State.notifications, silent]⟩

theorem note (s : State) (level message fields) : Grows s (s.note level message fields) :=
  emit s rfl

theorem reply (s : State) (answer : Answer) : Grows s (s.reply answer) :=
  of_eq rfl rfl rfl rfl rfl rfl rfl

theorem refuse (s : State) (reason : Refusal) : Grows s (s.refuse reason) := reply s _

theorem modifyFacade (s : State) (facade f) : Grows s (s.modifyFacade facade f) :=
  of_eq rfl rfl rfl rfl rfl rfl rfl

theorem modifyRoster (s : State) (facade f) : Grows s (s.modifyRoster facade f) :=
  modifyFacade s facade _

theorem modifyImplementation (s : State) (id f) : Grows s (s.modifyImplementation id f) :=
  of_eq rfl (List.length_modify ..) rfl rfl rfl rfl rfl

theorem modifyListener (s : State) (id f) : Grows s (s.modifyListener id f) :=
  of_eq rfl rfl (List.length_modify ..) rfl rfl rfl rfl

/-! What is let go. -/

theorem letRosterGo (s : State) (facade : Nat) : Grows s (s.letRosterGo facade) := by
  unfold State.letRosterGo
  split
  · split
    · refine (modifyFacade s facade _).trans (push _ ?_)
      simp [Frame.isPlain, KnowsFrame]
    · exact refl s
  · exact refl s

theorem letFacadeGo (s : State) (facade : Nat) : Grows s (s.letFacadeGo facade) := by
  unfold State.letFacadeGo
  split
  · split
    · exact (modifyFacade s facade _).trans (letRosterGo _ facade)
    · exact refl s
  · exact refl s

theorem letGo (s : State) (resource : Resource) : Grows s (s.letGo resource) := by
  cases resource with
  | facade facade => exact letFacadeGo s facade
  | roster facade => exact letRosterGo s facade
  | router router => exact refl s

/-! Releases. -/

theorem release (s : State) (release : Release) : Grows s (s.release release) := by
  cases release with
  | offer router registration =>
    refine ite (push s ?_) (refl s)
    simp [Frame.isPlain, KnowsFrame, KnowsChange]
  | subscription router registration =>
    refine ite (push s ?_) (refl s)
    simp [Frame.isPlain, KnowsFrame, KnowsChange]
  | facadeImplementation facade id =>
    refine ite (push s ?_) (refl s)
    simp [Frame.isPlain, KnowsFrame]
  | facadeListener facade id =>
    refine ite (push s ?_) (refl s)
    simp [Frame.isPlain, KnowsFrame]

theorem close (s : State) (handle : Handle) : Grows s (s.close handle) := by
  unfold State.close
  split
  · exact release s _
  · exact refl s

theorem closeKept (s : State) (handle : Nat) : Grows s (s.closeKept handle) := by
  unfold State.closeKept
  split
  · refine Grows.trans ?_ (close _ _)
    exact of_eq rfl rfl rfl rfl rfl rfl rfl
  · exact refl s

theorem complete (s : State) (facade id : Nat) (underlying : Handle) :
    Grows s (s.complete facade id underlying) := by
  unfold State.complete
  split
  · exact refl s
  · dsimp only
    split
    · exact modifyRoster s facade _
    · refine ((modifyRoster s facade _).trans (note _ _ _ _)).trans (push _ ?_)
      simp [Frame.isPlain, KnowsFrame]

theorem completeListener (s : State) (facade id : Nat) (underlying : Handle) :
    Grows s (s.completeListener facade id underlying) :=
  (modifyRoster s facade _).trans (note _ _ _ _)

theorem beginRelease (s : State) (facade id : Nat) : Grows s (s.beginRelease facade id) := by
  unfold State.beginRelease
  split
  · exact refl s
  · refine (modifyRoster s facade _).trans (push _ fun frame member => ?_)
    rcases List.mem_append.mp member with closes | finishes
    · obtain ⟨underlying, -, rfl⟩ := List.mem_map.mp closes
      exact ⟨rfl, trivial⟩
    · rw [List.mem_singleton.mp finishes]
      exact ⟨rfl, trivial⟩

theorem finishRelease (s : State) (facade id : Nat) : Grows s (s.finishRelease facade id) :=
  (modifyRoster s facade _).trans (note _ _ _ _)

theorem beginListenerRelease (s : State) (facade id : Nat) :
    Grows s (s.beginListenerRelease facade id) := by
  unfold State.beginListenerRelease
  split
  · exact refl s
  · refine (modifyRoster s facade _).trans (push _ ?_)
    simp [Frame.isPlain, KnowsFrame]

theorem releaseListeners (s : State) (facade : Nat) : Grows s (s.releaseListeners facade) := by
  unfold State.releaseListeners
  split
  · exact refl s
  · refine push s fun frame member => ?_
    obtain ⟨entry, -, rfl⟩ := List.mem_map.mp member
    exact ⟨rfl, trivial⟩

/-! Calls. -/

/-- A listener that is called does nothing else at once than to be told. -/
theorem callListener {call : Call Watcher} {found : Listener}
    (there : s.listeners[call.listener.listener]? = some found) :
    Grows (s.emit (.notified call.available found.name _ (call.listener.bring call.rpcs)))
      (s.callListener call) := by
  simp only [State.callListener, there]
  refine (modifyListener _ _ _).trans (push _ ?_)
  simp [Frame.isPlain, KnowsFrame]

theorem callServer (s : State) (server : Server) (rpc input) :
    Grows s (s.callServer server rpc input).1 := by
  unfold State.callServer
  split
  · exact refl s
  · cases server with
    | native => exact (modifyImplementation s _ _).trans (emit _ rfl)
    | adapted => exact ((modifyImplementation s _ _).trans (note _ _ _ _)).trans (emit _ rfl)

theorem noteFallback (s : State) (router : Router Server Watcher) (type input) :
    Grows s (s.noteFallback router type input) := by
  unfold State.noteFallback
  split
  · split
    · exact note s _ _ _
    · exact refl s
  · exact refl s

theorem callRouter (s : State) (router : Nat) (type input) :
    Grows s (s.callRouter router type input).1 := by
  unfold State.callRouter
  split
  · exact refl s
  · rename_i found _
    dsimp only
    have noted := noteFallback s found type input
    split
    · exact (noted.trans (note _ _ _ _)).trans (callServer _ _ _ _)
    · exact noted.trans (note _ _ _ _)
    · exact noted.trans (note _ _ _ _)

theorem callService (s : State) (service : Option Nat) (type input) :
    Grows s (s.callService service type input).1 := by
  cases service with
  | none => exact refl s
  | some router => exact callRouter s router type input

end Grows
end State
end RpcRouting.Session
