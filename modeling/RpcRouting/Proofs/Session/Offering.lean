import RpcRouting.Proofs.Session.Standing
/-! Who begins to register an implementation. A router is about to be offered something only by a
step that registers an implementation; no other step does so, and no work that is under way. -/
namespace RpcRouting.Session

/-- A frame that is about to register an implementation. -/
def Frame.registers : Frame → Bool
  | .change _ (.register _ _ _) => true
  | _ => false

namespace State
variable {s t u : State} {frame : Frame}

/-- Work that does not begin to register an implementation. -/
def Offerless (s t : State) : Prop :=
  ∀ frame ∈ t.frames, frame.registers = true → frame ∈ s.frames

namespace Offerless

theorem trans (first : s.Offerless t) (second : t.Offerless u) : s.Offerless u :=
  fun frame member registers => first frame (second frame member registers) registers

theorem of_eq (frames : t.frames = s.frames) : s.Offerless t :=
  fun _ member _ => frames ▸ member

theorem pushed {pushed : List Frame} (frames : t.frames = pushed ++ s.frames)
    (free : ∀ frame ∈ pushed, frame.registers = false) : s.Offerless t := by
  intro frame member registers
  rw [frames] at member
  rcases List.mem_append.mp member with new | old
  · rw [free frame new] at registers
    cases registers
  · exact old

theorem push (s : State) {frames : List Frame} (free : ∀ frame ∈ frames, frame.registers = false) :
    s.Offerless (s.push frames) := pushed rfl free

theorem letsGo {id : Nat} (goes : s.LetsGo id t) : s.Offerless t := by
  cases goes with
  | kept => exact of_eq rfl
  | leaving => exact of_eq rfl
  | gone there before leaves => exact pushed leaves.frames (by simp [Frame.registers])

theorem withHandle (s : State) (name : String) {act : Nat → State}
    (acts : ∀ handle, s.Offerless (act handle)) : s.Offerless (s.withHandle name act) := by
  unfold State.withHandle
  split
  · exact acts _
  · exact of_eq rfl

theorem withTarget (s : State) (target : Target) {onFacade : Nat → Facade → State}
    {onRouter : Nat → Router Server Watcher → State}
    (facades : ∀ id facade, s.Offerless (onFacade id facade))
    (routers : ∀ id router, s.Offerless (onRouter id router)) :
    s.Offerless (s.withTarget target onFacade onRouter) := by
  rw [withTarget_eq]
  split
  · exact facades _ _
  · exact routers _ _
  · exact of_eq rfl

theorem withRead (s : State) (read : Except PathError α) {act : α → State}
    (acts : ∀ value, s.Offerless (act value)) : s.Offerless (s.withRead read act) := by
  unfold State.withRead
  split
  · exact acts _
  · exact of_eq rfl

theorem abandon (s : State) (target : Target) : s.Offerless (s.abandon target) := by
  obtain ⟨refusal, same⟩ | ⟨targets, -, same | ⟨id, same⟩⟩ := s.abandon_cases target
  · exact same ▸ of_eq rfl
  · exact same ▸ of_eq rfl
  · have parted : s.Offerless
        (State.push { s with targets := targets } [.answer (.text "dropped")]) :=
      pushed rfl (by simp [Frame.registers])
    exact same ▸ parted.trans (.letsGo (.of_letFacadeGo _ id))

theorem updateServiceSchema (s : State) (service : Option Nat) (schema : Schema) (answer : Answer) :
    s.Offerless ((s.updateServiceSchema service schema).reply answer) := by
  cases service with
  | none => exact of_eq rfl
  | some router =>
    have frames : ((s.updateServiceSchema (some router) schema).reply answer).frames =
        [.adopt router schema] ++ s.frames := rfl
    exact pushed frames (by simp [Frame.registers])

theorem close (s : State) (handle : Handle) : s.Offerless (s.close handle) := by
  unfold State.close State.release
  split
  · split <;> split <;>
      first
      | exact of_eq rfl
      | exact push s (by simp [Frame.registers])
  · exact of_eq rfl

end Offerless

/-- Nothing but a registration begins to register an implementation. -/
theorem take_offerless (s : State) {step : Step}
    (other : ∀ target handle name plan rpcs, step ≠ .register target handle name plan rpcs) :
    s.Offerless (s.take step) := by
  cases step with
  | register target handle name plan rpcs => exact absurd rfl (other target handle name plan rpcs)
  | listen target handle name plan =>
    simp only [State.take]
    split
    · rename_i introduced listener known
      have leaves := Leaves.introduceListener known
      refine (Offerless.of_eq leaves.frames).trans (.withTarget _ target (fun id facade => ?_)
        fun id router => .push _ (by simp [Frame.registers]))
      unfold State.listenThrough
      cases facade.service with
      | none => exact .pushed rfl (by simp [Frame.registers])
      | some router =>
        dsimp only
        refine Offerless.trans ?_ (.push _ (by simp [Frame.registers]))
        exact .pushed rfl (by simp [Frame.registers])
    · exact .of_eq rfl
  | close handle => exact .withHandle s handle fun id => .push s (by simp [Frame.registers])
  | closed handle => exact .withHandle s handle fun id => .of_eq rfl
  | forget handle =>
    exact .withHandle s handle fun id => .pushed rfl (by simp [Frame.registers])
  | invoke target type input =>
    refine .withTarget s target (fun id facade => .withRead s _ fun type => ?_)
      fun id router => .withRead s _ fun type => ?_
    · exact (Offerless.of_eq (Leaves.callService s facade.service type input).frames).trans
        (.push _ (by simp [Frame.registers]))
    · exact (Offerless.of_eq (Leaves.callRouter s id type input).frames).trans
        (.push _ (by simp [Frame.registers]))
  | isAvailable target rpc =>
    exact .withTarget s target (fun _ _ => .of_eq rfl) fun _ _ => .withRead s _ fun _ => .of_eq rfl
  | look target => exact .withTarget s target (fun _ _ => .of_eq rfl) fun _ _ => .of_eq rfl
  | updateSchema target definitions =>
    exact .withTarget s target (fun _ _ => .withRead s _ fun _ => .updateServiceSchema s _ _ _)
      fun _ _ => .withRead s _ fun _ => .updateServiceSchema s _ _ _
  | setCost | setRejected | asked =>
    simp only [State.take]
    split <;> exact .of_eq rfl
  | describe target => exact .withTarget s target (fun _ _ => .of_eq rfl) fun _ _ => .of_eq rfl
  | describeHandle name =>
    refine .withHandle s name fun id => ?_
    split <;> exact .of_eq rfl
  | closeFacade target =>
    refine .withTarget s target (fun id facade => .pushed rfl ?_) fun _ _ => .of_eq rfl
    simp only [List.forall_mem_append, List.forall_mem_map]
    simp [Frame.registers]
  | abandon target => exact .abandon s target
  | panic | unknown => exact .of_eq rfl

/-! Other work. -/

theorem enter_offerless (other : ∀ step later, frame ≠ .script (step :: later)) :
    s.Offerless (s.enter frame) := by
  cases frame with
  | script steps =>
    cases steps with
    | nil => exact .of_eq rfl
    | cons step later => exact absurd rfl (other step later)
  | report | answer | answerClosed | finishListenerRelease | resume => exact .of_eq rfl
  | change router change =>
    cases there : s.router? router with
    | none => exact .of_eq (by rw [(enter_missing there).1])
    | some found =>
      refine .pushed (change_changes there change).frames fun frame member => ?_
      rw [mem_dutyAfter member]
      rfl
  | adopt router schema =>
    cases there : s.router? router with
    | none => exact .of_eq (by rw [(enter_missing there).2.1])
    | some found => exact .pushed (adopt_changes there schema).frames nofun
  | deliver router =>
    cases there : s.router? router with
    | none => exact .of_eq (by rw [(enter_missing there).2.2])
    | some found =>
      cases next : found.nextDelivery? with
      | none => exact .pushed (deliverNext_changes_of_none there next).frames nofun
      | some taken =>
        refine .pushed (deliverNext_changes_of_some there next).frames ?_
        simp only [List.forall_mem_append, List.forall_mem_map]
        simp [Frame.registers]
  | call router call =>
    simp only [State.enter, State.callListener]
    split
    · exact .of_eq rfl
    · exact .pushed rfl (by simp [Frame.registers])
  | keep name handle answer =>
    refine .pushed rfl ?_
    simp only [List.forall_mem_append, List.forall_mem_map]
    simp [Frame.registers]
  | close handle => exact .close s handle
  | closeKept handle =>
    simp only [State.enter, State.closeKept]
    split
    · exact (Offerless.of_eq rfl).trans (.close _ _)
    · exact .of_eq rfl
  | complete facade id underlying =>
    simp only [State.enter, State.complete]
    split
    · exact .of_eq rfl
    · split
      · exact .of_eq rfl
      · exact .pushed rfl (by simp [Frame.registers])
  | completeListener => exact .of_eq rfl
  | release facade id =>
    simp only [State.enter, State.beginRelease]
    split
    · exact .of_eq rfl
    · refine .pushed rfl ?_
      simp only [List.forall_mem_append, List.forall_mem_map]
      simp [Frame.registers]
  | finishRelease => exact .of_eq rfl
  | releaseListener facade id =>
    simp only [State.enter, State.beginListenerRelease]
    split
    · exact .of_eq rfl
    · exact .pushed rfl (by simp [Frame.registers])
  | releaseListeners facade =>
    simp only [State.enter, State.releaseListeners]
    split
    · exact .of_eq rfl
    · refine .push s ?_
      simp only [List.forall_mem_map]
      simp [Frame.registers]
  | letGo resource =>
    cases resource with
    | facade id => exact .letsGo (.of_letFacadeGo s id)
    | roster id => exact .letsGo (.of_letRosterGo s id)
    | router id => exact .of_eq rfl
  | closeAll handles =>
    cases handles with
    | nil => exact .of_eq rfl
    | cons handle rest => exact .push s (by simp [Frame.registers])

theorem giveUp_offerless (message : String) (frame : Frame) :
    s.Offerless (s.giveUp message frame) := by
  cases frame with
  | letGo resource =>
    have resumed : s.Offerless (State.push { s with panic := none } [.resume message]) :=
      .pushed rfl (by simp [Frame.registers])
    cases resource with
    | facade id => exact resumed.trans (.letsGo (.of_letFacadeGo _ id))
    | roster id => exact resumed.trans (.letsGo (.of_letRosterGo _ id))
    | router id => exact resumed
  | closeAll handles => exact .pushed rfl (by simp [Frame.registers])
  | _ => exact .of_eq rfl

end State
end RpcRouting.Session
