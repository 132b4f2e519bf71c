import RpcRouting.Proofs.Session.Knowing
/-! How a session moves, and what that does to one of its routers. At rest a step is taken from
outside; otherwise the work on top of the stack goes on. Seen from a router, a session is a desk: the
calls on the stack are those still to be made of the delivery under way, and somebody makes the
deliveries as long as the duty is on the stack. -/
namespace RpcRouting.Session

namespace Frame

/-- Whether a frame makes the deliveries of a router, or is a call of one. -/
def concerns (router : Nat) : Frame → Bool
  | .deliver other | .call other _ => other == router
  | _ => false

def callOf? (router : Nat) : Frame → Option (Call Watcher)
  | .call other made => if other = router then some made else none
  | _ => none

/-- What a frame does to a router, or on its behalf. -/
def acts (router : Nat) (found : Router Server Watcher) (accepts : Acceptance Server Watcher) :
    Frame → List (Act Server Watcher)
  | .change other made => if other = router then [.changed found accepts made] else []
  | .adopt other schema => if other = router then [.adopted schema] else []
  | .deliver other =>
    if other = router then (found.nextDelivery?.map fun (delivery, _) => .begun delivery).toList
    else []
  | .call other made => if other = router then [.called made] else []
  | _ => []

end Frame

namespace State

/-- What the next piece of work does to a router, or on its behalf. -/
def acts (router : Nat) (s : State) : List (Act Server Watcher) :=
  match s.panic, s.frames, s.router? router with
  | none, frame :: _, some found => frame.acts router found s.accepts
  | _, _, _ => []

/-- The calls on the stack that are made for a router. -/
def inHand (router : Nat) (s : State) : List (Call Watcher) := s.frames.filterMap (·.callOf? router)

/-- A session as one of its routers sees it. -/
def desk (router : Nat) (s : State) : Desk Server Watcher :=
  ⟨(s.router? router).getD (.ofSettings .default), s.inHand router⟩

end State

/-- A move of a session, with what it does to a router. -/
inductive Move (router : Nat) : State → List (Act Server Watcher) → State → Prop
  | take {s : State} (rest : s.frames = []) (calm : s.panic = none) (step : Step) :
      Move router s [] (State.take { s with log := [] } step)
  | work {s : State} (busy : s.frames ≠ []) : Move router s (s.acts router) s.advance
  /-- A panic that nothing has stopped is the answer of the step. -/
  | land {s : State} (rest : s.frames = []) (panicked : s.panic = some message) :
      Move router s [] { s with answer := .panicked message, panic := none }

/-- A panic is about to pass through the deliveries of a router. -/
def State.disturbed (router : Nat) (s : State) : Bool :=
  s.panic.isSome && s.frames.head?.any (·.concerns router)

/-- A move by which no panic passes through the deliveries of a router. -/
def CalmMove (router : Nat) (s : State) (acts : List (Act Server Watcher)) (t : State) : Prop :=
  Move router s acts t ∧ s.disturbed router = false

namespace State

/-- Deliveries are made exactly while the duty is on the stack, with the calls of the delivery under
way on top of it. -/
def Staffed (router : Nat) (s : State) : Prop :=
  s.frames.filter (·.concerns router) =
    if (s.desk router).router.delivering then
      (s.inHand router).map (.call router) ++ [.deliver router]
    else []

/-- A router that is there, with its deliveries made by whoever has the duty. -/
structure Attends (router : Nat) (s : State) : Prop where
  there : router < s.routers.length
  staffed : s.Staffed router

variable {s t : State} {router : Nat} {frame : Frame}

theorem router?_desk (there : router < s.routers.length) :
    s.router? router = some (s.desk router).router := by
  rw [desk, router?, List.getElem?_eq_getElem there, Option.getD_some]

theorem eq_push_of_top {rest : List Frame} (top : s.frames = frame :: rest) :
    ∃ below : State, s = below.push [frame] ∧ below.frames = rest := by
  refine ⟨{ s with frames := rest }, ?_, rfl⟩
  rw [push, List.singleton_append, ← top]

theorem eq_push_of_busy (busy : s.frames ≠ []) : ∃ (below : State) (frame : Frame),
    s = below.push [frame] := by
  obtain ⟨frame, rest, top⟩ := List.exists_cons_of_ne_nil busy
  obtain ⟨below, same, -⟩ := eq_push_of_top top
  exact ⟨below, frame, same⟩

theorem advance_push (calm : s.panic = none) (frame : Frame) :
    (s.push [frame]).advance = s.enter frame := by
  cases s
  cases calm
  rfl

theorem advance_push_of_panic {message : String} (panicked : s.panic = some message)
    (frame : Frame) : (s.push [frame]).advance = s.giveUp message frame := by
  cases s
  cases panicked
  rfl

theorem acts_push (calm : s.panic = none) (there : router < s.routers.length) (frame : Frame) :
    (s.push [frame]).acts router = frame.acts router (s.desk router).router s.accepts := by
  have found : (s.push [frame]).router? router = some (s.desk router).router :=
    router?_desk (s := s) there
  simp only [acts, found]
  simp only [push, calm, List.singleton_append]
  rfl

/-- Frames that concern a router are calls for it or its duty. -/
theorem callOf?_of_not_concerns (free : frame.concerns router = false) :
    frame.callOf? router = none := by
  cases frame with
  | call other call => simpa [Frame.concerns, Frame.callOf?] using free
  | _ => rfl

theorem not_concerns_of_plain (plain : frame.isPlain = true) : frame.concerns router = false := by
  cases frame with
  | deliver | call => cases plain
  | _ => rfl

theorem filter_concerns_append {pushed : List Frame}
    (free : ∀ frame ∈ pushed, frame.concerns router = false) (frames : List Frame) :
    (pushed ++ frames).filter (·.concerns router) = frames.filter (·.concerns router) := by
  rw [List.filter_append, List.filter_eq_nil_iff.mpr, List.nil_append]
  intro frame member
  rw [free frame member]
  exact Bool.false_ne_true

theorem filterMap_callOf?_append {pushed : List Frame}
    (free : ∀ frame ∈ pushed, frame.concerns router = false) (frames : List Frame) :
    (pushed ++ frames).filterMap (·.callOf? router) = frames.filterMap (·.callOf? router) := by
  rw [List.filterMap_append, List.filterMap_eq_nil_iff.mpr, List.nil_append]
  exact fun frame member => callOf?_of_not_concerns (free frame member)

/-- Work that leaves a router alone, and puts nothing of its on the stack, does not show at its
desk. -/
theorem desk_eq {pushed : List Frame} (same : t.router? router = s.router? router)
    (frames : t.frames = pushed ++ s.frames)
    (free : ∀ frame ∈ pushed, frame.concerns router = false) : t.desk router = s.desk router := by
  rw [desk, desk, same, inHand, inHand, frames, filterMap_callOf?_append free]

theorem Staffed.congr {pushed : List Frame} (staffed : s.Staffed router)
    (same : t.router? router = s.router? router) (frames : t.frames = pushed ++ s.frames)
    (free : ∀ frame ∈ pushed, frame.concerns router = false) : t.Staffed router := by
  have desk := desk_eq same frames free
  have inHand := congrArg Desk.inHand desk
  unfold Staffed
  rw [desk, show t.inHand router = s.inHand router from inHand, frames,
    filter_concerns_append free]
  exact staffed

theorem Grows.attends (grows : Grows s t) (attends : s.Attends router) :
    t.Attends router ∧ t.desk router = s.desk router := by
  obtain ⟨pushed, frames, plain⟩ := grows.frames
  have same : t.router? router = s.router? router := by rw [router?, grows.routers, router?]
  have free : ∀ frame ∈ pushed, frame.concerns router = false :=
    fun frame member => not_concerns_of_plain (plain frame member).1
  exact ⟨⟨grows.routers ▸ attends.there,
    attends.staffed.congr same frames free⟩, desk_eq same frames free⟩

theorem Attends.below (attends : (s.push [frame]).Attends router)
    (free : frame.concerns router = false) :
    s.Attends router ∧ (s.push [frame]).desk router = s.desk router := by
  have desk : (s.push [frame]).desk router = s.desk router :=
    desk_eq rfl (show (s.push [frame]).frames = [frame] ++ s.frames from rfl) (by simpa using free)
  refine ⟨⟨attends.there, ?_⟩, desk⟩
  have staffed := attends.staffed
  unfold Staffed at staffed ⊢
  rw [← desk, show s.inHand router = (s.push [frame]).inHand router from
    (congrArg Desk.inHand desk).symm, ← staffed]
  exact (filter_concerns_append (by simpa using free) s.frames).symm

theorem Changes.attends_ne {other : Nat} {after : Router Server Watcher} {pushed : List Frame}
    (changes : Changes other after pushed s t) (ne : other ≠ router)
    (free : ∀ frame ∈ pushed, frame.concerns router = false) (attends : s.Attends router) :
    t.Attends router ∧ t.desk router = s.desk router :=
  ⟨⟨changes.length ▸ attends.there,
    attends.staffed.congr (changes.router?_ne ne) changes.frames free⟩,
    desk_eq (changes.router?_ne ne) changes.frames free⟩

theorem filter_calls (router : Nat) (calls : List (Call Watcher)) (frames : List Frame) :
    (calls.map (Frame.call router) ++ frames).filter (·.concerns router) =
      calls.map (.call router) ++ frames.filter (·.concerns router) := by
  rw [List.filter_append, List.filter_eq_self.mpr]
  intro frame member
  obtain ⟨call, -, rfl⟩ := List.mem_map.mp member
  simp [Frame.concerns]

theorem filterMap_calls (router : Nat) (calls : List (Call Watcher)) (frames : List Frame) :
    (calls.map (Frame.call router) ++ frames).filterMap (·.callOf? router) =
      calls ++ frames.filterMap (·.callOf? router) := by
  rw [List.filterMap_append, List.filterMap_map]
  congr 1
  induction calls with
  | nil => rfl
  | cons call rest ih => simp_all [Frame.callOf?]

theorem Staffed.inHand (staffed : s.Staffed router)
    (free : (s.desk router).router.delivering = false) : s.inHand router = [] := by
  unfold Staffed at staffed
  rw [free, if_neg Bool.false_ne_true, List.filter_eq_nil_iff] at staffed
  refine List.filterMap_eq_nil_iff.mpr fun frame member => ?_
  exact callOf?_of_not_concerns (by simpa using staffed frame member)

/-- A delivery under way is one whose duty is on the stack. -/
theorem Staffed.delivering (staffed : s.Staffed router) (duty : .deliver router ∈ s.frames) :
    (s.desk router).router.delivering = true := by
  have member : Frame.deliver router ∈ s.frames.filter (·.concerns router) :=
    List.mem_filter.mpr ⟨duty, by simp [Frame.concerns]⟩
  rw [staffed] at member
  by_contra free
  rw [if_neg free] at member
  cases member

/-- At rest nobody has the duty, and no call is left. -/
theorem Staffed.rest (staffed : s.Staffed router) (rest : s.frames = []) :
    (s.desk router).router.delivering = false := by
  unfold Staffed at staffed
  cases duty : (s.desk router).router.delivering with
  | false => rfl
  | true => simp [rest, duty] at staffed

/-- A router that is replaced without taking the duty away keeps its desk in order. -/
theorem Changes.attends {after : Router Server Watcher}
    (changes : Changes router after (dutyAfter router (s.desk router).router after) s t)
    (kept : (s.desk router).router.delivering = true → after.delivering = true)
    (attends : s.Attends router) :
    t.Attends router ∧ t.desk router = ⟨after, (s.desk router).inHand⟩ := by
  have inHand : t.inHand router = s.inHand router := by
    rw [State.inHand, changes.frames, List.filterMap_append, List.filterMap_eq_nil_iff.mpr,
      List.nil_append, State.inHand]
    intro frame member
    rw [mem_dutyAfter member]
    rfl
  have desk : t.desk router = ⟨after, s.inHand router⟩ := by
    rw [State.desk, changes.router?_eq attends.there, inHand, Option.getD_some]
  refine ⟨⟨changes.length ▸ attends.there, ?_⟩, desk⟩
  have staffed := attends.staffed
  unfold Staffed at staffed ⊢
  rw [desk, inHand, changes.frames, List.filter_append, staffed]
  cases before : (s.desk router).router.delivering with
  | true => simp [dutyAfter, before, kept before]
  | false =>
    rw [attends.staffed.inHand before]
    cases now : after.delivering <;> simp [dutyAfter, before, now, Frame.concerns]

/-- With the duty on top of the stack no delivery is under way, and nothing below concerns the
router. -/
theorem Staffed.deliver (staffed : (s.push [.deliver router]).Staffed router) :
    (s.desk router).router.delivering = true ∧ (s.desk router).inHand = [] ∧
      s.frames.filter (·.concerns router) = [] := by
  replace staffed : (Frame.deliver router :: s.frames).filter (·.concerns router) =
      if (s.desk router).router.delivering then
        (s.inHand router).map (.call router) ++ [.deliver router]
      else [] := staffed
  rw [List.filter_cons_of_pos (by simp [Frame.concerns])] at staffed
  cases duty : (s.desk router).router.delivering with
  | false => simp [duty] at staffed
  | true =>
    rw [duty, if_pos rfl] at staffed
    rw [show (s.desk router).inHand = s.inHand router from rfl]
    cases calls : s.inHand router with
    | nil => simpa [calls] using staffed
    | cons call later => simp [calls] at staffed

/-- A call on top of the stack is the first one in hand. -/
theorem Staffed.call {call : Call Watcher}
    (staffed : (s.push [.call router call]).Staffed router) :
    (s.push [.call router call]).desk router = ⟨(s.desk router).router, call :: s.inHand router⟩ ∧
      s.Staffed router := by
  have inHand : (s.push [.call router call]).inHand router = call :: s.inHand router := by
    rw [State.inHand, push, List.singleton_append, List.filterMap_cons_some (b := call)]
    · rfl
    · simp [Frame.callOf?]
  have desk : (s.push [.call router call]).desk router =
      ⟨(s.desk router).router, call :: s.inHand router⟩ := by
    rw [State.desk, inHand]
    rfl
  refine ⟨desk, ?_⟩
  unfold Staffed at staffed ⊢
  rw [desk, inHand, push, List.singleton_append,
    List.filter_cons_of_pos (by simp [Frame.concerns])] at staffed
  cases duty : (s.desk router).router.delivering with
  | false => simp [duty] at staffed
  | true => simpa [duty] using staffed

/-- Work on another router does not show at the desk. -/
theorem enter_ne {other : Nat} (attends : s.Attends router) (ne : other ≠ router)
    (about : (∃ change, frame = .change other change) ∨ (∃ schema, frame = .adopt other schema) ∨
      frame = .deliver other) :
    (s.enter frame).Attends router ∧ (s.enter frame).desk router = s.desk router := by
  have away : ∀ frame ∈ [Frame.deliver other], frame.concerns router = false := by
    simpa [Frame.concerns] using ne
  cases there : s.router? other with
  | none =>
    obtain ⟨change, adopt, deliver⟩ := enter_missing there
    have same : s.enter frame = s := by
      rcases about with ⟨_, rfl⟩ | ⟨_, rfl⟩ | rfl
      · exact change _
      · exact adopt _
      · exact deliver
    rw [same]
    exact ⟨attends, rfl⟩
  | some found =>
    rcases about with ⟨change, rfl⟩ | ⟨schema, rfl⟩ | rfl
    · refine (change_changes there change).attends_ne ne (fun frame member => ?_) attends
      exact away frame (List.mem_singleton.mpr (mem_dutyAfter member))
    · exact (adopt_changes there schema).attends_ne ne nofun attends
    · cases next : found.nextDelivery? with
      | none => exact (deliverNext_changes_of_none there next).attends_ne ne nofun attends
      | some taken =>
        refine (deliverNext_changes_of_some there next).attends_ne ne (fun frame member => ?_)
          attends
        rcases List.mem_append.mp member with call | duty
        · obtain ⟨call, -, rfl⟩ := List.mem_map.mp call
          simpa [Frame.concerns] using ne
        · exact away frame duty

theorem callListener_attends {other : Nat} {call : Call Watcher}
    (known : (s.push [.call other call]).Known) (attends : s.Attends router) :
    (s.callListener call).Attends router ∧ (s.callListener call).desk router = s.desk router := by
  obtain ⟨found, there⟩ := known.listener
  exact (Grows.callListener there).attends ⟨attends.there, attends.staffed⟩

/-- The work on top of the stack, seen from a router. -/
theorem enter_step (known : (s.push [frame]).Known) (attends : (s.push [frame]).Attends router) :
    (s.enter frame).Attends router ∧ Desk.Step ((s.push [frame]).desk router)
      (frame.acts router (s.desk router).router s.accepts) ((s.enter frame).desk router) := by
  have quiet (free : frame.concerns router = false)
      (nothing : frame.acts router (s.desk router).router s.accepts = [])
      (shown : (s.enter frame).Attends router ∧ (s.enter frame).desk router = s.desk router) :
      (s.enter frame).Attends router ∧ Desk.Step ((s.push [frame]).desk router)
        (frame.acts router (s.desk router).router s.accepts) ((s.enter frame).desk router) := by
    rw [shown.2, (attends.below free).2, nothing]
    exact ⟨shown.1, .idle⟩
  have there : s.router? router = some (s.desk router).router := router?_desk attends.there
  cases frame with
  | change other change =>
    obtain ⟨below, view⟩ := attends.below rfl
    by_cases same : other = router
    · subst other
      obtain ⟨kept, shown⟩ := (change_changes there change).attends
        (fun duty => by rw [Router.onDuty_eq, Router.delivering_apply, duty, Bool.true_or]) below
      refine ⟨kept, ?_⟩
      simp only [enter, shown, view, Frame.acts, if_pos]
      exact .change s.accepts change
    · exact quiet rfl (if_neg same) (enter_ne below same (.inl ⟨change, rfl⟩))
  | adopt other schema =>
    obtain ⟨below, view⟩ := attends.below rfl
    by_cases same : other = router
    · subst other
      have changes : Changes router ((s.desk router).router.updateSchema schema)
          (dutyAfter router (s.desk router).router
            ((s.desk router).router.updateSchema schema)) s (s.adopt router schema) := by
        rw [show dutyAfter router (s.desk router).router
          ((s.desk router).router.updateSchema schema) = [] from if_pos rfl]
        exact adopt_changes there schema
      obtain ⟨kept, shown⟩ := changes.attends (fun duty => duty) below
      refine ⟨kept, ?_⟩
      simp only [enter, shown, view, Frame.acts, if_pos]
      exact .adopt schema
    · exact quiet rfl (if_neg same) (enter_ne below same (.inr (.inl ⟨schema, rfl⟩)))
  | deliver other =>
    by_cases same : other = router
    · subst other
      obtain ⟨duty, idle, free⟩ := attends.staffed.deliver
      have view : (s.push [.deliver router]).desk router = ⟨(s.desk router).router, []⟩ := by
        rw [← idle]
        rfl
      have none : s.frames.filterMap (·.callOf? router) = [] := idle
      cases next : (s.desk router).router.nextDelivery? with
      | none =>
        have changes := deliverNext_changes_of_none there next
        have shown : (s.deliverNext router).desk router =
            ⟨(s.desk router).router.stopDelivering, []⟩ := by
          rw [desk, changes.router?_eq attends.there, Option.getD_some, inHand, changes.frames,
            List.nil_append, none]
        refine ⟨⟨changes.length ▸ attends.there, ?_⟩, ?_⟩
        · unfold Staffed
          rw [enter, shown, changes.frames, List.nil_append, free]
          rfl
        · simp only [enter, shown, view, Frame.acts, if_pos, next, Option.map_none,
            Option.toList_none]
          exact .finish next
      | some taken =>
        obtain ⟨delivery, rest⟩ := taken
        have changes := deliverNext_changes_of_some there next
        have kept : rest.delivering = true := by
          rw [((Router.nextDelivery?_eq_some _ _ _).mp next).2]
          exact duty
        have shown : (s.deliverNext router).desk router = ⟨rest, delivery.calls⟩ := by
          rw [desk, changes.router?_eq attends.there, Option.getD_some, inHand, changes.frames,
            List.append_assoc, filterMap_calls, List.singleton_append,
            List.filterMap_cons_none rfl, none, List.append_nil]
        refine ⟨⟨changes.length ▸ attends.there, ?_⟩, ?_⟩
        · unfold Staffed
          rw [enter, shown, kept, if_pos rfl, changes.frames, List.append_assoc, filter_calls,
            List.singleton_append, List.filter_cons_of_pos (by simp [Frame.concerns]), free,
            show (s.deliverNext router).inHand router = delivery.calls from
              congrArg Desk.inHand shown]
        · simp only [enter, shown, view, Frame.acts, if_pos, next, Option.map_some,
            Option.toList_some]
          exact .begin next duty
    · have free : (Frame.deliver other).concerns router = false := by simpa [Frame.concerns]
      exact quiet free (if_neg same)
        (enter_ne (attends.below free).1 same (.inr (.inr rfl)))
  | call other call =>
    by_cases same : other = router
    · subst other
      obtain ⟨view, staffed⟩ := attends.staffed.call
      obtain ⟨kept, shown⟩ := callListener_attends known ⟨attends.there, staffed⟩
      refine ⟨kept, ?_⟩
      simp only [enter, shown, view, Frame.acts, if_pos]
      exact .call
    · have free : (Frame.call other call).concerns router = false := by simpa [Frame.concerns]
      exact quiet free (if_neg same) (callListener_attends known (attends.below free).1)
  | script | report | answer | answerClosed | keep | close | closeKept | complete
  | completeListener | release | finishRelease | releaseListener | finishListenerRelease
  | releaseListeners | letGo | closeAll | resume =>
    exact quiet rfl rfl
      ((enter_grows known.below.1.toNamesKnown rfl).attends (attends.below rfl).1)

end State
end RpcRouting.Session
