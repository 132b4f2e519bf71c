import RpcRouting.Proofs.Session.Dealing
import RpcRouting.Proofs.Session.Lapsing
/-! Registrations behind facades are released exactly once, whatever is behind the facades, and so
also in every run of a session. -/
namespace RpcRouting.Session.State
variable {s t : State} {passed now : List (Deal Handle)} {services : List (Option Nat)}

/-! Moves. -/

/-- A session in which what it has is alive, and handles are closed when they are to be. -/
structure Tidy (services : List (Option Nat)) (s : State) : Prop where
  secure : s.Secure services
  prompt : Prompt s.frames s.panic

theorem dealings_eq {rest pushed : List Frame} (below : s.frames.tail = rest)
    (frames : t.frames = pushed ++ rest) :
    s.dealings t = s.passes ++ pushed.flatMap Frame.begins := by
  unfold dealings
  rw [below, frames, List.length_append, Nat.add_sub_cancel, List.take_left]

theorem passes_of_rest (rest : s.frames = []) : s.passes = [] := by
  unfold passes
  rw [rest]

/-- A move of a session is a run of its facades. -/
theorem move_dealings {router : Nat} {acts : List (Act Server Watcher)} (move : Move router s acts t)
    (tidy : s.Tidy services) (sound : Sound passed s.custody) :
    Run Custody.Step s.custody (s.dealings t) t.custody ∧ t.Tidy services := by
  cases move with
  | take rest calm step =>
    have cleared : Aside s { s with log := [] } := .of_eq rfl rfl rfl
    have works := take_works (cleared.secure tidy.secure) step
    obtain ⟨pushed, frames, prompt, run⟩ := works.steps
    have frames : (State.take { s with log := [] } step).frames = pushed ++ [] := by
      rw [frames, ← rest]
    refine ⟨?_, works.secure (cleared.secure tidy.secure), ?_⟩
    · rw [dealings_eq (by rw [rest, List.tail_nil]) frames, passes_of_rest rest]
      exact cleared.custody ▸ run
    · rw [frames]
      exact prompt.append (by simp)
  | work busy =>
    obtain ⟨below, frame, rfl⟩ := eq_push_of_busy busy
    have secure : below.Secure services := tidy.secure
    have free : ∀ handle, .close handle ∉ below.frames := tidy.prompt.below
    cases panicked : below.panic with
    | none =>
      have passes : (below.push [frame]).passes = below.deals frame := by
        rw [State.passes, push, panicked]
        rfl
      have works := enter_works sound secure panicked
      obtain ⟨pushed, frames, prompt, run⟩ := works.steps
      rw [advance_push panicked]
      refine ⟨?_, works.secure secure, frames ▸ prompt.append free⟩
      rw [dealings_eq (show (below.push [frame]).frames.tail = below.frames from rfl) frames, passes]
      exact run
    | some message =>
      have passes : (below.push [frame]).passes = losses frame := by
        rw [State.passes, push, panicked]
        rfl
      have stays : ∀ handle, frame ≠ .close handle := by
        rintro handle rfl
        refine tidy.prompt.calm ?_ handle List.mem_cons_self
        rw [show (below.push [.close handle]).panic = below.panic from rfl, panicked]
        exact Option.some_ne_none _
      have works := giveUp_works sound message stays
      obtain ⟨pushed, frames, prompt, run⟩ := works.steps
      rw [advance_push_of_panic panicked]
      refine ⟨?_, works.secure secure, frames ▸ prompt.append free⟩
      rw [dealings_eq (show (below.push [frame]).frames.tail = below.frames from rfl) frames, passes]
      exact run
  | @land message _ rest panicked =>
    have landed : State.frames { s with answer := .panicked message, panic := none } = [] ++ [] :=
      rest
    refine ⟨?_, tidy.secure, ?_⟩
    · rw [dealings_eq (by rw [rest, List.tail_nil]) landed, passes_of_rest rest]
      exact .still
    · exact .of_forall (by simp [rest]) _

/-! Runs. -/

/-- A move of a session, with what passes between its facades and its routers. -/
def Dealing (s : State) (deals : List (Deal Handle)) (t : State) : Prop :=
  deals = s.dealings t ∧ ∃ router acts, Move router s acts t

theorem start_tidy (settings : RouterSettings) (wiring : Wiring) :
    (start settings wiring).Tidy ((start settings wiring).facades.map (·.service)) := by
  refine ⟨⟨fun id has => ?_, rfl⟩, .of_forall (by simp [start]) _⟩
  obtain ⟨layout, order⟩ := wiring
  cases layout with
  | two =>
    obtain rfl | rfl : 0 = id ∨ 1 = id := by simpa [start, Targets.hasFacade] using has
    · exact ⟨_, rfl, rfl⟩
    · exact ⟨_, rfl, rfl⟩
  | single | own | stub | split =>
    obtain rfl : 0 = id := by simpa [start, Targets.hasFacade] using has
    exact ⟨_, rfl, rfl⟩

theorem start_custody (settings : RouterSettings) (wiring : Wiring) :
    (start settings wiring).custody = .fresh (start settings wiring).facades.length := by
  obtain ⟨layout, order⟩ := wiring
  cases layout <;> rfl

/-- A session, seen from its facades, is a run of theirs. -/
theorem run_dealings (run : Run Dealing s now t) (tidy : s.Tidy services)
    (sound : Sound passed s.custody) :
    Run Custody.Step s.custody now t.custody ∧ t.Tidy services := by
  induction run with
  | still => exact ⟨.still, tidy⟩
  | onward _ dealing ih =>
    obtain ⟨rfl, router, acts, move⟩ := dealing
    obtain ⟨path, tidy'⟩ := ih
    obtain ⟨further, tidy''⟩ := move_dealings move tidy' (sound.run path)
    exact ⟨path.append further, tidy''⟩

theorem start_sound (settings : RouterSettings) (wiring : Wiring) :
    Sound [] (start settings wiring).custody := by
  rw [start_custody]
  exact sound_fresh _

/-- What passes between facades and routers in so many pieces of work. -/
def dealingsFor : Nat → State → List (Deal Handle)
  | 0, _ => []
  | fuel + 1, s =>
    if s.frames.isEmpty then [] else s.dealings s.advance ++ dealingsFor fuel s.advance

theorem run_dealing_work (fuel : Nat) (s : State) :
    Run Dealing s (dealingsFor fuel s) (State.run fuel s) :=
  run_of_work dealingsFor (fun _ _ => True) (fun _ => rfl) (fun _ _ => rfl)
    (fun _ _ busy _ => ⟨⟨rfl, 0, _, .work busy⟩, trivial⟩) trivial

/-- What passes in steps taken one after the other, with so many pieces of work for each. -/
def dealingsAfter (fuel : Nat) (s : State) : List Step → List (Deal Handle)
  | [] => []
  | step :: rest =>
    let taken := State.take { s with log := [] } step
    s.dealings taken ++ dealingsFor fuel taken ++ dealingsAfter fuel (State.run fuel taken) rest

/-- Whether the work for each step is done before the next one is taken, without a panic. -/
def restsAfter (fuel : Nat) (s : State) : List Step → Bool
  | [] => true
  | step :: rest => s.frames.isEmpty && s.panic.isNone &&
      restsAfter fuel (State.run fuel (State.take { s with log := [] } step)) rest

theorem run_dealing_after {fuel : Nat} {steps : List Step} (rests : s.restsAfter fuel steps = true) :
    Run Dealing s (s.dealingsAfter fuel steps) (s.after fuel steps) := by
  induction steps generalizing s with
  | nil => exact .still
  | cons step rest ih =>
    simp only [restsAfter, Bool.and_eq_true, List.isEmpty_iff, Option.isNone_iff_eq_none] at rests
    obtain ⟨⟨idle, calm⟩, later⟩ := rests
    have taken : Dealing s (s.dealings (State.take { s with log := [] } step))
        (State.take { s with log := [] } step) := ⟨rfl, 0, _, .take idle calm step⟩
    exact ((Run.single taken).append (run_dealing_work fuel _)).append (ih later)

/-! What is released is closed. -/

theorem released_not_mem_closes (s : State) (handle other : Handle) :
    .released other ∉ s.closes handle := by
  unfold closes
  split
  · split <;> simp
  · split <;> simp
  · simp

/-- Nothing is released but by the work that closes it. -/
theorem top_of_released {handle : Handle} (released : .released handle ∈ s.dealings t) :
    s.panic = none ∧ ∃ below : State, s = below.push [.close handle] := by
  rcases List.mem_append.mp released with passed | begun
  · unfold passes at passed
    split at passed
    · cases passed
    · rename_i frame below top
      split at passed
      · rename_i calm
        refine ⟨Option.isNone_iff_eq_none.mp calm, ?_⟩
        obtain ⟨below, same, -⟩ := eq_push_of_top top
        cases frame with
        | close other =>
          rcases List.mem_cons.mp passed with closed | also
          · cases closed
            exact ⟨below, same⟩
          · exact absurd also (released_not_mem_closes s other handle)
        | closeKept kept =>
          simp only [deals] at passed
          cases there : s.handles[kept]? with
          | none => simp [there] at passed
          | some other =>
            rw [there] at passed
            exact absurd passed (released_not_mem_closes s other handle)
        | _ => simp [deals] at passed
      · unfold losses at passed
        cases frame with
        | letGo resource => cases resource <;> simp [Frame.duty?, Duty.cut?] at passed
        | _ => simp [Frame.duty?, Duty.cut?] at passed
  · obtain ⟨frame, -, begins⟩ := List.mem_flatMap.mp begun
    cases frame <;> simp [Frame.begins] at begins

theorem Move.elsewhere {other : Nat} {acts : List (Act Server Watcher)} (move : Move other s acts t)
    (router : Nat) : ∃ acts, Move router s acts t := by
  cases move with
  | take rest calm step => exact ⟨[], .take rest calm step⟩
  | work busy => exact ⟨s.acts router, .work busy⟩
  | land rest panicked => exact ⟨[], .land rest panicked⟩

theorem Dealing.move (dealing : Dealing s now t) (router : Nat) : ∃ acts, Move router s acts t := by
  obtain ⟨-, other, acts, move⟩ := dealing
  exact Move.elsewhere move router

theorem run_moves (run : Run Dealing s now t) (router : Nat) :
    ∃ acts, Run (Move router) s acts t := by
  induction run with
  | still => exact ⟨[], .still⟩
  | onward _ dealing ih =>
    obtain ⟨before, path⟩ := ih
    obtain ⟨acts, move⟩ := Dealing.move dealing router
    exact ⟨before ++ acts, path.onward move⟩

/-- A handle counts as released by the work that closes it and makes the release that it is for, and
an open registration with a router is taken out of the router by its release. -/
structure ReleasesByClosing (s : State) : Prop where
  closes : ∀ handle t, .released handle ∈ s.dealings t → s.releasing? = handle.release
  withdraws : ∀ router, router < 2 → s.Withdraws router

theorem releasing?_of_released {handle : Handle} (released : .released handle ∈ s.dealings t) :
    s.releasing? = handle.release := by
  obtain ⟨calm, below, rfl⟩ := top_of_released released
  simp only [releasing?, calm]
  rfl

/-- A facade over something that hands out numbers, with an implementation entered or not. -/
def numbering : Bool → Holding Nat Nat Nat
  | true => ⟨⟨2, [(1, ⟨5, 6, none⟩)], [(6, 1)], []⟩, .alive⟩
  | false => ⟨⟨2, [], [], []⟩, .alive⟩

def numbered (entered : Bool) (duties : List (Duty Nat)) : Custody Nat Nat Nat :=
  ⟨[numbering entered], duties⟩

theorem step_numbered {before later : Bool} (popped pushed : List (Duty Nat))
    (turn : Turn 0 below (numbering before) popped made (numbering later) pushed) :
    Custody.Step (numbered before (popped ++ below)) made (numbered later (pushed ++ below)) :=
  .turn 0 popped rfl rfl turn

theorem run_numbered : Run Custody.Step (.fresh 1)
    [.began 0 1, .closing 0, .handed 0 1 7, .released 7] (numbered false []) := by
  have register : Custody.Step (.fresh 1) [.began 0 1] (numbered true [.complete 0 1, .call 0]) :=
    .turn 0 [] rfl rfl (Turn.register 5 6 : Turn 0 _ ⟨.empty, .alive⟩ _ _ _ _)
  have all : [1].Perm (numbering true).roster.numbers := .refl _
  have shut : Custody.Step (numbered true [.complete 0 1, .call 0]) [.closing 0]
      (numbered true [.release 0 1, .releaseListeners 0, .call 0, .complete 0 1, .call 0]) :=
    step_numbered [] [.release 0 1, .releaseListeners 0, .call 0] (.shut all)
  have entered : (numbering true).roster.record? 1 = some ⟨5, 6, none⟩ := rfl
  have release : Custody.Step
      (numbered true [.release 0 1, .releaseListeners 0, .call 0, .complete 0 1, .call 0]) []
      (numbered true [.finishRelease 0 1, .releaseListeners 0, .call 0, .complete 0 1, .call 0]) :=
    step_numbered [.release 0 1] [.finishRelease 0 1] (.release entered)
  have finish : Custody.Step
      (numbered true [.finishRelease 0 1, .releaseListeners 0, .call 0, .complete 0 1, .call 0]) []
      (numbered false [.releaseListeners 0, .call 0, .complete 0 1, .call 0]) :=
    step_numbered [.finishRelease 0 1] [] .finishRelease
  have none : [].Perm (numbering false).roster.listenerNumbers := .refl _
  have listeners : Custody.Step
      (numbered false [.releaseListeners 0, .call 0, .complete 0 1, .call 0]) []
      (numbered false [.call 0, .complete 0 1, .call 0]) :=
    step_numbered [.releaseListeners 0] [] (.releaseListeners none)
  have back : Custody.Step (numbered false [.call 0, .complete 0 1, .call 0]) []
      (numbered false [.complete 0 1, .call 0]) := step_numbered [.call 0] [] .back
  have orphan : Custody.Step (numbered false [.complete 0 1, .call 0]) [.handed 0 1 7]
      (numbered false [.close 7, .call 0]) :=
    step_numbered [.complete 0 1] [.close 7] (.orphan 7 rfl)
  have close : Custody.Step (numbered false [.close 7, .call 0]) [.released 7]
      (numbered false [.call 0]) := .close
  have last : Custody.Step (numbered false [.call 0]) [] (numbered false []) :=
    step_numbered [.call 0] [] .back
  exact ((((((((Run.single register).onward shut).onward release).onward finish).onward
    listeners).onward back).onward orphan).onward close).onward last

/-- A listener closes the facade as soon as it hears of the implementation that is being
registered. -/
def closesFacade : List Step :=
  [.listen .facade "heard" "closer" (some ⟨none, [[.closeFacade .facade]], []⟩),
    .register .facade "served" "server" (some ⟨1, .echo, []⟩) [⟨"a", none⟩]]

def dealtWhileRegistering : List (Deal Handle) :=
  (start .default .single).dealingsAfter 60 closesFacade

def closedWhileRegistering : State := (start .default .single).after 60 closesFacade

end RpcRouting.Session.State
