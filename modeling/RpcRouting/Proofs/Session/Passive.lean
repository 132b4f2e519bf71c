import RpcRouting.Proofs.Session.Runs
/-! Sessions whose listeners do nothing but listen. While deliveries are made nothing else is done,
no panic passes through them, and so a router is at rest whenever anything else is done. -/
namespace RpcRouting.Session

/-- A listener that takes no steps while it is called. -/
def Listener.IsPassive (listener : Listener) : Prop :=
  (∀ script ∈ listener.onAvailable, script = []) ∧ ∀ script ∈ listener.onUnavailable, script = []

/-- What stands on the stack above deliveries that passive listeners are told. -/
def Frame.isTelling : Frame → Bool
  | .call _ _ | .script [] | .answer _ => true
  | _ => false

namespace State

def Passive (s : State) : Prop := ∀ listener ∈ s.listeners, listener.IsPassive

/-- While deliveries are made nothing is done but to tell listeners. -/
def Attentive (s : State) : Prop :=
  ∀ above router below, s.frames = above ++ .deliver router :: below →
    s.panic = none ∧ ∀ frame ∈ above, frame.isTelling = true

/-- A move of a session whose listeners do nothing but listen. -/
def PassiveMove (router : Nat) (s : State) (acts : List (Act Server Watcher)) (t : State) : Prop :=
  Move router s acts t ∧ t.Passive

variable {s t : State} {router : Nat} {frame : Frame} {acts : List (Act Server Watcher)}

theorem Attentive.of_free (free : ∀ router, .deliver router ∉ s.frames) : s.Attentive := by
  intro above router below frames
  refine absurd ?_ (free router)
  rw [frames]
  simp

/-- Deliveries that are made on top of everything else. -/
theorem Attentive.of_duty {told rest : List Frame} (calm : s.panic = none)
    (frames : s.frames = told ++ .deliver router :: rest)
    (telling : ∀ frame ∈ told, frame.isTelling = true)
    (free : ∀ router, .deliver router ∉ rest) : s.Attentive := by
  intro above other below split
  refine ⟨calm, ?_⟩
  rw [frames] at split
  rcases List.append_eq_append_iff.mp split with ⟨middle, same, later⟩ | ⟨middle, same, later⟩
  · cases middle with
    | nil =>
      rw [List.append_nil] at same
      exact same ▸ telling
    | cons head tail =>
      obtain ⟨-, later⟩ := List.cons.inj later
      exact absurd (by simp [later]) (free other)
  · rw [same] at telling
    exact fun frame member => telling frame (List.mem_append_left _ member)

/-- Nothing is delivered while anything is done that is no part of it. -/
theorem Attentive.free (attentive : (s.push [frame]).Attentive) (other : frame.isTelling = false) :
    ∀ router, .deliver router ∉ s.frames := by
  intro router member
  obtain ⟨above, below, frames⟩ := List.append_of_mem member
  have telling := (attentive (frame :: above) router below (by simp [push, frames])).2 frame
    List.mem_cons_self
  rw [other] at telling
  contradiction

theorem Attentive.calm (attentive : s.Attentive) (duty : .deliver router ∈ s.frames) :
    s.panic = none := by
  obtain ⟨above, below, frames⟩ := List.append_of_mem duty
  exact (attentive above router below frames).1

/-- Work by which a listener is told something may be followed by more of it. -/
theorem Attentive.told {pushed : List Frame} (attentive : (s.push [frame]).Attentive)
    (frames : t.frames = pushed ++ s.frames) (telling : ∀ frame ∈ pushed, frame.isTelling = true)
    (panic : t.panic = s.panic) : t.Attentive := by
  intro above router below split
  rw [frames] at split
  rcases List.append_eq_append_iff.mp split with ⟨middle, same, rest⟩ | ⟨middle, same, rest⟩
  · obtain ⟨calm, told⟩ := attentive (frame :: middle) router below (by simp [push, rest])
    rw [panic, same]
    refine ⟨calm, fun other member => ?_⟩
    rcases List.mem_append.mp member with new | old
    · exact telling other new
    · exact told other (List.mem_cons_of_mem _ old)
  · cases middle with
    | nil =>
      obtain ⟨calm, -⟩ := attentive [frame] router below (by simpa [push] using rest.symm)
      rw [panic, ← List.append_nil above, ← same]
      exact ⟨calm, telling⟩
    | cons head tail =>
      obtain ⟨rfl, -⟩ := List.cons.inj rest
      have deliver := telling (.deliver router) (by simp [same])
      contradiction

theorem Grows.free (grows : Grows s t) (free : ∀ router, .deliver router ∉ s.frames) :
    ∀ router, .deliver router ∉ t.frames := by
  obtain ⟨pushed, frames, plain⟩ := grows.frames
  intro router member
  rw [frames] at member
  rcases List.mem_append.mp member with new | old
  · exact absurd (plain _ new).1 Bool.false_ne_true
  · exact free router old

theorem Passive.headD (passive : s.Passive) {found : Listener} {id : Nat}
    (there : s.listeners[id]? = some found) :
    found.onAvailable.headD [] = [] ∧ found.onUnavailable.headD [] = [] := by
  obtain ⟨available, unavailable⟩ := passive found (List.mem_of_getElem? there)
  constructor
  · cases scripts : found.onAvailable with
    | nil => rfl
    | cons first rest => exact available first (by simp [scripts])
  · cases scripts : found.onUnavailable with
    | nil => rfl
    | cons first rest => exact unavailable first (by simp [scripts])

/-- A passive listener takes no steps when it is called. -/
theorem callListener_frames (passive : s.Passive) {call : Call Watcher} {found : Listener}
    (there : s.listeners[call.listener.listener]? = some found) :
    (s.callListener call).frames = [.script [], .answer s.answer] ++ s.frames := by
  obtain ⟨available, unavailable⟩ := passive.headD there
  simp only [callListener, there]
  cases call.available with
  | true => exact congrArg (Frame.script · :: _) available
  | false => exact congrArg (Frame.script · :: _) unavailable

theorem enter_attentive (known : (s.push [frame]).Known) (passive : s.Passive)
    (calm : s.panic = none) (attentive : (s.push [frame]).Attentive) :
    (s.enter frame).Attentive := by
  cases frame with
  | change router change =>
    have free := attentive.free rfl
    cases there : s.router? router with
    | none =>
      rw [(enter_missing there).1]
      exact .of_free free
    | some found =>
      have changes := change_changes there change
      have frames := changes.frames
      unfold dutyAfter at frames
      split at frames
      · exact .of_free (frames ▸ free)
      · exact .of_duty (changes.panic.trans calm) (frames.trans (List.nil_append _).symm) nofun free
  | adopt router schema =>
    have free := attentive.free rfl
    cases there : s.router? router with
    | none =>
      rw [(enter_missing there).2.1]
      exact .of_free free
    | some found => exact .of_free ((adopt_changes there schema).frames ▸ free)
  | deliver router =>
    have free := attentive.free rfl
    cases there : s.router? router with
    | none =>
      rw [(enter_missing there).2.2]
      exact .of_free free
    | some found =>
      cases next : found.nextDelivery? with
      | none => exact .of_free ((deliverNext_changes_of_none there next).frames ▸ free)
      | some taken =>
        have changes := deliverNext_changes_of_some there next
        refine .of_duty (changes.panic.trans calm)
          (changes.frames.trans (List.append_assoc ..)) (fun frame member => ?_) free
        obtain ⟨call, -, rfl⟩ := List.mem_map.mp member
        rfl
  | call router call =>
    obtain ⟨found, there⟩ := known.listener
    refine attentive.told (callListener_frames passive there) (by simp [Frame.isTelling]) ?_
    simp only [enter, State.callListener, there]
    rfl
  | answer answer => exact attentive.told (List.nil_append _).symm nofun rfl
  | script steps =>
    cases steps with
    | nil => exact attentive.told (List.nil_append _).symm nofun rfl
    | cons step rest =>
      exact .of_free ((enter_grows known.below.1.toNamesKnown rfl).free (attentive.free rfl))
  | report | answerClosed | keep | close | closeKept | complete | completeListener | release
  | finishRelease | releaseListener | finishListenerRelease | releaseListeners | letGo | closeAll
  | resume =>
    exact .of_free ((enter_grows known.below.1.toNamesKnown rfl).free (attentive.free rfl))

theorem Move.attentive (move : Move router s acts t) (known : s.Known) (passive : s.Passive)
    (attentive : s.Attentive) : t.Attentive := by
  cases move with
  | take rest calm step =>
    have grows := take_grows (s := { s with log := [] }) ⟨known.implementations, known.listeners⟩ step
    exact .of_free (grows.free (by simp [rest]))
  | land rest panicked => exact .of_free (by simp [rest])
  | work busy =>
    obtain ⟨below, frame, rfl⟩ := eq_push_of_busy busy
    cases panicked : below.panic with
    | none =>
      rw [advance_push panicked]
      exact enter_attentive known passive panicked attentive
    | some message =>
      -- A panic comes up only where nothing is delivered.
      have free : ∀ router, .deliver router ∉ (below.push [frame]).frames := by
        intro router duty
        have calm : below.panic = none := attentive.calm duty
        rw [panicked] at calm
        contradiction
      rw [advance_push_of_panic panicked]
      have grows := giveUp_grows (s := below) message fun router same =>
        free router (same ▸ List.mem_cons_self)
      exact .of_free (grows.free fun router member => free router (List.mem_cons_of_mem _ member))

/-- No panic passes through the deliveries of a router. -/
theorem Attentive.undisturbed (attentive : s.Attentive) (staffed : s.Staffed router) :
    s.disturbed router = false := by
  cases frames : s.frames with
  | nil => simp [disturbed, frames]
  | cons frame rest =>
    cases concerns : frame.concerns router with
    | false => simp [disturbed, frames, concerns]
    | true =>
      have duty : .deliver router ∈ s.frames := by
        have member : frame ∈ s.frames.filter (·.concerns router) :=
          List.mem_filter.mpr ⟨by simp [frames], concerns⟩
        rw [staffed] at member
        split at member
        · rename_i duty
          have last : Frame.deliver router ∈ s.frames.filter (·.concerns router) := by
            rw [staffed, if_pos duty]
            simp
          exact (List.mem_filter.mp last).1
        · cases member
      simp [disturbed, attentive.calm duty]

theorem start_passive (settings : RouterSettings) (wiring : Wiring) :
    (start settings wiring).Passive := nofun

/-- What is true at any time of a session whose listeners are passive, seen from a router. -/
structure Steady (router : Nat) (s : State) : Prop where
  known : s.Known
  passive : s.Passive
  attentive : s.Attentive
  attends : s.Attends router
  settled : (s.desk router).Settled
  orderly : (s.desk router).router.Orderly

theorem start_steady (settings : RouterSettings) (wiring : Wiring) (there : router < 2) :
    (start settings wiring).Steady router := by
  have desk := start_desk settings wiring there
  refine ⟨start_known settings wiring, start_passive settings wiring, .of_free nofun,
    start_attends settings wiring there, ?_, ?_⟩
  · rw [desk]
    exact ⟨fun _ => rfl, fun _ => rfl⟩
  · rw [desk]
    exact .ofSettings _

theorem PassiveMove.steady (move : PassiveMove router s acts t) (steady : s.Steady router) :
    t.Steady router ∧ CalmMove router s acts t := by
  obtain ⟨known, passive, attentive, attends, settled, orderly⟩ := steady
  have calm := attentive.undisturbed attends.staffed
  obtain ⟨kept, -, step⟩ := Move.turn move.1 known attends
  have step := step calm
  exact ⟨⟨Move.known move.1 known, move.2, Move.attentive move.1 known passive attentive, kept,
    step.settled settled, step.orderly orderly⟩, move.1, calm⟩

theorem run_steady (run : Run (PassiveMove router) s acts t) (steady : s.Steady router) :
    t.Steady router ∧ Run (CalmMove router) s acts t := by
  induction run with
  | still => exact ⟨steady, .still⟩
  | onward _ move ih =>
    obtain ⟨kept, calm⟩ := PassiveMove.steady move ih.1
    exact ⟨kept, ih.2.onward calm⟩

/-- A router is at rest whenever anything is done that is no part of its deliveries. -/
theorem Steady.idle (steady : s.Steady router) {rest : List Frame} (top : s.frames = frame :: rest)
    (other : frame.isTelling = false) (plain : frame.isPlain = true) :
    (s.desk router).router.delivering = false ∧ (s.desk router).router.pending = [] := by
  obtain ⟨below, rfl, rfl⟩ := eq_push_of_top top
  have free : ∀ router, .deliver router ∉ (below.push [frame]).frames := by
    intro router member
    rcases List.mem_cons.mp member with same | old
    · rw [← same] at plain
      contradiction
    · exact steady.attentive.free other router old
  have idle : ((below.push [frame]).desk router).router.delivering = false := by
    have staffed := steady.attends.staffed
    unfold Staffed at staffed
    by_contra busy
    rw [if_pos (by simpa using busy)] at staffed
    have member : Frame.deliver router ∈ (below.push [frame]).frames.filter (·.concerns router) := by
      rw [staffed]
      simp
    exact free router (List.mem_filter.mp member).1
  exact ⟨idle, steady.settled.pending idle⟩

/-- A steady session stays so when other work is on top instead. -/
theorem Steady.instead {other : Frame} (steady : (s.push [frame]).Steady router)
    (telling : frame.isTelling = false) (plain : frame.isPlain = true)
    (plain' : other.isPlain = true) (knows : s.KnowsFrame other) :
    (s.push [other]).Steady router := by
  have free := steady.attentive.free telling
  have concerns : frame.concerns router = false := not_concerns_of_plain plain
  have grows : Grows s (s.push [other]) := .push s (by simp [plain', knows])
  obtain ⟨attends, view⟩ := steady.attends.below concerns
  obtain ⟨attends', view'⟩ := grows.attends attends
  have same := view'.trans view.symm
  refine ⟨grows.known steady.known.below.1, steady.passive, .of_free fun router member => ?_,
    attends', same ▸ steady.settled, same ▸ steady.orderly⟩
  rcases List.mem_cons.mp member with here | below
  · rw [← here] at plain'
    contradiction
  · exact free router below

/-! Passive sessions that are run. -/

instance (listener : Listener) : Decidable listener.IsPassive :=
  inferInstanceAs (Decidable (_ ∧ _))

instance (s : State) : Decidable s.Passive :=
  inferInstanceAs (Decidable (∀ listener ∈ s.listeners, listener.IsPassive))

/-- Whether listeners are passive all through so many pieces of work. -/
def passiveFor : Nat → State → Bool
  | 0, _ => true
  | fuel + 1, s => s.frames.isEmpty || decide s.advance.Passive && passiveFor fuel s.advance

theorem run_passive_work {fuel : Nat} (passive : passiveFor fuel s = true) :
    Run (PassiveMove router) s (s.actsFor router fuel) (State.run fuel s) := by
  refine run_of_work (actsFor router) (passiveFor · · = true) (fun _ => rfl) (fun _ _ => rfl) ?_
    passive
  intro fuel s busy passive
  obtain ⟨here, later⟩ : s.advance.Passive ∧ passiveFor fuel s.advance = true := by
    simpa [passiveFor, busy] using passive
  exact ⟨⟨.work busy, here⟩, later⟩

/-- Whether listeners are passive while steps are taken one after the other. -/
def passiveAfter (fuel : Nat) (s : State) : List Step → Bool
  | [] => true
  | step :: rest =>
    let taken := State.take { s with log := [] } step
    s.frames.isEmpty && s.panic.isNone && decide taken.Passive && passiveFor fuel taken &&
      passiveAfter fuel (State.run fuel taken) rest

theorem run_passive_after {fuel : Nat} {steps : List Step}
    (passive : s.passiveAfter fuel steps = true) :
    Run (PassiveMove router) s (s.actsAfter router fuel steps) (s.after fuel steps) := by
  induction steps generalizing s with
  | nil => exact .still
  | cons step rest ih =>
    simp only [passiveAfter, Bool.and_eq_true, List.isEmpty_iff, Option.isNone_iff_eq_none,
      decide_eq_true_eq] at passive
    obtain ⟨⟨⟨⟨idle, calm⟩, taken⟩, worked⟩, later⟩ := passive
    have first : Run (PassiveMove router) s [] (State.take { s with log := [] } step) :=
      .single ⟨.take idle calm step, taken⟩
    exact first.append ((run_passive_work worked).append (ih later))

end State
end RpcRouting.Session
