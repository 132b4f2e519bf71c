import RpcRouting.Proofs.Session.Matching
/-! Two sessions in lockstep. They take the same steps, but for the order in which registrations
enumerate their identifiers, and each piece of work keeps them the same up to such orders. So nobody
can tell one from the other, except by the order of identifiers within one call of a listener. -/
namespace RpcRouting
open Session

/-- The same report, but for the order in which listeners are told of several identifiers at once. -/
structure StepReport.Shuffled (report other : StepReport) : Prop where
  answer : other.answer = report.answer
  log : List.Forall₂ Event.Shuffled report.log other.log
  facade : other.facade = report.facade
  facade2 : other.facade2 = report.facade2
  router : other.router = report.router
  second : other.second = report.second

namespace Session

/-- The order of identifiers does not count for the size of a step. -/
theorem Step.Shuffled.size {step step' : Step} (shuffled : step.Shuffled step') :
    step'.size = step.size := by
  -- A step has scripts in it, so that the induction goes over steps, scripts and lists of scripts.
  refine @Step.Shuffled.rec (fun step step' _ => step'.size = step.size)
    (fun scripts scripts' _ => scriptsSize scripts' = scriptsSize scripts)
    (fun script script' _ => scriptSize script' = scriptSize script)
    ?_ ?_ ?_ ?_ ?_ ?_ ?_ ?_ _ _ shuffled
  · intro _ _ _ _ _ _ _ _ _ _ _ scripts
    exact congrArg (1 + ·) scripts
  · intros
    rfl
  · intro _ _ _ _ _ _ _ _ _ _ gains losses
    simp only [Step.size, gains, losses]
  · intro _
    rfl
  · rfl
  · intro _ _ _ _ _ _ here rest
    simp only [scriptsSize, here, rest]
  · rfl
  · intro _ _ _ _ _ _ here rest
    simp only [scriptSize, here, rest]

theorem scriptSize_eq_of_shuffled {steps steps' : List Step}
    (same : List.Forall₂ Step.Shuffled steps steps') : scriptSize steps' = scriptSize steps := by
  induction same with
  | nil => rfl
  | cons here _ ih => simp only [scriptSize, here.size, ih]

/-- A sorted list does not tell in which order it was given. -/
theorem mergeSort_eq_of_perm {texts texts' : List String} (order : texts.Perm texts') :
    texts'.mergeSort (fun a b => a ≤ b) = texts.mergeSort fun a b => a ≤ b := by
  have sorted (texts : List String) :
      (texts.mergeSort fun a b => a ≤ b).Pairwise fun a b => decide (a ≤ b) = true := by
    refine List.pairwise_mergeSort (fun a b c => ?_) (fun a b => ?_) texts
    · simpa using String.le_trans
    · simpa using String.le_total a b
  refine List.Perm.eq_of_pairwise (fun a b _ _ => ?_) (sorted texts') (sorted texts) ?_
  · simpa using String.le_antisymm
  · exact (List.mergeSort_perm ..).trans (order.symm.trans (List.mergeSort_perm ..).symm)

namespace State

/-- A session after steps taken one after the other, each with all that follows from it. -/
def performAll (fuel : Nat) (s : State) (steps : List Step) : State :=
  steps.foldl (·.perform fuel ·) s

namespace Shuffled
variable {s t : State}

/-! Work. -/

theorem runScript (shuffled : s.Shuffled t) {steps steps' : List Step}
    (same : List.Forall₂ Step.Shuffled steps steps') :
    (s.enter (.script steps)).Shuffled (t.enter (.script steps')) := by
  cases same with
  | nil => exact shuffled
  | cons here rest =>
    have name : ∀ {step step' : Step}, step.Shuffled step' → step'.name = step.name := by
      rintro _ _ ⟨⟩ <;> rfl
    simp only [State.enter, name here]
    exact (shuffled.push (.cons (.same _) (.cons (.script rest) .nil))).take here

theorem enter (shuffled : s.Shuffled t) {frame frame' : Frame} (same : frame.Shuffled frame') :
    (s.enter frame).Shuffled (t.enter frame') := by
  cases same with
  | script same => exact shuffled.runScript same
  | change router same => exact shuffled.change router same
  | call router same => exact shuffled.callListener same
  | same =>
    cases frame with
    | script steps => exact shuffled.runScript (List.forall₂_same.mpr fun step _ => .same step)
    | report name =>
      simp only [State.enter, shuffled.answer]
      exact shuffled.emit (.same _)
    | answer answer => exact shuffled.reply answer
    | answerClosed handle =>
      simp only [State.enter, shuffled.isClosed]
      exact shuffled.reply _
    | change router change => exact shuffled.change router (.same change)
    | adopt router schema => exact shuffled.adopt router schema
    | deliver router => exact shuffled.deliverNext router
    | call router call => exact shuffled.callListener ⟨rfl, rfl, rfl, .refl _⟩
    | keep name handle answer => exact shuffled.keep name handle answer
    | close handle => exact shuffled.close handle
    | closeKept handle => exact shuffled.closeKept handle
    | complete facade id underlying => exact shuffled.complete facade id underlying
    | completeListener facade id underlying => exact shuffled.completeListener facade id underlying
    | release facade id => exact shuffled.beginRelease facade id
    | finishRelease facade id => exact shuffled.finishRelease facade id
    | releaseListener facade id => exact shuffled.beginListenerRelease facade id
    | finishListenerRelease id => exact shuffled.note _ _ _
    | releaseListeners facade => exact shuffled.releaseListeners facade
    | letGo resource => exact shuffled.letGo resource
    | closeAll handles =>
      cases handles with
      | nil => exact shuffled
      | cons handle rest => exact shuffled.pushSame _
    | resume message => exact { shuffled with panic := rfl }

theorem giveUp (shuffled : s.Shuffled t) (message : String) {frame frame' : Frame}
    (same : frame.Shuffled frame') :
    (s.giveUp message frame).Shuffled (t.giveUp message frame') := by
  have calmed : State.Shuffled { s with panic := none } { t with panic := none } :=
    { shuffled with panic := rfl }
  cases same with
  | script | change | call => exact shuffled
  | same =>
    cases frame with
    | deliver router => exact shuffled.modifyRouter router fun same => same.stopDelivering
    | letGo resource => exact (calmed.pushSame _).letGo resource
    | closeAll handles => exact calmed.pushSame _
    | _ => exact shuffled

theorem advance (shuffled : s.Shuffled t) : s.advance.Shuffled t.advance := by
  have frames := shuffled.frames
  cases top : s.frames with
  | nil =>
    rw [top, List.forall₂_nil_left_iff] at frames
    simp only [State.advance, top, frames]
    exact shuffled
  | cons frame rest =>
    rw [top, List.forall₂_cons_left_iff] at frames
    obtain ⟨frame', rest', same, later, top'⟩ := frames
    have below : State.Shuffled { s with frames := rest } { t with frames := rest' } :=
      { shuffled with frames := later }
    cases panic : s.panic with
    | none =>
      have panic' := shuffled.panic.trans panic
      have work : s.advance = State.enter { s with frames := rest } frame := by
        simp only [State.advance, top, panic]
      have work' : t.advance = State.enter { t with frames := rest' } frame' := by
        simp only [State.advance, top', panic']
      rw [work, work']
      exact below.enter same
    | some message =>
      have panic' := shuffled.panic.trans panic
      have loss : s.advance = State.giveUp { s with frames := rest } message frame := by
        simp only [State.advance, top, panic]
      have loss' : t.advance = State.giveUp { t with frames := rest' } message frame' := by
        simp only [State.advance, top', panic']
      rw [loss, loss']
      exact below.giveUp message same

theorem run (shuffled : s.Shuffled t) (fuel : Nat) :
    (State.run fuel s).Shuffled (State.run fuel t) := by
  induction fuel generalizing s t with
  | zero => exact shuffled
  | succ fuel ih =>
    rw [State.run, State.run, isEmpty_eq_of_forall₂ shuffled.frames]
    split
    · exact shuffled
    · exact ih shuffled.advance

theorem perform (shuffled : s.Shuffled t) (fuel : Nat) {step step' : Step}
    (same : step.Shuffled step') : (s.perform fuel step).Shuffled (t.perform fuel step') := by
  have cleared : State.Shuffled { s with log := [] } { t with log := [] } :=
    { shuffled with log := .nil }
  have done := (cleared.take same).run fuel
  simp only [State.perform, done.panic]
  split
  · exact done
  · exact { done with answer := rfl, panic := rfl }

theorem refl (s : State) : s.Shuffled s where
  targets := rfl
  routers := List.forall₂_same.mpr fun router _ => .refl router
  facades := rfl
  implementations := List.forall₂_same.mpr fun _ _ => ⟨rfl, rfl, rfl, shuffled_scripts _⟩
  listeners :=
    List.forall₂_same.mpr fun _ _ => ⟨rfl, rfl, rfl, shuffled_scripts _, shuffled_scripts _⟩
  handles := rfl
  implementationNames := rfl
  listenerNames := rfl
  handleNames := rfl
  frames := Frame.shuffled_refl s.frames
  log := List.forall₂_same.mpr fun event _ => .same event
  answer := rfl
  panic := rfl

/-! Whole sessions. -/

theorem reportFacade (shuffled : s.Shuffled t) (target : Target) :
    t.reportFacade target = s.reportFacade target := by
  rw [State.reportFacade, shuffled.targets, shuffled.facade?, State.reportFacade]

theorem reportRouter (shuffled : s.Shuffled t) (target : Target) :
    t.reportRouter target = s.reportRouter target := by
  unfold State.reportRouter
  rw [shuffled.targets]
  cases s.targets.router? target with
  | none => rfl
  | some id =>
    rcases shuffled.router? id with ⟨missing, missing'⟩ | ⟨found, found', there, there', same⟩
    · simp only [Option.bind_some, missing, missing']
    · simp only [Option.bind_some, there, there', Option.map_some, same.generation]
      rw [mergeSort_eq_of_perm (same.answersAlike.available.map (·.render))]

theorem report (shuffled : s.Shuffled t) : s.report.Shuffled t.report where
  answer := shuffled.answer
  log := shuffled.log
  facade := shuffled.reportFacade .facade
  facade2 := shuffled.reportFacade .facade2
  router := shuffled.reportRouter .router
  second := shuffled.reportRouter .second

theorem takeAll (shuffled : s.Shuffled t) (fuel : Nat) {steps steps' : List Step}
    (same : List.Forall₂ Step.Shuffled steps steps') :
    List.Forall₂ StepReport.Shuffled (s.takeAll fuel steps) (t.takeAll fuel steps') := by
  induction same generalizing s t with
  | nil => exact .nil
  | cons here _ ih =>
    have next := shuffled.perform fuel here
    exact .cons next.report (ih next)

theorem performAll (shuffled : s.Shuffled t) (fuel : Nat) {steps steps' : List Step}
    (same : List.Forall₂ Step.Shuffled steps steps') :
    (s.performAll fuel steps).Shuffled (t.performAll fuel steps') := by
  induction same generalizing s t with
  | nil => exact shuffled
  | cons here _ ih => exact ih (shuffled.perform fuel here)

end Shuffled

/-- Whatever a session does, nobody can tell from it in what order registrations have enumerated
their identifiers, but for the order in which a listener is told of several at once. -/
theorem enumeration_unobservable (settings : RouterSettings) (wiring : Wiring)
    {steps steps' : List Step} (same : List.Forall₂ Step.Shuffled steps steps') :
    List.Forall₂ StepReport.Shuffled (Scenario.run ⟨settings, wiring, steps⟩)
        (Scenario.run ⟨settings, wiring, steps'⟩) ∧
      ∀ fuel, List.Forall₂ StepReport.Shuffled ((start settings wiring).takeAll fuel steps)
          ((start settings wiring).takeAll fuel steps') ∧
        ∀ router, Option.Rel Router.AnswersAlike
          (((start settings wiring).performAll fuel steps).router? router)
          (((start settings wiring).performAll fuel steps').router? router) := by
  have begins := Shuffled.refl (start settings wiring)
  refine ⟨?_, fun fuel => ⟨begins.takeAll fuel same, fun router => ?_⟩⟩
  · have fuel : Scenario.fuel ⟨settings, wiring, steps'⟩ =
        Scenario.fuel ⟨settings, wiring, steps⟩ := by
      simp only [Scenario.fuel, scriptSize_eq_of_shuffled same]
    rw [Scenario.run, Scenario.run, fuel]
    exact begins.takeAll _ same
  · rcases (begins.performAll fuel same).router? router with
      ⟨missing, missing'⟩ | ⟨found, found', there, there', shuffled⟩
    · rw [missing, missing']
      exact .none
    · rw [there, there']
      exact .some shuffled.answersAlike

/-- Texts without a context. -/
def globally (types : List String) : List IdentifierText := types.map (⟨·, none⟩)

/-- A listener that rejects what costs too much and registers something itself, and implementations
that come and go and change their costs, where the identifiers of each registration are given. -/
def comings (first second third : List String) : List Step :=
  [.listen .router "ear" "listener" (some ⟨some (.rejecting [7]),
      [[.register .router "nested" "small" (some ⟨2, .echo, []⟩) (globally third)]], []⟩),
    .register .router "one" "dear" (some ⟨5, .echo, []⟩) (globally first),
    .register .router "two" "cheap" (some ⟨1, .echo, []⟩) (globally second),
    .setCost "dear" 7,
    .isAvailable .router ⟨"b", none⟩,
    .close "two",
    .invoke .router "a" none]

/-- What listeners are told, call by call. -/
def batches (reports : List StepReport) : List (List String) :=
  reports.flatMap fun report => report.log.filterMap fun
    | .notified _ _ _ rpcs => some (rpcs.map (·.render))
    | _ => none

theorem enumeration_unobservable_comings :
    let steps := comings ["a", "b", "c"] ["b", "d"] ["e", "f"]
    let steps' := comings ["c", "a", "b"] ["d", "b"] ["f", "e"]
    let first := start .default .single
    List.Forall₂ Step.Shuffled steps steps' ∧
      (List.Forall₂ StepReport.Shuffled (Scenario.run ⟨.default, .single, steps⟩)
          (Scenario.run ⟨.default, .single, steps'⟩) ∧
        ∀ fuel, List.Forall₂ StepReport.Shuffled (first.takeAll fuel steps)
            (first.takeAll fuel steps') ∧
          ∀ router, Option.Rel Router.AnswersAlike ((first.performAll fuel steps).router? router)
            ((first.performAll fuel steps').router? router)) ∧
      batches (first.takeAll 40 steps) =
        [["a", "b", "c"], ["e", "f"], ["d"], ["a", "b", "c", "d"]] ∧
      batches (first.takeAll 40 steps') =
        [["c", "a", "b"], ["f", "e"], ["d"], ["c", "a", "b", "d"]] := by
  have legible : ∀ type ∈ ["a", "b", "c", "d", "e", "f"],
      ∃ rpc, (⟨type, none⟩ : IdentifierText).read = .ok rpc := by
    simp only [List.forall_mem_cons]
    exact ⟨⟨_, rfl⟩, ⟨_, rfl⟩, ⟨_, rfl⟩, ⟨_, rfl⟩, ⟨_, rfl⟩, ⟨_, rfl⟩, List.forall_mem_nil _⟩
  have set {types types' : List String} (known : types ⊆ ["a", "b", "c", "d", "e", "f"])
      (order : types.Perm types') : IdentifierText.SameSet (globally types) (globally types') := by
    refine .of_perm (fun text member => ?_) (order.map _)
    obtain ⟨type, given, rfl⟩ := List.mem_map.mp member
    exact legible type (known given)
  have same : List.Forall₂ Step.Shuffled (comings ["a", "b", "c"] ["b", "d"] ["e", "f"])
      (comings ["c", "a", "b"] ["d", "b"] ["f", "e"]) :=
    .cons (.listen _ _ _ _ (.cons (.cons (.introduce _ _ _ _ _ (shuffled_scripts _)
        (set (by decide) (by decide))) .nil) .nil) .nil)
      (.cons (.introduce _ _ _ _ _ (shuffled_scripts _) (set (by decide) (by decide)))
        (.cons (.introduce _ _ _ _ _ (shuffled_scripts _) (set (by decide) (by decide)))
          (List.forall₂_same.mpr fun step _ => .same step)))
  exact ⟨same, enumeration_unobservable .default .single same, by decide, by decide⟩

end State
end Session
end RpcRouting
