import RpcRouting.Proofs.Router.Withdrawing
import RpcRouting.Proofs.Session.Passive
/-! A change and the deliveries that follow from it, taken together. Where listeners are passive a
change is told to all of them before anything else is done, and what is left is the router with its
registrations changed and nothing more to tell. -/
namespace RpcRouting.Session

/-- A script with a step to be taken. -/
def Frame.isScripted : Frame → Bool
  | .script (_ :: _) => true
  | _ => false

/-- What a listener is but for what happens to it. -/
def Listener.nature (listener : Listener) : String × Option Preference :=
  (listener.name, listener.preference)

namespace State

/-- States that differ at most in routers, work to be done, the log, and in what has happened to
listeners. -/
structure Beside (s t : State) : Prop where
  targets : t.targets = s.targets
  facades : t.facades = s.facades
  implementations : t.implementations = s.implementations
  handles : t.handles = s.handles
  implementationNames : t.implementationNames = s.implementationNames
  listenerNames : t.listenerNames = s.listenerNames
  handleNames : t.handleNames = s.handleNames
  answer : t.answer = s.answer
  panic : t.panic = s.panic
  listeners : t.listeners.map Listener.nature = s.listeners.map Listener.nature
  passive : s.Passive → t.Passive

/-- Whether a step is the next thing to be done, from a script or, with nothing left to do, from
outside. -/
def isReady (s : State) : Bool := s.panic.isNone && s.frames.head?.all (·.isScripted)

/-- Work that goes on without a step being taken. -/
inductive Proceeds : State → State → Prop
  | still (s : State) : Proceeds s s
  | onward {s t : State} (busy : s.frames ≠ []) (unready : s.isReady = false)
      (later : Proceeds s.advance t) : Proceeds s t

/-- So many pieces of work lead from one state to another, with what they do to a router. No step is
taken meanwhile. -/
structure Leads (router : Nat) (s : State) (acts : List (Act Server Watcher)) (t : State) :
    Prop where
  proceeds : Proceeds s t
  fuel : ∃ fuel, State.run fuel s = t ∧ s.actsFor router fuel = acts

variable {s t u : State} {router : Nat} {acts later : List (Act Server Watcher)}
  {found : Router Server Watcher} {rest : List Frame}

theorem Proceeds.append (first : Proceeds s t) (second : Proceeds t u) : Proceeds s u := by
  induction first with
  | still => exact second
  | onward busy unready _ ih => exact .onward busy unready (ih second)

namespace Leads

theorem still (router : Nat) (s : State) : Leads router s [] s := ⟨.still s, 0, rfl, rfl⟩

theorem append (first : Leads router s acts t) (second : Leads router t later u) :
    Leads router s (acts ++ later) u := by
  refine ⟨first.proceeds.append second.proceeds, ?_⟩
  obtain ⟨fuel, rfl, rfl⟩ := first.fuel
  obtain ⟨more, rfl, rfl⟩ := second.fuel
  clear first second
  refine ⟨fuel + more, ?_⟩
  induction fuel generalizing s with
  | zero => simp [State.run, State.actsFor]
  | succ fuel ih =>
    rw [Nat.add_right_comm, State.run, State.actsFor]
    by_cases rest : s.frames = []
    · have stays : State.run more s = s ∧ s.actsFor router more = [] := by
        cases more <;> simp [State.run, State.actsFor, rest]
      simp [State.run, State.actsFor, rest, stays]
    · obtain ⟨path, made⟩ := ih (s := s.advance)
      simp [State.run, State.actsFor, rest, path, made]

theorem work (busy : s.frames ≠ []) (unready : s.isReady = false) :
    Leads router s (s.acts router) s.advance := by
  refine ⟨.onward busy unready (.still _), 1, ?_, ?_⟩ <;>
    simp [State.run, State.actsFor, busy]

/-- The work on top of the stack goes on. -/
theorem enter {frame : Frame} (calm : s.panic = none) (top : s.frames = frame :: rest)
    (other : frame.isScripted = false) :
    Leads router s (s.acts router) (State.enter { s with frames := rest } frame) := by
  have next : s.advance = State.enter { s with frames := rest } frame := by
    unfold advance
    rw [top, calm]
  exact next ▸ work (by simp [top]) (by simp [isReady, top, other])

/-- The work on top of the stack goes on, which does nothing to a router. -/
theorem quiet {frame : Frame} (calm : s.panic = none) (top : s.frames = frame :: rest)
    (other : frame.isScripted = false)
    (nothing : ∀ found accepts, frame.acts router found accepts = []) :
    Leads router s [] (State.enter { s with frames := rest } frame) := by
  have none : s.acts router = [] := by
    unfold State.acts
    rw [top, calm]
    split
    · rename_i first _ _ _ same _
      obtain ⟨rfl, -⟩ := List.cons.inj same
      exact nothing _ _
    · rfl
  exact none ▸ enter calm top other

theorem run (leads : Leads router s acts t) : Run (Move router) s acts t := by
  obtain ⟨fuel, rfl, rfl⟩ := leads.fuel
  exact run_work router fuel s

theorem known (leads : Leads router s acts t) (known : s.Known) : t.Known :=
  run_known leads.run known

end Leads

namespace Beside

theorem refl (s : State) : Beside s s :=
  ⟨rfl, rfl, rfl, rfl, rfl, rfl, rfl, rfl, rfl, rfl, id⟩

theorem trans (first : Beside s t) (second : Beside t u) : Beside s u where
  targets := second.targets.trans first.targets
  facades := second.facades.trans first.facades
  implementations := second.implementations.trans first.implementations
  handles := second.handles.trans first.handles
  implementationNames := second.implementationNames.trans first.implementationNames
  listenerNames := second.listenerNames.trans first.listenerNames
  handleNames := second.handleNames.trans first.handleNames
  answer := second.answer.trans first.answer
  panic := second.panic.trans first.panic
  listeners := second.listeners.trans first.listeners
  passive := second.passive ∘ first.passive

theorem work (s : State) (routers frames log) :
    Beside s { s with routers := routers, frames := frames, log := log } :=
  ⟨rfl, rfl, rfl, rfl, rfl, rfl, rfl, rfl, rfl, rfl, id⟩

theorem above (beside : Beside s t) (frames : List Frame) : Beside (s.push frames) t :=
  (work (s.push frames) s.routers s.frames s.log).trans beside

theorem modifyListener (s : State) (id : Nat) {f : Listener → Listener}
    (nature : ∀ found, s.listeners[id]? = some found → (f found).nature = found.nature)
    (passive : ∀ found, s.listeners[id]? = some found → found.IsPassive → (f found).IsPassive) :
    Beside s (s.modifyListener id f) := by
  refine ⟨rfl, rfl, rfl, rfl, rfl, rfl, rfl, rfl, rfl, ?_, fun before listener member => ?_⟩
  · refine List.ext_getElem? fun other => ?_
    rw [State.modifyListener, List.getElem?_map, List.getElem?_map, List.getElem?_modify]
    cases there : s.listeners[other]? with
    | none => rfl
    | some found =>
      by_cases same : id = other
      · subst same
        simp [nature found there]
      · simp [same]
  · rcases mem_of_modify member with ⟨found, there, rfl⟩ | old
    · exact passive found there (before found (List.mem_of_getElem? there))
    · exact before listener old

theorem ask (s : State) (listener : Nat) : Beside s (s.ask listener) :=
  modifyListener s listener (fun _ _ => rfl) fun _ _ passive => passive

theorem consultAll (s : State) (consultations : List (Watcher × Server)) :
    Beside s (s.consultAll consultations) := by
  induction consultations generalizing s with
  | nil => exact refl s
  | cons first rest ih =>
    refine Beside.trans ?_ (ih (s.consult first))
    obtain ⟨watcher, server⟩ := first
    cases watcher with
    | native listener => exact ask s listener
    | wrapped facade listener =>
      simp only [State.consult]
      split
      · exact ask s listener
      · exact work s _ _ _

theorem noteChange (s : State) (router : Router Server Watcher) (change : Change Server Watcher) :
    Beside s (s.noteChange router change) := by
  cases change with
  | unregister registration =>
    simp only [State.noteChange]
    split
    · exact work s _ _ _
    · exact refl s
  | register | listen | unlisten => exact work s _ _ _

theorem deliver (s : State) (router : Nat) : Beside s (s.deliver router) := by
  unfold State.deliver
  split
  · exact work s _ _ _
  · exact refl s

theorem change (s : State) (router : Nat) (change : Change Server Watcher) :
    Beside s (s.change router change) := by
  unfold State.change
  split
  · exact refl s
  · rename_i found _
    dsimp only
    refine Beside.trans ?_ (deliver _ router)
    refine Beside.trans ?_ (consultAll _ _)
    refine Beside.trans ?_ (work _ _ _ _)
    exact (consultAll s _).trans (noteChange _ _ _)

theorem deliverNext (s : State) (router : Nat) : Beside s (s.deliverNext router) := by
  unfold State.deliverNext
  split
  · exact refl s
  · split <;> exact work s _ _ _

theorem callListener (s : State) (call : Call Watcher) : Beside s (s.callListener call) := by
  unfold State.callListener
  dsimp only
  split
  · exact refl s
  · rename_i found there
    have passive {taken : Listener} (same : s.listeners[call.listener.listener]? = some taken) :
        taken = found := Option.some.inj (same.symm.trans there)
    refine Beside.trans (t := s.modifyListener call.listener.listener fun _ => _)
      (modifyListener s _ ?_ ?_) (work _ _ _ _)
    · intro taken same
      rw [passive same]
      split <;> rfl
    · intro taken same quiet
      rw [passive same] at quiet
      split
      · exact ⟨fun script member => quiet.1 script (List.mem_of_mem_tail member), quiet.2⟩
      · exact ⟨quiet.1, fun script member => quiet.2 script (List.mem_of_mem_tail member)⟩

/-- Who accepts what is the same. -/
theorem accepts (beside : Beside s t) : t.accepts = s.accepts := by
  have preference (listener : Nat) : (t.listeners[listener]?).bind (·.preference) =
      (s.listeners[listener]?).bind (·.preference) := by
    have same := congrArg (·[listener]?) beside.listeners
    simp only [List.getElem?_map] at same
    have both := congrArg (Option.bind · Prod.snd) same
    simpa [Option.bind_map, Function.comp_def, Listener.nature] using both
  have listeners : t.listenerAccepts = s.listenerAccepts := by
    funext listener server
    simp only [listenerAccepts, preference, costOf, beside.implementations]
  funext watcher server
  cases watcher with
  | native listener => simp only [State.accepts, listeners]
  | wrapped facade listener =>
    simp only [State.accepts, registered?, facade?, beside.facades, listeners]

/-- Who is told what, as the log has it, is the same. -/
theorem notice (beside : Beside s t) : t.notice = s.notice := by
  funext call
  have same := congrArg (·[call.listener.listener]?) beside.listeners
  simp only [List.getElem?_map] at same
  unfold State.notice
  cases there : s.listeners[call.listener.listener]? <;>
    cases there' : t.listeners[call.listener.listener]? <;> simp_all [Listener.nature]

end Beside

/-! Deliveries. -/

theorem call_leads {call : Call Watcher} (top : s.frames = .call router call :: rest)
    (known : s.Known) (passive : s.Passive) (calm : s.panic = none)
    (there : s.router? router = some found) :
    ∃ t, Leads router s [.called call] t ∧ t.frames = rest ∧ t.routers = s.routers ∧ Beside s t ∧
      t.notifications = s.notifications ++ s.notice call := by
  obtain ⟨below, rfl, rfl⟩ := eq_push_of_top top
  obtain ⟨listener, heard⟩ := known.listener
  have made : (below.push [.call router call]).acts router = [.called call] := by
    have there : (below.push [.call router call]).router? router = some found := there
    unfold State.acts
    rw [there, top, calm]
    simp [Frame.acts]
  have frames : (below.callListener call).frames = .script [] :: .answer below.answer :: below.frames :=
    callListener_frames (s := below) passive heard
  have beside : Beside below (below.callListener call) := .callListener below call
  have routers : (below.callListener call).routers = below.routers := by
    simp only [callListener, heard]
    rfl
  have first : Leads router (below.push [.call router call]) [.called call]
      (below.callListener call) := made ▸ .enter calm top rfl
  -- What the listener does then is nothing, and what had been answered is answered again.
  have second : Leads router _ _ _ := .quiet (beside.panic.trans calm) frames rfl fun _ _ => rfl
  have third : Leads router _ _ _ := .quiet
    (s := { below.callListener call with frames := .answer below.answer :: below.frames })
    (beside.panic.trans calm) rfl rfl fun _ _ => rfl
  have last : Beside below (State.reply { below.callListener call with frames := below.frames }
      below.answer) :=
    ⟨beside.targets, beside.facades, beside.implementations, beside.handles,
      beside.implementationNames, beside.listenerNames, beside.handleNames, rfl, beside.panic,
      beside.listeners, beside.passive⟩
  refine ⟨_, (first.append second).append third, rfl, routers, last.above _, ?_⟩
  have told := advance_notifications (s := below) calm known
  rw [advance_push (s := below) calm] at told
  exact told

theorem calls_lead {calls : List (Call Watcher)}
    (top : s.frames = calls.map (.call router) ++ rest) (known : s.Known) (passive : s.Passive)
    (calm : s.panic = none) (there : s.router? router = some found) :
    ∃ t, Leads router s (calls.map .called) t ∧ t.frames = rest ∧ t.routers = s.routers ∧
      Beside s t ∧ t.notifications = s.notifications ++ calls.flatMap s.notice := by
  induction calls generalizing s with
  | nil => exact ⟨s, .still router s, top, rfl, .refl s, (List.append_nil _).symm⟩
  | cons call later ih =>
    obtain ⟨between, leads, frames, routers, beside, told⟩ :=
      call_leads top known passive calm there
    obtain ⟨t, further, frames', routers', beside', told'⟩ := ih frames (leads.known known)
      (beside.passive passive) (beside.panic.trans calm) (by rw [router?, routers]; exact there)
    refine ⟨t, leads.append further, frames', routers'.trans routers, beside.trans beside', ?_⟩
    rw [told', told, beside.notice, List.append_assoc, List.flatMap_cons]

theorem router?_modify (there : s.router? router = some found) {after : Router Server Watcher}
    (routers : t.routers = s.routers.modify router fun _ => after) :
    t.router? router = some after := by
  rw [router?, routers, List.getElem?_modify_eq, show s.routers[router]? = some found from there]
  rfl

/-- Deliveries are made until none is left. -/
theorem deliver_leads (top : s.frames = .deliver router :: rest) (known : s.Known)
    (passive : s.Passive) (calm : s.panic = none) (there : s.router? router = some found) :
    ∃ t, Leads router s (tellings found.pending) t ∧ t.frames = rest ∧
      t.routers = s.routers.modify router
        (fun _ => { found with pending := [], delivering := false }) ∧ Beside s t ∧
      t.notifications = s.notifications ++ (found.pending.flatMap Delivery.calls).flatMap s.notice := by
  generalize queue : found.pending = pending
  induction pending generalizing s found with
  | nil =>
    obtain ⟨below, rfl, rfl⟩ := eq_push_of_top top
    have none : found.nextDelivery? = none := (Router.nextDelivery?_eq_none found).mpr queue
    have changes := deliverNext_changes_of_none (s := below) there none
    have made : (below.push [.deliver router]).acts router = [] := by
      unfold State.acts
      rw [there, top, calm]
      simp [Frame.acts, none]
    have after : found.stopDelivering = { found with pending := [], delivering := false } := by
      rw [Router.stopDelivering, ← queue]
    refine ⟨below.deliverNext router, ?_, changes.frames, after ▸ changes.routers,
      .above (.deliverNext below router) _, changes.notifications.trans (List.append_nil _).symm⟩
    rw [show tellings [] = (below.push [.deliver router]).acts router from made.symm]
    exact .enter calm top rfl
  | cons delivery later ih =>
    obtain ⟨below, rfl, rfl⟩ := eq_push_of_top top
    have next : found.nextDelivery? = some (delivery, { found with pending := later }) :=
      (Router.nextDelivery?_eq_some ..).mpr ⟨queue, rfl⟩
    have changes := deliverNext_changes_of_some (s := below) there next
    have made : (below.push [.deliver router]).acts router = [.begun delivery] := by
      unfold State.acts
      rw [there, top, calm]
      simp [Frame.acts, next]
    have beside : Beside below (below.deliverNext router) := .deliverNext below router
    have first : Leads router (below.push [.deliver router]) [.begun delivery]
        (below.deliverNext router) := made ▸ .enter calm top rfl
    have taken : (below.deliverNext router).router? router = some { found with pending := later } :=
      router?_modify there changes.routers
    obtain ⟨between, second, frames, routers, beside', told⟩ := calls_lead
      (changes.frames.trans (List.append_assoc ..)) (first.known known) (beside.passive passive)
      (beside.panic.trans calm) taken
    obtain ⟨t, third, frames', routers', beside'', told'⟩ := ih frames
      (second.known (first.known known))
      (beside'.passive (beside.passive passive)) (beside'.panic.trans (beside.panic.trans calm))
      (by rw [router?, routers]; exact taken) rfl
    refine ⟨t, ?_, frames', ?_, .above (beside.trans (beside'.trans beside'')) _, ?_⟩
    · exact (first.append second).append third
    · rw [routers', routers, changes.routers, List.modify_modify_eq]
      rfl
    · rw [told', told, beside'.notice, beside.notice, changes.notifications, List.append_assoc,
        ← List.flatMap_append, ← List.flatMap_cons]
      rfl

/-- Where nothing is left to be delivered, a session stays steady. -/
theorem Steady.after (steady : s.Steady router) (leads : Leads router s acts t)
    (passive : t.Passive) (free : ∀ router, .deliver router ∉ t.frames)
    (empty : (t.desk router).router.pending = []) : t.Steady router := by
  obtain ⟨attends, turns⟩ := run_turns leads.run steady.known steady.attends
  refine ⟨leads.known steady.known, passive, .of_free free, attends,
    ⟨fun _ => empty, attends.staffed.inHand⟩, Desk.turns_orderly turns steady.orderly⟩

/-- Work that is no part of a delivery, and leaves the routers alone, keeps a session steady. -/
theorem Steady.onward {frame : Frame} {pushed : List Frame} (steady : s.Steady router)
    (top : s.frames = frame :: rest) (other : frame.isTelling = false)
    (plain : frame.isPlain = true) (leads : Leads router s acts t) (passive : t.Passive)
    (routers : t.routers = s.routers) (frames : t.frames = pushed ++ rest)
    (pushes : ∀ frame ∈ pushed, frame.isPlain = true) : t.Steady router := by
  obtain ⟨below, rfl, rfl⟩ := eq_push_of_top top
  refine steady.after leads passive (fun router member => ?_) ?_
  · rw [frames] at member
    rcases List.mem_append.mp member with new | old
    · exact absurd (pushes _ new) Bool.false_ne_true
    · exact steady.attentive.free other router old
  · have same : t.router? router = (below.push [frame]).router? router := by
      rw [router?, routers, router?]
    rw [show (t.desk router).router = ((below.push [frame]).desk router).router by
      rw [desk, desk, same]]
    exact (steady.idle top other plain).2

/-- A change is made and told to all listeners before anything else is done. -/
theorem change_leads {change : Change Server Watcher} (steady : s.Steady router)
    (top : s.frames = .change router change :: rest) (calm : s.panic = none) :
    let before := (s.desk router).router
    ∃ t, Leads router s (.changed before s.accepts change ::
        tellings (before.queuedBy s.accepts change)) t ∧ t.frames = rest ∧
      t.routers = s.routers.modify router (fun _ => before.settle s.accepts change) ∧
      Beside s t ∧ t.Steady router ∧ t.notifications =
        s.notifications ++
          ((before.queuedBy s.accepts change).flatMap Delivery.calls).flatMap s.notice := by
  intro before
  have there : s.router? router = some before := router?_desk steady.attends.there
  obtain ⟨idle, empty⟩ : before.delivering = false ∧ before.pending = [] :=
    steady.idle top rfl rfl
  have made : s.acts router = [.changed before s.accepts change] := by
    unfold State.acts
    rw [there, top, calm]
    simp [Frame.acts]
  obtain ⟨below, rfl, rfl⟩ := eq_push_of_top top
  let after := (before.apply below.accepts change).onDuty
  have changes : Changes router after (dutyAfter router before after) below
    (below.change router change) := change_changes (s := below) there change
  have first : Leads router (below.push [.change router change])
      [.changed before below.accepts change] (below.change router change) :=
    made ▸ .enter calm top rfl
  have beside : Beside below (below.change router change) := .change below router change
  have free := steady.attentive.free rfl
  have queue : after.pending = before.queuedBy below.accepts change := by
    rw [Router.pending_onDuty, Router.pending_apply, empty, List.nil_append]
  have settled : before.settle below.accepts change =
      { after with pending := [], delivering := false } := by
    simp only [after, Router.onDuty_eq, Router.settle]
  have delivering : after.delivering = !(before.queuedBy below.accepts change).isEmpty := by
    rw [← queue]
    simp only [after, Router.onDuty_eq, Router.delivering_apply, idle, Bool.false_or]
  suffices ∃ t, Leads router (below.change router change)
      (tellings (before.queuedBy below.accepts change)) t ∧ t.frames = below.frames ∧
      t.routers = below.routers.modify router (fun _ => before.settle below.accepts change) ∧
      Beside below t ∧ t.notifications = below.notifications ++
        ((before.queuedBy below.accepts change).flatMap Delivery.calls).flatMap below.notice by
    obtain ⟨t, second, frames, routers, beside', told⟩ := this
    have leads := first.append second
    refine ⟨t, leads, frames, routers, beside'.above _, ?_, told⟩
    refine steady.after leads (beside'.passive steady.passive) (frames ▸ free) ?_
    have last : t.router? router = some (before.settle below.accepts change) :=
      router?_modify (s := below) there routers
    simp [desk, last, Router.settle]
  cases queued : before.queuedBy below.accepts change with
  | nil =>
    have same : after.delivering = before.delivering := by simp [delivering, queued, idle]
    have duty : dutyAfter router before after = [] := if_pos same
    refine ⟨below.change router change, .still router _, ?_, ?_, beside,
      changes.notifications.trans (List.append_nil _).symm⟩
    · rw [changes.frames, duty, List.nil_append]
    · have nothing : before.settle below.accepts change = after := by
        rw [settled]
        have pending : after.pending = [] := queue.trans queued
        have free : after.delivering = false := same.trans idle
        rw [← pending, ← free]
      rw [changes.routers, nothing]
  | cons delivery later =>
    have duty : dutyAfter router before after = [.deliver router] := by
      refine if_neg ?_
      simp [delivering, queued, idle]
    have frames : (below.change router change).frames = .deliver router :: below.frames := by
      rw [changes.frames, duty, List.singleton_append]
    have replaced : (below.change router change).router? router = some after :=
      router?_modify (s := below) there changes.routers
    obtain ⟨t, leads, frames', routers', beside', told⟩ := deliver_leads frames
      (first.known steady.known) (beside.passive steady.passive) (beside.panic.trans calm) replaced
    refine ⟨t, ?_, frames', ?_, beside.trans beside', ?_⟩
    · rw [← queued, ← queue]
      exact leads
    · rw [routers', changes.routers, List.modify_modify_eq, settled]
      rfl
    · rw [told, queue, queued, beside.notice]
      exact congrArg (· ++ _) changes.notifications

end State
end RpcRouting.Session
