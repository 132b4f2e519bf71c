import RpcRouting.Proofs.Router.Desk
import RpcRouting.Proofs.Session.Taking
/-! What the three kinds of frames do that touch routers. Listeners are consulted and notes are taken
on the way, which shows in nothing but the log and in who has been asked. -/
namespace RpcRouting.Session.State

/-- States that differ at most in routers, work to be done, notes in the log, and who has been
asked. -/
structure Apart (s t : State) : Prop where
  targets : t.targets = s.targets
  facades : t.facades = s.facades
  implementations : t.implementations = s.implementations
  listeners : t.listeners.length = s.listeners.length
  handles : t.handles = s.handles
  implementationNames : t.implementationNames = s.implementationNames
  listenerNames : t.listenerNames = s.listenerNames
  handleNames : t.handleNames = s.handleNames
  answer : t.answer = s.answer
  panic : t.panic = s.panic
  notifications : t.notifications = s.notifications

/-- Work that shows in nothing but notes in the log and in who has been asked. -/
structure Notes (s t : State) : Prop extends Apart s t where
  routers : t.routers = s.routers
  frames : t.frames = s.frames

theorem Apart.refl (s : State) : Apart s s := ⟨rfl, rfl, rfl, rfl, rfl, rfl, rfl, rfl, rfl, rfl, rfl⟩

theorem Apart.work (s : State) (routers frames) :
    Apart s { s with routers := routers, frames := frames } :=
  ⟨rfl, rfl, rfl, rfl, rfl, rfl, rfl, rfl, rfl, rfl, rfl⟩

theorem Apart.trans {s t u : State} (first : Apart s t) (second : Apart t u) : Apart s u where
  targets := second.targets.trans first.targets
  facades := second.facades.trans first.facades
  implementations := second.implementations.trans first.implementations
  listeners := second.listeners.trans first.listeners
  handles := second.handles.trans first.handles
  implementationNames := second.implementationNames.trans first.implementationNames
  listenerNames := second.listenerNames.trans first.listenerNames
  handleNames := second.handleNames.trans first.handleNames
  answer := second.answer.trans first.answer
  panic := second.panic.trans first.panic
  notifications := second.notifications.trans first.notifications

namespace Notes
variable {s t u : State}

theorem refl (s : State) : Notes s s := ⟨.refl s, rfl, rfl⟩

theorem trans (first : Notes s t) (second : Notes t u) : Notes s u :=
  ⟨first.toApart.trans second.toApart, second.routers.trans first.routers,
    second.frames.trans first.frames⟩

theorem note (s : State) (level message fields) : Notes s (s.note level message fields) :=
  ⟨⟨rfl, rfl, rfl, rfl, rfl, rfl, rfl, rfl, rfl, rfl,
    (Grows.note s level message fields).notifications⟩, rfl, rfl⟩

theorem ask (s : State) (listener : Nat) : Notes s (s.ask listener) :=
  ⟨⟨rfl, rfl, rfl, List.length_modify .., rfl, rfl, rfl, rfl, rfl, rfl, rfl⟩, rfl, rfl⟩

theorem consult (s : State) (consultation : Watcher × Server) :
    Notes s (s.consult consultation) := by
  obtain ⟨watcher, server⟩ := consultation
  cases watcher with
  | native listener => exact ask s listener
  | wrapped facade listener =>
    simp only [State.consult]
    split
    · exact ask s listener
    · exact note s _ _ _

theorem consultAll (s : State) (consultations : List (Watcher × Server)) :
    Notes s (s.consultAll consultations) := by
  induction consultations generalizing s with
  | nil => exact refl s
  | cons first rest ih => exact (consult s first).trans (ih _)

theorem noteChange (s : State) (router : Router Server Watcher) (change : Change Server Watcher) :
    Notes s (s.noteChange router change) := by
  cases change with
  | unregister registration =>
    simp only [State.noteChange]
    split
    · exact note s _ _ _
    · exact refl s
  | register | listen | unlisten => exact note s _ _ _

end Notes

/-- Work that replaces a router, puts frames on the stack, and else shows in nothing but the log and
in who has been asked. -/
structure Changes (router : Nat) (after : Router Server Watcher) (pushed : List Frame)
    (s t : State) : Prop extends Apart s t where
  routers : t.routers = s.routers.modify router fun _ => after
  frames : t.frames = pushed ++ s.frames

/-- The duty that a change leaves behind: deliveries are to be made, if nobody makes them yet. -/
def dutyAfter (router : Nat) (before after : Router Server Watcher) : List Frame :=
  if after.delivering = before.delivering then [] else [.deliver router]

variable {s t : State} {router : Nat} {found : Router Server Watcher}

namespace Changes
variable {after : Router Server Watcher} {pushed : List Frame}

theorem router?_eq (changes : Changes router after pushed s t) (there : router < s.routers.length) :
    t.router? router = some after := by
  rw [router?, changes.routers, List.getElem?_modify_eq, List.getElem?_eq_getElem there]
  rfl

theorem router?_ne {other : Nat} (changes : Changes other after pushed s t)
    (ne : other ≠ router) : t.router? router = s.router? router := by
  rw [router?, changes.routers, List.getElem?_modify_ne _ _ ne, router?]

theorem length (changes : Changes router after pushed s t) :
    t.routers.length = s.routers.length := by
  rw [changes.routers, List.length_modify]

theorem names (changes : Changes router after pushed s t) (known : s.NamesKnown) :
    t.NamesKnown := by
  constructor
  · rw [changes.implementationNames, changes.implementations]
    exact known.implementations
  · rw [changes.listenerNames, changes.listeners]
    exact known.listeners

end Changes

theorem mem_dutyAfter {before after : Router Server Watcher} {frame : Frame}
    (member : frame ∈ dutyAfter router before after) : frame = .deliver router := by
  unfold dutyAfter at member
  split at member
  · cases member
  · exact List.mem_singleton.mp member

theorem modify_found {α : Type} {items : List α} {index : Nat} {item : α}
    (there : items[index]? = some item) (f : α → α) :
    items.modify index f = items.modify index fun _ => f item := by
  refine List.ext_getElem? fun other => ?_
  rw [List.getElem?_modify, List.getElem?_modify]
  by_cases same : index = other
  · subst other
    rw [there]
    simp
  · simp [same]

theorem getElem?_of_modify {α : Type} {items : List α} {index other : Nat} {f : α → α} {item : α}
    (there : (items.modify index f)[other]? = some item) :
    ∃ before, items[other]? = some before ∧
      (index = other ∧ f before = item ∨ index ≠ other ∧ before = item) := by
  rw [List.getElem?_modify] at there
  obtain ⟨before, old, replaced⟩ := Option.map_eq_some_iff.mp there
  refine ⟨before, old, ?_⟩
  split at replaced
  · exact .inl ⟨‹_›, replaced⟩
  · exact .inr ⟨‹_›, replaced⟩

theorem mem_of_modify {α : Type} {items : List α} {index : Nat} {f : α → α} {item : α}
    (member : item ∈ items.modify index f) :
    (∃ before, items[index]? = some before ∧ f before = item) ∨ item ∈ items := by
  obtain ⟨other, there⟩ := List.mem_iff_getElem?.mp member
  obtain ⟨before, old, ⟨rfl, replaced⟩ | ⟨-, rfl⟩⟩ := getElem?_of_modify there
  · exact .inl ⟨before, old, replaced⟩
  · exact .inr (List.mem_of_getElem? old)

theorem deliver_changes (there : s.router? router = some found) :
    Changes router found.onDuty (dutyAfter router found found.onDuty) s (s.deliver router) := by
  unfold deliver
  rw [there, Option.bind_some]
  cases start : found.startDelivering? with
  | none =>
    have idle : found.onDuty = found := by rw [Router.onDuty, start, Option.getD_none]
    rw [idle]
    have same := modify_found there id
    rw [List.modify_id] at same
    exact ⟨.refl s, same, by simp [dutyAfter]⟩
  | some started =>
    have busy : found.onDuty = started := by rw [Router.onDuty, start, Option.getD_some]
    have turned : found.delivering = false ∧ started.delivering = true := by
      unfold Router.startDelivering? at start
      split at start
      · cases start
      · rename_i free
        cases Option.some.inj start
        simp only [not_or, Bool.not_eq_true] at free
        exact ⟨free.1, rfl⟩
    rw [busy]
    exact ⟨.work s _ _, rfl, by simp [dutyAfter, turned, push, modifyRouter]⟩

theorem change_changes (there : s.router? router = some found) (change : Change Server Watcher) :
    Changes router (found.apply s.accepts change).onDuty
      (dutyAfter router found (found.apply s.accepts change).onDuty) s (s.change router change) := by
  simp only [State.change, there]
  let noted := (s.consultAll (found.consultationsFor change)).noteChange found change
  have before : Notes s noted := (Notes.consultAll s _).trans (.noteChange _ found change)
  let changed := noted.modifyRouter router fun _ => found.apply s.accepts change
  have after := Notes.consultAll changed (found.apply s.accepts change).consultations
  have routers : (changed.consultAll (found.apply s.accepts change).consultations).routers =
      s.routers.modify router fun _ => found.apply s.accepts change := by
    rw [after.routers, ← before.routers]
    rfl
  have replaced : (changed.consultAll (found.apply s.accepts change).consultations).router?
      router = some (found.apply s.accepts change) := by
    rw [router?, routers, List.getElem?_modify_eq, show s.routers[router]? = some found from there]
    rfl
  have delivered := deliver_changes replaced
  refine ⟨?_, ?_, ?_⟩
  · refine (before.toApart.trans ?_).trans delivered.toApart
    exact Apart.trans (t := changed) (.work noted _ _) after.toApart
  · rw [delivered.routers, routers, List.modify_modify_eq]
    rfl
  · rw [delivered.frames, after.frames]
    have same : (found.apply s.accepts change).delivering = found.delivering :=
      Router.delivering_apply s.accepts found change
    rw [dutyAfter, dutyAfter, same]
    exact congrArg _ before.frames

theorem adopt_changes (there : s.router? router = some found) (schema : Schema) :
    Changes router (found.updateSchema schema) [] s (s.adopt router schema) := by
  simp only [adopt, there]
  refine ⟨?_, modify_found there _, rfl⟩
  exact (Apart.work s _ _).trans (Notes.note (s.modifyRouter router (·.updateSchema schema))
    _ _ _).toApart

theorem stop_changes (there : s.router? router = some found) :
    Changes router found.stopDelivering [] s (s.modifyRouter router (·.stopDelivering)) :=
  ⟨.work s _ _, modify_found there _, rfl⟩

theorem deliverNext_changes_of_none (there : s.router? router = some found)
    (none : found.nextDelivery? = none) :
    Changes router found.stopDelivering [] s (s.deliverNext router) := by
  simp only [deliverNext, there, none]
  exact stop_changes there

theorem deliverNext_changes_of_some (there : s.router? router = some found)
    {delivery : Delivery Watcher} {rest : Router Server Watcher}
    (next : found.nextDelivery? = some (delivery, rest)) :
    Changes router rest (delivery.calls.map (.call router) ++ [.deliver router]) s
      (s.deliverNext router) := by
  simp only [deliverNext, there, next]
  exact ⟨.work s _ _, rfl, rfl⟩

end RpcRouting.Session.State
