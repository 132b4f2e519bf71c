import RpcRouting.Proofs.Session.Routing
import RpcRouting.Proofs.Session.Settling
/-! A facade that nothing has any more. Its roster is gone before the registrations behind it are
closed, so its wrappers do not find what they would ask their listeners about, and accept it. -/
namespace RpcRouting.Session

/-- The change by which the registration of a handle is taken back. -/
def withdrawal? (handle : Handle) : Option (Change Server Watcher) :=
  match handle.release with
  | some (.offer _ registration) => some (.unregister registration)
  | some (.subscription _ registration) => some (.unlisten registration)
  | _ => none

theorem withdraws_of_withdrawal? {handle : Handle} {change : Change Server Watcher}
    (made : withdrawal? handle = some change) : change.Withdraws := by
  unfold withdrawal? at made
  split at made <;> cases made <;> trivial

namespace State

variable {s t : State} {router : Nat} {rest : List Frame} {handles : List Handle}
  {acts : List (Act Server Watcher)}

/-- The changes of a router when handles are closed. A router that is gone is not changed. -/
def withdrawals (router : Nat) (s : State) (handles : List Handle) : List (Change Server Watcher) :=
  if s.routerAlive router then handles.filterMap withdrawal? else []

theorem withdraws_of_withdrawals {change : Change Server Watcher}
    (member : change ∈ s.withdrawals router handles) : change.Withdraws := by
  unfold withdrawals at member
  split at member
  · obtain ⟨handle, -, made⟩ := List.mem_filterMap.mp member
    exact withdraws_of_withdrawal? made
  · contradiction

theorem withdrawals_cons (s : State) (handle : Handle) (handles : List Handle) :
    s.withdrawals router (handle :: handles) =
      s.withdrawals router [handle] ++ s.withdrawals router handles := by
  unfold withdrawals
  split
  · exact List.filterMap_append (l := [handle])
  · rfl

/-- What is alive depends on the targets, the facades, and the frames that keep something alive. -/
theorem withdrawals_congr (targets : t.targets = s.targets) (facades : t.facades = s.facades)
    (kept : t.isKeptAlive (.router router) = s.isKeptAlive (.router router)) :
    t.withdrawals router = s.withdrawals router := by
  funext handles
  unfold withdrawals routerAlive
  rw [targets, facades, kept]

theorem Beside.withdrawals (beside : Beside s t)
    (kept : t.isKeptAlive (.router router) = s.isKeptAlive (.router router)) :
    t.withdrawals router = s.withdrawals router :=
  withdrawals_congr beside.targets beside.facades kept

theorem close_of_withdrawals {handle : Handle} (routed : RoutedTo router handle) :
    s.close handle = s.push ((s.withdrawals router [handle]).map (.change router)) := by
  unfold State.close withdrawals
  rcases routed with closed | ⟨registration, opened | opened⟩
  · simp [withdrawal?, closed, push]
  all_goals
    simp only [opened, State.release]
    split <;> simp [withdrawal?, opened, push]

theorem withdrawals_single (router : Nat) (s : State) (handle : Handle) :
    s.withdrawals router [handle] = [] ∨ ∃ change, s.withdrawals router [handle] = [change] := by
  unfold withdrawals
  split
  · cases made : withdrawal? handle with
    | none => simp [made]
    | some change => simp [made]
  · exact .inl rfl

/-- A registration with a router is closed, which is told to all listeners at once. -/
theorem close_leads {handle : Handle} (steady : s.Steady router)
    (top : s.frames = .close handle :: rest) (calm : s.panic = none)
    (routed : RoutedTo router handle) :
    let before := (s.desk router).router
    let changes := s.withdrawals router [handle]
    ∃ acts t, Leads router s acts t ∧
      called acts = (before.toldOf s.accepts changes).flatMap Delivery.calls ∧ t.frames = rest ∧
      (t.desk router).router = changes.foldl (Router.settle s.accepts) before ∧ Beside s t ∧
      t.Steady router := by
  intro before changes
  let below : State := { s with frames := rest }
  have kept : below.withdrawals router = s.withdrawals router := withdrawals_congr rfl rfl (by
    simp [isKeptAlive, below, top, Frame.keepsAlive])
  have closes : State.enter below (.close handle) = below.push (changes.map (.change router)) := by
    rw [enter, close_of_withdrawals routed, kept]
  have leads : Leads router s [] (below.push (changes.map (.change router))) :=
    closes ▸ .quiet calm top rfl fun _ _ => rfl
  have beside : Beside s (below.push (changes.map (.change router))) := .work s s.routers _ s.log
  have steady : (below.push (changes.map (.change router))).Steady router := by
    refine steady.onward top rfl rfl leads steady.passive rfl rfl ?_
    simp [Frame.isPlain]
  rcases withdrawals_single router s handle with none | ⟨change, one⟩
  · have none : changes = [] := none
    rw [none] at leads beside steady ⊢
    exact ⟨[], _, leads, rfl, rfl, rfl, beside, steady⟩
  · have one : changes = [change] := one
    rw [one] at leads beside steady ⊢
    obtain ⟨t, changed, frames, routers, beside', steady', -⟩ := change_leads steady rfl calm
    refine ⟨_, t, leads.append changed, ?_, frames, ?_, beside.trans beside', steady'⟩
    · rw [Router.toldOf, Router.toldOf, List.append_nil, ← called_tellings]
      rfl
    · have there : s.router? router = some before := router?_desk steady.attends.there
      have last := router?_modify (s := s) there routers
      rw [desk, last, Option.getD_some]
      rfl

/-- The registrations behind a facade that is gone are closed one after the other. -/
theorem closeAll_leads (steady : s.Steady router) (top : s.frames = .closeAll handles :: rest)
    (calm : s.panic = none) (routed : ∀ handle ∈ handles, RoutedTo router handle) :
    let before := (s.desk router).router
    ∃ acts t, Leads router s acts t ∧
      called acts = (before.toldOf s.accepts (s.withdrawals router handles)).flatMap
        Delivery.calls ∧
      t.frames = rest ∧ Beside s t ∧ t.Steady router := by
  intro before
  induction handles generalizing s with
  | nil =>
    have leads : Leads router s [] { s with frames := rest } := .quiet calm top rfl fun _ _ => rfl
    refine ⟨[], _, leads, ?_, rfl, .work s s.routers rest s.log, ?_⟩
    · simp [withdrawals, Router.toldOf, called]
    · exact steady.onward top rfl rfl leads steady.passive rfl (List.nil_append _).symm
        (List.forall_mem_nil _)
  | cons handle later ih =>
    obtain ⟨routed, others⟩ := List.forall_mem_cons.mp routed
    let opened : State := { s with frames := .close handle :: .closeAll later :: rest }
    have first : Leads router s [] opened := .quiet calm top rfl fun _ _ => rfl
    have ready : opened.Steady router :=
      steady.onward top rfl rfl first steady.passive rfl
        (show opened.frames = [.close handle, .closeAll later] ++ rest from rfl)
        (by simp [Frame.isPlain])
    obtain ⟨acts, closed, second, told, frames, settled, beside, steady⟩ :=
      close_leads ready rfl calm routed
    obtain ⟨more, t, third, told', frames', beside', steady'⟩ :=
      ih steady frames (beside.panic.trans calm) others
    have opening : opened.withdrawals router = s.withdrawals router := withdrawals_congr rfl rfl (by
      simp [isKeptAlive, opened, top, Frame.keepsAlive])
    have closing : closed.withdrawals router = s.withdrawals router := by
      refine (beside.withdrawals ?_).trans opening
      simp [isKeptAlive, opened, frames, Frame.keepsAlive]
    refine ⟨_, t, (first.append second).append third, ?_, frames', ?_, steady'⟩
    · rw [List.nil_append, called_append, told, told', beside.accepts, settled, opening, closing,
        withdrawals_cons s handle later, Router.toldOf_append, List.flatMap_append]
      rfl
    · exact (Beside.work s s.routers _ s.log).trans (beside.trans beside')

/-- The wrappers of a facade that is gone accept everything. -/
theorem accepts_of_gone {facade : Nat} {found : Facade} (there : s.facade? facade = some found)
    (gone : found.life = .gone) (listener : Nat) (server : Server) :
    s.accepts (.wrapped facade listener) server = true := by
  simp [State.accepts, registered?, there, gone]

/-- What the listeners of a facade are told anew when nothing has it any more, in whatever order the
registrations behind it are closed: whatever the implementations offer that are left after the first
closing, whether the listener would reject them or not, unless it has been told of that. -/
theorem vanishing_facade_tells {settings : RouterSettings} {wiring : Wiring} {facade : Nat}
    {found : Facade} {order : List Handle} (wired : only? wiring = some router)
    (run : Run (PassiveMove router) (start settings wiring) acts s)
    (there : s.facade? facade = some found) (gone : found.life = .gone)
    (top : s.frames = .closeAll handles :: rest) (calm : s.panic = none)
    (ordered : order.Perm handles) :
    let torn : State := { s with frames := .closeAll order :: rest }
    let before := (s.desk router).router
    ∃ fuel, (State.run fuel torn).frames = rest ∧
      ∀ subscription ∈ before.subscriptions, ∀ listener,
        subscription.listener = .wrapped facade listener →
          announced subscription.registration (called (torn.actsFor router fuel)) =
            before.revealed (fun _ _ => true) subscription (s.withdrawals router order) := by
  intro torn before
  obtain ⟨steady, -⟩ := run_steady run (start_steady settings wiring (only?_lt wired))
  have routed : ∀ handle ∈ handles, RoutedTo router handle := by
    have kept := run_behind (run.mono And.left) (start_behind settings wired)
      (start_tidy settings wiring) (start_sound settings wiring)
    exact kept.1.frames (.closeAll handles) (by simp [top])
  obtain ⟨below, rfl, rfl⟩ := eq_push_of_top top
  have put : (below.push [.closeAll order]).Steady router := steady.instead rfl rfl rfl trivial
  have ready : torn.Steady router := put
  obtain ⟨acts, t, ⟨-, fuel, done, made⟩, told, frames, -, -⟩ := closeAll_leads ready rfl calm
    fun handle member => routed handle (ordered.subset member)
  refine ⟨fuel, done ▸ frames, fun subscription opened listener wrapper => ?_⟩
  have withdrawals : torn.withdrawals router = (below.push [.closeAll handles]).withdrawals router :=
    withdrawals_congr rfl rfl rfl
  rw [made, told, withdrawals, announced_toldOf ready.orderly
    (fun change member => withdraws_of_withdrawals member) opened]
  exact Router.revealed_congr fun server => wrapper ▸ accepts_of_gone there gone listener server

/-! A facade with a listener that rejects both its implementations. -/

def costly (handle name : String) : Step :=
  .register .facade handle name (some ⟨5, .echo, []⟩) [⟨"a", none⟩]

def rejecting : List Step :=
  [.listen .facade "heard" "hearer" (some ⟨some (.rejecting [5]), [], []⟩), costly "first" "one",
    costly "second" "two"]

/-- The session has just given up the facade. -/
def abandoning : State :=
  State.take { (start .default .single).after 40 rejecting with log := [] } (.abandon .facade)

theorem run_abandoning :
    ∃ acts, Run (PassiveMove 0) (start .default .single) acts abandoning := by
  have prepared : Run (PassiveMove 0) (start .default .single) _
      ((start .default .single).after 40 rejecting) := run_passive_after (by decide +kernel)
  exact ⟨_, prepared.onward ⟨.take (by decide +kernel) (by decide +kernel) _, by decide +kernel⟩⟩

/-- What the facade has registered with the router, in the order in which it is closed. -/
def behind : List Handle :=
  [.opened () (.offer 0 2), .opened () (.offer 0 3), .opened () (.subscription 0 1)]

theorem frames_abandoning :
    abandoning.frames = .closeAll behind :: abandoning.frames.tail := by
  rfl

/-- The listener as the router sees it, which has been told of nothing. -/
def hearing : Subscription Watcher := ⟨1, .wrapped 0 0, []⟩

/-- What both implementations of the facade serve. -/
def costlyRpc : Current.Identifier := .global (.create false [⟨"a", by decide⟩])

theorem vanishing_facade_tells_rejected :
    ∃ fuel, (State.run fuel abandoning).frames = abandoning.frames.tail ∧
      announced 1 (called (abandoning.actsFor 0 fuel)) = [costlyRpc] := by
  obtain ⟨acts, run⟩ := run_abandoning
  obtain ⟨found, there, gone⟩ : ∃ found, abandoning.facade? 0 = some found ∧ found.life = .gone :=
    ⟨_, rfl, rfl⟩
  obtain ⟨fuel, done, tells⟩ := vanishing_facade_tells rfl run there gone frames_abandoning rfl
    (.refl behind)
  refine ⟨fuel, done, (tells hearing ?_ 0 rfl).trans ?_⟩
  · exact (show (abandoning.desk 0).router.subscriptions = [hearing] from rfl) ▸ List.mem_cons_self
  · decide +kernel

/-- A listener may be told of what only implementations serve that it rejects. -/
theorem rejected_is_announced :
    ¬ ∀ settings wiring router acts s facade found handles rest order fuel subscription listener,
      only? wiring = some router → Run (PassiveMove router) (start settings wiring) acts s →
      s.facade? facade = some found → found.life = .gone →
      s.frames = .closeAll handles :: rest → s.panic = none → order.Perm handles →
      (State.run fuel { s with frames := .closeAll order :: rest }).frames = rest →
      subscription ∈ (s.desk router).router.subscriptions →
      subscription.listener = .wrapped facade listener →
      ∀ rpc ∈ announced subscription.registration
        (called (State.actsFor router fuel { s with frames := .closeAll order :: rest })),
      ∃ offer ∈ (s.desk router).router.offers, rpc ∈ offer.rpcs ∧
        ∀ id implementation, offer.implementation = .adapted facade id implementation →
          s.listenerAccepts listener (.native implementation) = true := by
  intro never
  obtain ⟨acts, run⟩ := run_abandoning
  obtain ⟨offer, offered, -, accepted⟩ := never .default .single 0 acts abandoning 0 _ behind _
    behind 20 hearing 0 rfl run rfl rfl frames_abandoning rfl (.refl behind) rfl
    ((show (abandoning.desk 0).router.subscriptions = [hearing] from rfl) ▸ List.mem_cons_self) rfl
    costlyRpc (by decide +kernel)
  have adapters : ∀ offer ∈ (abandoning.desk 0).router.offers,
      offer.implementation = .adapted 0 2 0 ∨ offer.implementation = .adapted 0 3 1 := by
    decide +kernel
  rcases adapters offer offered with first | second
  · exact absurd (accepted 2 0 first) (by decide +kernel)
  · exact absurd (accepted 3 1 second) (by decide +kernel)

end State
end RpcRouting.Session
