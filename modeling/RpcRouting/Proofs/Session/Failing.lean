import RpcRouting.Proofs.Fault.Crossing
import RpcRouting.Proofs.Session.Answering
/-! What becomes of the faults of an implementation that is registered and called through facades:
they cross into the current generation behind the facade and back on the way to the caller. -/
namespace RpcRouting.Session

theorem facadeVerdict_adapterVerdict (fault : RpcFault .legacy) :
    facadeVerdict (adapterVerdict (.error fault.toFault)) =
      .error ((fault.toFault.cross .default .legacy .current).cross .default .legacy) := rfl

theorem Server.answer_of_fault {plan : Implementation} {fault : Fault}
    (fails : plan.outcome = .fault fault) (facade id implementation : Nat)
    (rpc : Current.Identifier) (input : Option Payload) :
    (Server.adapted facade id implementation).answer plan rpc input =
      adapterVerdict (.error fault) := by
  rw [answer_adapted]
  simp only [Implementation.answerLegacy, fails]

namespace State
variable {s : State}

/-- A router calls the implementation that it finds. -/
theorem callRouter_of_choose {router : Nat} {found : Router Server Watcher} {server : Server}
    {rpc : Current.Identifier} {plan : Implementation} {type : SchemaPath} {input : Option Payload}
    (there : s.router? router = some found) (chosen : found.choose type input = .dispatch server rpc)
    (known : s.implementations[server.implementation]? = some plan) :
    (s.callRouter router type input).1.invocations =
        s.invocations ++ [server.invocation plan rpc] ∧
      (s.callRouter router type input).2 = (plan.onInvoke.headD [], server.answer plan rpc input) := by
  obtain ⟨implementations, silent⟩ := noteFallback_notes s found type input
  let noted := (s.noteFallback found type input).note .trace "dispatching RPC" [("rpc", rpc.render)]
  have kept : noted.implementations = s.implementations := implementations
  have quiet : noted.invocations = s.invocations := (invocations_note _ _ _ _).trans silent
  obtain ⟨called, answered⟩ := callServer_answers (s := noted) (by rw [kept]; exact known) rpc input
  unfold callRouter
  simp only [there, chosen]
  exact ⟨called.trans (by rw [quiet]), answered⟩

/-- A fault of the legacy contract that an implementation behind a facade answers crosses twice on
its way to the caller. It comes back as it went, except as the shell of a current fault. So the
caller of a facade receives what crosses back. -/
theorem fault_comes_back (fault : RpcFault .legacy) :
    let received := (fault.toFault.cross .default .legacy .current).cross .default .legacy
    (received = fault ↔ fault.ComesBackFrom .current) ∧
      (∀ inner, fault.shelled? .current = some inner → received = inner.cross .default .legacy) ∧
      ∀ (s : State) (target : Target) (id router : Nat) (facade : Facade)
        (found : Router Server Watcher) (text : String) (type : SchemaPath) (input : Option Payload)
        (home number implementation : Nat) (rpc : Current.Identifier) (plan : Implementation),
        s.targets.facade? target = some id → s.facade? id = some facade →
        facade.service = some router → s.router? router = some found →
        SchemaPath.parse text = .ok type →
        found.choose type input = .dispatch (.adapted home number implementation) rpc →
        s.implementations[implementation]? = some plan → plan.outcome = .fault fault.toFault →
        ∃ called : State,
          called.invocations =
            s.invocations ++ [.invoked plan.name .legacy rpc.toLegacy.describe] ∧
          s.invoke target text input = called.push [.script (plan.onInvoke.headD []),
            .answer (.returned .legacy (.error received)), .letGo (.facade id)] := by
  intro received
  have different : Generation.legacy ≠ .current := by decide
  have crossed : received = (fault.cross .default .current).cross .default .legacy :=
    congrArg (·.cross .default .legacy) (RpcFault.cross_toFault different fault)
  refine ⟨?_, ?_, ?_⟩
  · rw [crossed]
    exact fault.cross_cross_eq_iff
  · intro inner shell
    rw [crossed, RpcFault.cross_of_shelled? shell]
  · intro s target id router facade found text type input home number implementation rpc plan
      targeted there service routed read chosen known fails
    obtain ⟨called, answered⟩ := callRouter_of_choose routed chosen known
    refine ⟨(s.callRouter router type input).1, called, ?_⟩
    have result : s.callService facade.service type input =
        ((s.callRouter router type input).1, plan.onInvoke.headD [],
          adapterVerdict (.error fault.toFault)) := by
      rw [service, ← Server.answer_of_fault fails home number implementation rpc input, ← answered]
      rfl
    simp only [invoke, withTarget, targeted, there, withRead, read, result,
      facadeVerdict_adapterVerdict]
    rfl

/-- A facade with an implementation that always answers the same fault. -/
def failing (fault : RpcFault .legacy) : State :=
  (start .default .single).after 40
    [.register .facade "served" "server" (some ⟨0, .fault fault.toFault, []⟩) [⟨"a", none⟩]]

/-- A fault within faults of both generations that comes back as it went. -/
def offline : RpcFault .legacy :=
  .failed "RPC failed" (some (RpcFault.toFault (g := .current)
    (.failed "link down" (some (.root (.foreign "cable cut"))))))

theorem fault_comes_back_offline :
    offline.ComesBackFrom .current ∧
      ∃ called : State,
        called.invocations = [.invoked "server" .legacy
          (Legacy.Identifier.global (.create false [⟨"a", by decide⟩])).describe] ∧
        (failing offline).invoke .facade "a" none = called.push [.script [],
          .answer (.returned .legacy (.error offline)), .letGo (.facade 0)] := by
  have shell : offline.ComesBackFrom .current := by
    rintro inner ⟨⟩
    exact ⟨rfl, rfl, rfl⟩
  refine ⟨shell, ?_⟩
  obtain ⟨back, -, received⟩ := fault_comes_back offline
  rw [back.mpr shell] at received
  exact received (failing offline) .facade 0 0 _ _ "a" _ none 0 1 0 _ _ rfl rfl rfl rfl rfl rfl rfl
    rfl

/-- A failure directly around a current fault. -/
def shelled : RpcFault .legacy :=
  .failed "quota exceeded" (some (RpcFault.toFault (g := .current) (.failed "disk full" none)))

theorem shelled_does_not_come_back :
    ((failing shelled).after 40 [.invoke .facade "a" none]).answer =
        .returned .legacy (.error (.failed "RPC failed"
          (some (RpcFault.toFault (g := .current) (.failed "disk full" none))))) ∧
      (shelled.toFault.cross .default .legacy .current).cross .default .legacy ≠ shelled :=
  ⟨rfl, by decide⟩

end State
end RpcRouting.Session
