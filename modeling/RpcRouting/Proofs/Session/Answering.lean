import RpcRouting.Proofs.Router.Choosing
import RpcRouting.Proofs.Router.History
import RpcRouting.Proofs.Session.Lapsing
/-! What a call through a router comes to. At any time it can be told from the history of the router
alone: from the registrations made and not taken back, from the schema adopted last, and from the
settings. -/
namespace RpcRouting.Session

/-- What a router's implementation answers. An adapter asks the legacy implementation that it stands
for, and answers the same value and diagnostics, or the translation of the fault. -/
def Server.answer (server : Server) (found : Implementation) (rpc : Current.Identifier)
    (input : Option Payload) : Verdict .current :=
  match server with
  | .native _ => found.answerCurrent rpc input
  | .adapted _ _ _ =>
    match found.answerLegacy rpc.toLegacy input with
    | .ok ⟨value, diagnostics⟩ => .ok ⟨value, diagnostics⟩
    | .error fault => .error (fault.cross .default .legacy .current)

/-- An adapter does so. -/
theorem Server.answer_adapted (facade registration implementation : Nat) (found : Implementation)
    (rpc : Current.Identifier) (input : Option Payload) :
    Server.answer (.adapted facade registration implementation) found rpc input =
      adapterVerdict (found.answerLegacy rpc.toLegacy input) := by
  unfold Server.answer
  cases found.answerLegacy rpc.toLegacy input <;> rfl

/-- What the log says of a call of an implementation. -/
def Server.invocation (server : Server) (found : Implementation) (rpc : Current.Identifier) :
    Event :=
  match server with
  | .native _ => .invoked found.name .current rpc.describe
  | .adapted _ _ _ => .invoked found.name .legacy rpc.toLegacy.describe

def Event.isInvocation : Event → Bool
  | .invoked .. => true
  | _ => false

namespace State
variable {s : State} {router : Nat} {acts : List (Act Server Watcher)}

def invocations (s : State) : List Event := s.log.filter (·.isInvocation)

/-- What a call is to come to: who is called, with what, and what is answered. -/
def Answers (s : State) (type : SchemaPath) (input : Option Payload)
    (result : State × List Step × Verdict .current) : Choice (Offer Server) → Prop
  | .dispatch offer rpc =>
    ∃ found, s.implementations[offer.implementation.implementation]? = some found ∧
      result.1.invocations = s.invocations ++ [offer.implementation.invocation found rpc] ∧
      result.2 = (found.onInvoke.headD [], offer.implementation.answer found rpc input)
  | .unavailable => result.1.invocations = s.invocations ∧
      result.2 = ([], .error (.notAvailable
        ("No implementation of RPC " ++ type.render ++ " available") none))
  | .malformed error => result.1.invocations = s.invocations ∧
      result.2 = ([], .error (.failed ("Invalid context reference for RPC " ++ type.render)
        (some (.root (.path error)))))

/-- A note changes nothing but the log, and tells of no call. -/
theorem invocations_note (s : State) (level : Level) (message : String)
    (fields : List (String × String)) : (s.note level message fields).invocations = s.invocations := by
  simp [invocations, note, emit, Event.isInvocation]

theorem noteFallback_notes (s : State) (router : Router Server Watcher) (type : SchemaPath)
    (input : Option Payload) :
    (s.noteFallback router type input).implementations = s.implementations ∧
      (s.noteFallback router type input).invocations = s.invocations := by
  unfold noteFallback
  split
  · split
    · exact ⟨rfl, invocations_note s _ _ _⟩
    · exact ⟨rfl, rfl⟩
  · exact ⟨rfl, rfl⟩

theorem callServer_answers {server : Server} {found : Implementation}
    (there : s.implementations[server.implementation]? = some found) (rpc : Current.Identifier)
    (input : Option Payload) :
    (s.callServer server rpc input).1.invocations =
        s.invocations ++ [server.invocation found rpc] ∧
      (s.callServer server rpc input).2 =
        (found.onInvoke.headD [], server.answer found rpc input) := by
  unfold callServer
  rw [there]
  cases server with
  | native implementation =>
    refine ⟨?_, rfl⟩
    simp [invocations, emit, modifyImplementation, Event.isInvocation, Server.invocation]
  | adapted facade registration implementation =>
    refine ⟨?_, by rw [Server.answer_adapted]⟩
    simp [invocations, note, emit, modifyImplementation, Event.isInvocation, Server.invocation]

theorem callRouter_answers {found : Router Server Watcher} (there : s.router? router = some found)
    (known : s.KnowsRouter found) (orderly : found.Orderly) (type : SchemaPath)
    (input : Option Payload) :
    s.Answers type input (s.callRouter router type input)
      (choiceFrom found.offers (found.schema.contextField? type)
        found.settings.fallbackToGlobal type input) := by
  obtain ⟨implementations, silent⟩ := noteFallback_notes s found type input
  unfold callRouter
  simp only [there, found.choose_eq orderly]
  cases chosen : choiceFrom found.offers (found.schema.contextField? type)
      found.settings.fallbackToGlobal type input with
  | unavailable =>
    refine ⟨?_, rfl⟩
    exact (invocations_note _ _ _ _).trans silent
  | malformed error =>
    refine ⟨?_, rfl⟩
    exact (invocations_note _ _ _ _).trans silent
  | dispatch offer rpc =>
    have opened := (List.mem_filter.mp (serving_of_choiceFrom chosen)).1
    let noted := (s.noteFallback found type input).note .trace "dispatching RPC"
      [("rpc", rpc.render)]
    have kept : noted.implementations = s.implementations := implementations
    have quiet : noted.invocations = s.invocations := (invocations_note _ _ _ _).trans silent
    have there := List.getElem?_eq_getElem (known.offers offer opened)
    obtain ⟨called, answered⟩ := callServer_answers (s := noted) (by rw [kept]; exact there) rpc input
    exact ⟨_, there, called.trans (by rw [quiet]), answered⟩

/-- At any time in any run, a call through a router comes to what its history says; and what the
history has as open is what the router has, less whatever has its handle closed. -/
theorem call_answers {settings : RouterSettings} {wiring : Wiring} (there : router < 2)
    (run : Run (Move router) (start settings wiring) acts s) (frames : List Frame)
    (log : List Event) (type : SchemaPath) (input : Option Payload) :
    Answers { s with frames := frames, log := log } type input
      (State.callRouter { s with frames := frames, log := log } router type input)
      (choiceFrom (openOffers acts)
        (match latestSchema acts with
          | some schema => schema.contextField? type
          | none => fieldIn (configured settings router).definitions type)
        (configured settings router).fallbackToGlobal type input) ∧
      ∃ found, s.router? router = some found ∧ found.offers = openOffers acts ∧
        s.Withdraws router := by
  obtain ⟨known, attends, turns⟩ := turns_of_start there run
  have found := router?_desk attends.there
  have orderly := Desk.turns_orderly turns (.ofSettings _)
  have offers := Desk.turns_offers _ turns
  have fallback := congrArg RouterSettings.fallbackToGlobal (Desk.turns_settings turns)
  have field : (s.desk router).router.schema.contextField? type =
      match latestSchema acts with
      | some schema => schema.contextField? type
      | none => fieldIn (configured settings router).definitions type := by
    rw [Desk.turns_schema turns]
    cases latestSchema acts with
    | some schema => rfl
    | none => exact Schema.contextField?_ofList _ type
  have knows := known.router? found
  have answers := callRouter_answers (s := { s with frames := frames, log := log }) found
    ⟨knows.offers, knows.subscriptions, knows.pending⟩ orderly type input
  rw [offers, field, fallback] at answers
  exact ⟨answers, _, found, offers, known.withdraws attends orderly⟩

/-- Two implementations for every node and one for a node, where a field tells the node. -/
def routed : List Step :=
  [.updateSchema .router [("a", some "node")],
    .register .router "first" "dear" (some ⟨5, .echo, []⟩) [⟨"a", none⟩],
    .register .router "second" "cheap" (some ⟨1, .echo, []⟩) [⟨"a", none⟩],
    .register .router "third" "near" (some ⟨9, .echo, []⟩) [⟨"a", some "/x"⟩]]

theorem call_answers_routed :
    let acts := (start .default .single).actsAfter 0 40 routed
    let last := (start .default .single).after 40 routed
    let now : State := { last with frames := [], log := [] }
    let type := SchemaPath.create false [⟨"a", by decide⟩]
    let input (node : String) : Payload := .object [("node", .string node)]
    (∀ node, now.Answers type (some (input node)) (now.callRouter 0 type (some (input node)))
      (choiceFrom (openOffers acts)
        (match latestSchema acts with
          | some schema => schema.contextField? type
          | none => fieldIn (configured .default 0).definitions type)
        (configured .default 0).fallbackToGlobal type (some (input node)))) ∧
      (∃ found, last.router? 0 = some found ∧ found.offers = openOffers acts ∧ last.Withdraws 0) ∧
      ["/x", "/y"].map (fun node =>
          (now.callRouter 0 type (some (input node))).1.invocations.map fun
            | .invoked name _ _ => name
            | _ => "") = [["near"], ["cheap"]] := by
  have run : Run (CalmMove 0) (start .default .single) _ ((start .default .single).after 40 routed) :=
    run_after (by decide)
  have answers (node : String) := call_answers (by decide) (run.mono And.left) [] []
    (.create false [⟨"a", by decide⟩]) (some (.object [("node", .string node)]))
  exact ⟨fun node => (answers node).1, (answers "/x").2, by decide⟩

end State
end RpcRouting.Session
