import RpcRouting.Proofs.Router.Aiming
import RpcRouting.Proofs.Session.Answering
/-! Calls about a node of the data. Where an open registration declares the identifier of a node, a
call of a routed type whose input tells the node, in whatever spelling, comes to the best of those
registrations; and a call that tells something else never comes to one that is for the node only. -/
namespace RpcRouting.Session.State
open InstancePath (Denotes)

variable {s : State} {router : Nat} {acts : List (Act Server Watcher)}

/-- The field in which inputs carry the context, by the schema adopted last. -/
def routingField (configured : RouterSettings) (acts : List (Act Server Watcher))
    (type : SchemaPath) : Option String :=
  match latestSchema acts with
  | some schema => schema.contextField? type
  | none => fieldIn configured.definitions type

/-- At any time in any run a router is as its history tells. -/
theorem router?_of_run {settings : RouterSettings} {wiring : Wiring} (there : router < 2)
    (run : Run (Move router) (start settings wiring) acts s) :
    ∃ found, s.router? router = some found ∧ s.KnowsRouter found ∧ found.Orderly ∧
      found.offers = openOffers acts ∧ found.settings = configured settings router ∧
      found.schema.contextField? = routingField (configured settings router) acts := by
  obtain ⟨known, attends, turns⟩ := turns_of_start there run
  have found := router?_desk attends.there
  refine ⟨_, found, known.router? found, Desk.turns_orderly turns (.ofSettings _),
    Desk.turns_offers _ turns, Desk.turns_settings turns, ?_⟩
  funext type
  rw [Desk.turns_schema turns, routingField]
  cases latestSchema acts with
  | some schema => rfl
  | none => exact Schema.contextField?_ofList _ type

/-- Where a type is routed by a field and an open registration declares the identifier of a node, a
call whose input denotes the node in that field comes to the best registration that does. One whose
input denotes another node, or none, comes to no registration that is for the node only. -/
theorem addressed_call_answers {settings : RouterSettings} {wiring : Wiring} (there : router < 2)
    (run : Run (Move router) (start settings wiring) acts s) (frames : List Frame)
    (log : List Event) {type : SchemaPath} {field : String}
    (routed : routingField (configured settings router) acts type = some field)
    {origin : String} {context : InstancePath} (read : InstancePath.parse origin = .ok context)
    (proper : context ≠ .empty) {offer : Offer Server} (opened : offer ∈ openOffers acts)
    (declares : .create type (some context) ∈ offer.rpcs) {fields : List (String × Payload)}
    {text : String} (carried : fields.lookup field = some (.string text)) :
    let now : State := { s with frames := frames, log := log }
    let input : Option Payload := some (.object fields)
    let choice := choiceFrom (openOffers acts) (some field)
      (configured settings router).fallbackToGlobal type input
    now.Answers type input (now.callRouter router type input) choice ∧
      Denotes context.render context ∧
      (Denotes text context → ∃ best, IsBest (openOffers acts) (.create type (some context)) best ∧
        choice = .dispatch best (.create type (some context))) ∧
      (¬Denotes text context → ∀ only ∈ openOffers acts,
        (∀ rpc ∈ only.rpcs, rpc.context = context) → ∀ rpc, choice ≠ .dispatch only rpc) := by
  intro now input choice
  obtain ⟨found, there, knows, orderly, offers, same, fields⟩ := router?_of_run there run
  have answers := callRouter_answers (s := now) there
    ⟨knows.offers, knows.subscriptions, knows.pending⟩ orderly type input
  rw [fields, routed, offers, same] at answers
  have sorted := orderly.offers
  rw [offers] at sorted
  have served : offer ∈ serving (openOffers acts) (.create type (some context)) :=
    List.mem_filter.mpr ⟨opened, decide_eq_true declares⟩
  refine ⟨answers, InstancePath.parse_eq_ok_iff.mp (InstancePath.parse_render_of_parse read),
    fun denotes => choiceFrom_of_denotes carried _ sorted denotes proper served, ?_⟩
  intro other only _ bound rpc dispatched
  have serves := (List.mem_filter.mp (serving_of_choiceFrom dispatched)).2
  exact context_ne_of_choiceFrom carried _ other proper dispatched
    (bound rpc (by simpa using serves))

/-- One implementation for every node and two for a node, the dearer one registered first. -/
def addressed : List Step :=
  [.updateSchema .router [("dim", some "node")],
    .register .router "first" "cheap" (some ⟨1, .echo, []⟩) [⟨"dim", none⟩],
    .register .router "second" "far" (some ⟨9, .echo, []⟩) [⟨"dim", some "/lamp[x=w][y=1]"⟩],
    .register .router "third" "near" (some ⟨5, .echo, []⟩) [⟨"dim", some "/lamp[x=w][y=1]"⟩]]

/-- The node of the last two. -/
def addressedNode : InstancePath :=
  ⟨[.entry ⟨"lamp", by decide⟩ (Keys.ofList [(⟨"x", by decide⟩, "w"), (⟨"y", by decide⟩, "1")])]⟩

def addressedType : SchemaPath := .create false [⟨"dim", by decide⟩]

theorem openOffers_addressed : openOffers ((start .default .single).actsAfter 0 40 addressed) =
    [⟨1, 1, .native 0, [.global addressedType]⟩,
      ⟨2, 9, .native 1, [.create addressedType (some addressedNode)]⟩,
      ⟨3, 5, .native 2, [.create addressedType (some addressedNode)]⟩] := by cbv

theorem latestSchema_addressed :
    latestSchema ((start .default .single).actsAfter 0 40 addressed) =
      some (.ofList [⟨addressedType, some "node"⟩]) := by cbv

theorem addressed_call_answers_respelled :
    let acts := (start .default .single).actsAfter 0 40 addressed
    let now : State := { (start .default .single).after 40 addressed with frames := [], log := [] }
    let input : Option Payload := some (.object [("node", .string " /lamp[y=1][x=\\w] ")])
    ∃ best, IsBest (openOffers acts) (.create addressedType (some addressedNode)) best ∧
      now.Answers addressedType input (now.callRouter 0 addressedType input)
        (.dispatch best (.create addressedType (some addressedNode))) ∧
      (now.callRouter 0 addressedType input).1.invocations =
        [.invoked "near" .current
          "Local \x7b type: dim, contextReference: /lamp[x=w][y=1] \x7d"] := by
  intro acts now input
  have run : Run (CalmMove 0) (start .default .single) acts
      ((start .default .single).after 40 addressed) := run_after (by cbv)
  have routed : routingField (configured .default 0) acts addressedType = some "node" := by
    rw [routingField, latestSchema_addressed]
    decide
  have read : InstancePath.parse " /lamp[y=1][x=\\w] " = .ok addressedNode := by cbv
  have proper : addressedNode ≠ .empty := by simp [addressedNode, InstancePath.empty]
  have near : (⟨3, 5, .native 2, [.create addressedType (some addressedNode)]⟩ : Offer Server) ∈
      openOffers acts := by
    rw [openOffers_addressed]
    simp
  obtain ⟨answers, -, finds, -⟩ := addressed_call_answers (by decide) (run.mono And.left) [] []
    routed read proper near List.mem_cons_self
    (show [("node", Payload.string " /lamp[y=1][x=\\w] ")].lookup "node" = some _ from rfl)
  obtain ⟨best, isBest, same⟩ := finds (InstancePath.parse_eq_ok_iff.mp read)
  rw [same] at answers
  exact ⟨best, isBest, answers, by cbv⟩

end RpcRouting.Session.State
