import RpcRouting.Proofs.Session.Lapsing
import RpcRouting.Proofs.Session.Offering
/-! Under which identifiers implementations are called. What an implementation is to serve is
declared when it is registered, as a set of identifiers of the contract it is written for. Whatever
happens later, it is called under members of such a set only, and through a facade it is handed the
legacy identifier that was declared. -/
namespace RpcRouting.Session

/-- What is declared for an implementation that is registered with a router, or through a facade
under a number of its own. -/
inductive Declaration
  | current (router implementation : Nat) (rpcs : List Current.Identifier)
  | legacy (facade number implementation : Nat) (rpcs : List Legacy.Identifier)

/-- What is declared for an implementation to whom it is to be registered with. -/
def Addressee.declarations (implementation : Nat) (rpcs : List IdentifierText) :
    Addressee → List Declaration
  | .facade id found =>
    match rpcs.mapM (·.readLegacy) with
    | .ok rpcs => [.legacy id found.roster.nextNumber implementation rpcs.eraseDups]
    | .error _ => []
  | .router id _ =>
    match rpcs.mapM (·.readCurrent) with
    | .ok rpcs => [.current id implementation rpcs.eraseDups]
    | .error _ => []

namespace State

/-- What a step declares. -/
def declarations (s : State) : Step → List Declaration
  | .register target _ name plan rpcs =>
    match s.introduceImplementation name plan with
    | some (_, implementation) =>
      ((s.addressee? target).map (·.declarations implementation rpcs)).getD []
    | none => []
  | _ => []

/-- What the next piece of work declares. -/
def declared (s : State) : List Declaration :=
  match s.panic, s.frames with
  | none, .script (step :: _) :: _ => s.declarations step
  | _, _ => []

end State

/-- Between the generations identifiers are converted without loss, so that a set of identifiers
stays what it is. -/
structure IdentifiersConvert : Prop where
  back : ∀ rpc : Legacy.Identifier, rpc.toCurrent.toLegacy = rpc
  forth : ∀ rpc : Current.Identifier, rpc.toLegacy.toCurrent = rpc
  /-- A local identifier of the current contract is about a node. -/
  proper : ∀ rpc : Current.Identifier, rpc.context? ≠ some .empty
  legacy : ∀ type, Legacy.Identifier.create type (some .empty) = .global type ∧
    Legacy.Identifier.create type none = .global type
  current : ∀ type, Current.Identifier.create type (some .empty) = .global type ∧
    Current.Identifier.create type none = .global type
  members : ∀ (rpcs : List Legacy.Identifier) (rpc : Current.Identifier),
    rpc ∈ rpcs.map (·.toCurrent) ↔ rpc.toLegacy ∈ rpcs
  sets : ∀ rpcs : List Legacy.Identifier, (rpcs.map (·.toCurrent)).Nodup ↔ rpcs.Nodup

theorem identifiersConvert : IdentifiersConvert where
  back := Legacy.Identifier.toLegacy_toCurrent
  forth := Current.Identifier.toCurrent_toLegacy
  proper rpc := by
    obtain ⟨type, scope⟩ := rpc
    cases scope with
    | global => exact nofun
    | within context nonempty => exact fun same => nonempty (Option.some.inj same)
  legacy _ := ⟨rfl, rfl⟩
  current _ := ⟨rfl, rfl⟩
  members rpcs rpc := by
    constructor
    · intro member
      obtain ⟨given, there, rfl⟩ := List.mem_map.mp member
      rwa [Legacy.Identifier.toLegacy_toCurrent]
    · intro there
      exact List.mem_map.mpr ⟨_, there, Current.Identifier.toCurrent_toLegacy rpc⟩
  sets rpcs := List.nodup_map_iff
    (Function.LeftInverse.injective Legacy.Identifier.toLegacy_toCurrent)

/-- A move of a session, with what is declared by it. -/
inductive Declaring : State → List Declaration → State → Prop
  | take {s : State} (rest : s.frames = []) (calm : s.panic = none) (step : Step) :
      Declaring s (s.declarations step) (State.take { s with log := [] } step)
  | work {s : State} (busy : s.frames ≠ []) : Declaring s s.declared s.advance
  | land {s : State} {message : String} (rest : s.frames = []) (panicked : s.panic = some message) :
      Declaring s [] { s with answer := .panicked message, panic := none }

/-- What a router is offered for a server has been declared for the implementation behind it. An
adapter is offered for the identifiers that were declared, each of them converted. -/
def Declares (declared : List Declaration) (router : Nat) (rpcs : List Current.Identifier) :
    Server → Prop
  | .native implementation => .current router implementation rpcs ∈ declared
  | .adapted facade number implementation =>
    ∃ given, .legacy facade number implementation given ∈ declared ∧ rpcs = given.map (·.toCurrent)

/-- An open registration serves what has been declared for its implementation, and the identifier
under which the implementation is called belongs to it. A legacy implementation is handed the legacy
identifier. -/
inductive Entitled (declared : List Declaration) (router : Nat) (offer : Offer Server)
    (rpc : Current.Identifier) : Prop
  | current {implementation : Nat} {given : List Current.Identifier}
      (declares : .current router implementation given ∈ declared)
      (server : offer.implementation = .native implementation) (serves : offer.rpcs = given)
      (member : rpc ∈ given)
  | legacy {facade number implementation : Nat} {given : List Legacy.Identifier}
      (declares : .legacy facade number implementation given ∈ declared)
      (server : offer.implementation = .adapted facade number implementation)
      (serves : offer.rpcs = given.map (·.toCurrent)) (member : rpc.toLegacy ∈ given)

theorem Declares.mono {declared more : List Declaration} {router : Nat} {server : Server}
    {rpcs : List Current.Identifier} (declares : Declares declared router rpcs server)
    (subset : declared ⊆ more) : Declares more router rpcs server := by
  cases server with
  | native implementation => exact subset declares
  | adapted facade number implementation =>
    obtain ⟨given, member, same⟩ := declares
    exact ⟨given, subset member, same⟩

theorem Declares.entitled {declared : List Declaration} {router : Nat} {offer : Offer Server}
    {rpc : Current.Identifier}
    (declares : Declares declared router offer.rpcs offer.implementation)
    (member : rpc ∈ offer.rpcs) : Entitled declared router offer rpc := by
  cases server : offer.implementation with
  | native implementation =>
    rw [server] at declares
    exact .current declares server rfl member
  | adapted facade number implementation =>
    rw [server] at declares
    obtain ⟨given, there, same⟩ := declares
    exact .legacy there server same ((identifiersConvert.members given rpc).mp (same ▸ member))

namespace State
variable {s t u : State}

/-- What a router is about to be offered has been on the stack before, or is declared now. -/
def Offers (s : State) (declared : List Declaration) (t : State) : Prop :=
  ∀ router server cost rpcs, .change router (.register server cost rpcs) ∈ t.frames →
    .change router (.register server cost rpcs) ∈ s.frames ∨ Declares declared router rpcs server

theorem Offerless.offers (offerless : s.Offerless t) (declared : List Declaration) :
    s.Offers declared t :=
  fun _ _ _ _ member => .inl (offerless _ member rfl)

/-- A registration with a router declares what the router is offered. -/
theorem registerWith_offers {declared : List Declaration} {server : Server}
    {rpcs : List Current.Identifier} (declares : Declares declared router rpcs server) :
    s.Offers declared (s.registerWith router server rpcs) := by
  intro home offered cost given member
  rw [(Leaves.registerWith s router server rpcs).frames] at member
  unfold offerFrames at member
  split at member
  · exact .inl member
  · rcases List.mem_cons.mp member with new | old
    · cases new
      exact .inr declares
    · exact .inl old

theorem Offers.after {declared : List Declaration} (first : s.Offerless t)
    (offers : t.Offers declared u) : s.Offers declared u :=
  fun router server cost rpcs member =>
    (offers router server cost rpcs member).imp_left fun old => first _ old rfl

theorem register_offers (s : State) (target : Target) (handle : String) (implementation : Nat)
    (rpcs : List IdentifierText) :
    s.Offers (((s.addressee? target).map (·.declarations implementation rpcs)).getD [])
      (s.register target handle implementation rpcs) := by
  simp only [State.register, withTarget_eq, State.withRead]
  cases s.addressee? target with
  | none => exact (Offerless.of_eq rfl).offers _
  | some addressee =>
    cases addressee with
    | facade id found =>
      simp only [Option.map_some, Option.getD_some, Addressee.declarations]
      cases rpcs.mapM (·.readLegacy) with
      | error error => exact (Offerless.of_eq rfl).offers _
      | ok given =>
        have declares : Declares
            [.legacy id found.roster.nextNumber implementation given.eraseDups] found.provider
            (given.eraseDups.map (·.toCurrent))
            (.adapted id found.roster.nextNumber implementation) :=
          ⟨_, List.mem_singleton_self _, rfl⟩
        exact .after (.pushed rfl (by simp [Frame.registers])) (registerWith_offers declares)
    | router id found =>
      simp only [Option.map_some, Option.getD_some, Addressee.declarations]
      cases rpcs.mapM (·.readCurrent) with
      | error error => exact (Offerless.of_eq rfl).offers _
      | ok given =>
        have declares : Declares [.current id implementation given.eraseDups] id given.eraseDups
            (.native implementation) := List.mem_singleton_self _
        exact .after (.push s (by simp [Frame.registers])) (registerWith_offers declares)

theorem take_offers (s : State) (step : Step) : s.Offers (s.declarations step) (s.take step) := by
  by_cases other : ∀ target handle name plan rpcs, step ≠ .register target handle name plan rpcs
  · exact (take_offerless s other).offers _
  · push Not at other
    obtain ⟨target, handle, name, plan, rpcs, rfl⟩ := other
    simp only [State.take, declarations]
    cases known : s.introduceImplementation name plan with
    | none => exact (Offerless.of_eq rfl).offers _
    | some introduced =>
      obtain ⟨introduced, implementation⟩ := introduced
      obtain ⟨implementations, names, rfl⟩ := introduceImplementation_eq known
      exact .after (.of_eq rfl) (register_offers _ target handle implementation rpcs)

/-! Runs. -/

theorem declarations_congr (s : State) (frames : List Frame) (log : List Event) (step : Step) :
    State.declarations { s with frames := frames, log := log } step = s.declarations step := by
  cases step with
  | register target handle name plan rpcs =>
    cases plan with
    | none =>
      simp only [declarations, introduceImplementation]
      cases s.implementationNames.lookup name <;> rfl
    | some plan => rfl
  | _ => rfl

end State

namespace Declaring
variable {s t : State} {now declared : List Declaration} {router : Nat}

theorem move (declaring : Declaring s now t) (router : Nat) : ∃ acts, Move router s acts t := by
  cases declaring with
  | take rest calm step => exact ⟨_, .take rest calm step⟩
  | work busy => exact ⟨_, .work busy⟩
  | land rest panicked => exact ⟨_, .land rest panicked⟩

theorem offers (declaring : Declaring s now t) : s.Offers now t := by
  cases declaring with
  | take rest calm step =>
    have taken := State.take_offers { s with log := [] } step
    rw [State.declarations_congr s s.frames []] at taken
    exact taken
  | land rest panicked => exact (State.Offerless.of_eq rfl).offers _
  | work busy =>
    obtain ⟨below, frame, rfl⟩ := State.eq_push_of_busy busy
    have lifted {t : State} (offerless : below.Offerless t) : (below.push [frame]).Offerless t :=
      fun other member registers => List.mem_cons_of_mem _ (offerless other member registers)
    cases panicked : below.panic with
    | some message =>
      rw [State.advance_push_of_panic panicked]
      exact (lifted (State.giveUp_offerless message frame)).offers _
    | none =>
      rw [State.advance_push panicked]
      by_cases other : ∀ step later, frame ≠ .script (step :: later)
      · exact (lifted (State.enter_offerless other)).offers _
      · push Not at other
        obtain ⟨step, later, rfl⟩ := other
        have label : (below.push [.script (step :: later)]).declared =
            (below.push [.report step.name, .script later]).declarations step := by
          rw [State.declared,
            show (below.push [.script (step :: later)]).panic = none from panicked]
          exact (State.declarations_congr below _ below.log step).trans
            (State.declarations_congr below _ below.log step).symm
        rw [label]
        exact .after (lifted (.push below (by simp [Frame.registers]))) (State.take_offers _ step)

end Declaring

/-- Every move declares something, if only nothing, so no run is left out. -/
theorem Move.declaring {s t : State} {router : Nat} {acts : List (Act Server Watcher)}
    (move : Move router s acts t) : ∃ declared, Declaring s declared t := by
  cases move with
  | take rest calm step => exact ⟨_, .take rest calm step⟩
  | work busy => exact ⟨_, .work busy⟩
  | land rest panicked => exact ⟨_, .land rest panicked⟩

namespace State
variable {s t : State} {router : Nat} {now declared : List Declaration}

theorem mem_frames_of_acts {before : Router Server Watcher} {accepts : Acceptance Server Watcher}
    {change : Change Server Watcher} (made : .changed before accepts change ∈ s.acts router) :
    .change router change ∈ s.frames := by
  unfold acts at made
  split at made
  · rename_i frame rest found _ top _
    rw [top]
    cases frame with
    | change other change =>
      simp only [Frame.acts] at made
      split at made
      · rename_i own
        cases List.mem_singleton.mp made
        rw [own]
        exact List.mem_cons_self
      · cases made
    | adopt | call =>
      simp only [Frame.acts] at made
      split at made
      · cases List.mem_singleton.mp made
      · cases made
    | deliver other =>
      simp only [Frame.acts] at made
      split at made
      · obtain ⟨taken, -, same⟩ := Option.map_eq_some_iff.mp (Option.mem_toList.mp made)
        cases same
      · cases made
    | _ => cases made
  · cases made

/-- Whatever is open at a router, or about to be, has been declared. -/
structure Founded (router : Nat) (declared : List Declaration) (s : State) : Prop where
  known : s.Known
  attends : s.Attends router
  orderly : (s.desk router).router.Orderly
  offers : ∀ offer ∈ (s.desk router).router.offers,
    Declares declared router offer.rpcs offer.implementation
  frames : ∀ server cost rpcs, .change router (.register server cost rpcs) ∈ s.frames →
    Declares declared router rpcs server

theorem Founded.onward (founded : s.Founded router declared) (declaring : Declaring s now t) :
    t.Founded router (declared ++ now) := by
  obtain ⟨acts, move⟩ := declaring.move router
  obtain ⟨attends, turn, -⟩ := Move.turn move founded.known founded.attends
  have older {server : Server} {rpcs : List Current.Identifier}
      (declares : Declares declared router rpcs server) :
      Declares (declared ++ now) router rpcs server :=
    declares.mono (List.subset_append_left _ _)
  have made {before : Router Server Watcher} {accepts : Acceptance Server Watcher}
      {change : Change Server Watcher} (made : .changed before accepts change ∈ acts) :
      .change router change ∈ s.frames := by
    cases move with
    | work => exact mem_frames_of_acts made
    | take | land => cases made
  refine ⟨Move.known move founded.known, attends, turn.orderly founded.orderly, ?_, ?_⟩
  · intro offer member
    have counted := congrArg Prod.snd turn.recount
    rw [← show _ = (t.desk router).router.offers from counted] at member
    rcases mem_recount member with old | ⟨before, accepts, registered⟩
    · exact older (founded.offers offer old)
    · exact older (founded.frames _ _ _ (made registered))
  · intro server cost rpcs member
    rcases declaring.offers router server cost rpcs member with old | new
    · exact older (founded.frames server cost rpcs old)
    · exact new.mono (List.subset_append_right _ _)

theorem start_founded (settings : RouterSettings) (wiring : Wiring) (there : router < 2) :
    (start settings wiring).Founded router [] := by
  refine ⟨start_known settings wiring, start_attends settings wiring there, ?_, ?_, nofun⟩
  · rw [start_desk settings wiring there]
    exact .ofSettings _
  · rw [start_desk settings wiring there]
    exact nofun

theorem Founded.run (founded : s.Founded router declared) (run : Run Declaring s now t) :
    t.Founded router (declared ++ now) := by
  induction run with
  | still => exact (List.append_nil declared).symm ▸ founded
  | onward _ declaring ih => exact List.append_assoc .. ▸ ih.onward declaring

/-- At any time in any run a call reaches nobody, or an implementation whose registration is open,
as closing its handle ends it, and that has declared the identifier under which it is called. -/
theorem invokes_as_declared {settings : RouterSettings} {wiring : Wiring} (there : router < 2)
    (run : Run Declaring (start settings wiring) declared s) (frames : List Frame)
    (log : List Event) (type : SchemaPath) (input : Option Payload) :
    let now : State := { s with frames := frames, log := log }
    let called := now.callRouter router type input
    IdentifiersConvert ∧ s.Withdraws router ∧ ∃ found, s.router? router = some found ∧
      (called.1.invocations = now.invocations ∨
        ∃ offer ∈ found.offers, ∃ rpc, Entitled declared router offer rpc ∧
          ∃ implementation,
            s.implementations[offer.implementation.implementation]? = some implementation ∧
            called.1.invocations =
              now.invocations ++ [offer.implementation.invocation implementation rpc] ∧
            called.2 = (implementation.onInvoke.headD [],
              offer.implementation.answer implementation rpc input)) := by
  intro now called
  have founded : s.Founded router declared := (start_founded settings wiring there).run run
  have found := router?_desk founded.attends.there
  have knows := founded.known.router? found
  have answers := callRouter_answers (s := now) found
    ⟨knows.offers, knows.subscriptions, knows.pending⟩ founded.orderly type input
  refine ⟨identifiersConvert, founded.known.withdraws founded.attends founded.orderly, _, found, ?_⟩
  cases chosen : choiceFrom (s.desk router).router.offers
      ((s.desk router).router.schema.contextField? type)
      (s.desk router).router.settings.fallbackToGlobal type input with
  | unavailable | malformed =>
    rw [chosen] at answers
    exact .inl answers.1
  | dispatch offer rpc =>
    rw [chosen] at answers
    obtain ⟨implementation, reached, invoked, answered⟩ := answers
    obtain ⟨opened, serves⟩ := List.mem_filter.mp (serving_of_choiceFrom chosen)
    have declares := founded.offers offer opened
    exact .inr ⟨offer, opened, rpc, declares.entitled (by simpa using serves), implementation,
      reached, invoked, answered⟩

/-! A session with declarations of both kinds. -/

def declaredFor : Nat → State → List Declaration
  | 0, _ => []
  | fuel + 1, s => if s.frames.isEmpty then [] else s.declared ++ declaredFor fuel s.advance

theorem run_declaring_work (fuel : Nat) (s : State) :
    Run Declaring s (declaredFor fuel s) (State.run fuel s) :=
  run_of_work declaredFor (fun _ _ => True) (fun _ => rfl) (fun _ _ => rfl)
    (fun _ _ busy _ => ⟨.work busy, trivial⟩) trivial

/-- What is declared in steps taken one after the other, with so many pieces of work for each. -/
def declaredAfter (fuel : Nat) (s : State) : List Step → List Declaration
  | [] => []
  | step :: rest =>
    let taken := State.take { s with log := [] } step
    s.declarations step ++ declaredFor fuel taken ++ declaredAfter fuel (State.run fuel taken) rest

theorem run_declaring_after {fuel : Nat} {steps : List Step}
    (rests : s.restsAfter fuel steps = true) :
    Run Declaring s (s.declaredAfter fuel steps) (s.after fuel steps) := by
  induction steps generalizing s with
  | nil => exact .still
  | cons step rest ih =>
    simp only [restsAfter, Bool.and_eq_true, List.isEmpty_iff, Option.isNone_iff_eq_none] at rests
    obtain ⟨⟨idle, calm⟩, later⟩ := rests
    exact ((Run.single (.take idle calm step)).append (run_declaring_work fuel _)).append (ih later)

/-- An implementation for a type, and a cheaper one for the same type that is registered through a
facade, where one of its identifiers is given twice. -/
def sharedType : List Step :=
  [.register .router "first" "native" (some ⟨5, .echo, []⟩) [⟨"state", none⟩],
    .register .facade "second" "legacy" (some ⟨1, .echo, []⟩)
      [⟨"state", some "/"⟩, ⟨"reset", some "/engine"⟩, ⟨"state", none⟩]]

def sharedDeclared : List Declaration :=
  [.current 0 0 [.global (.create false [⟨"state", by decide⟩])],
    .legacy 0 1 1 [.global (.create false [⟨"state", by decide⟩]),
      .create (.create false [⟨"reset", by decide⟩]) (some ⟨[.node ⟨"engine", by decide⟩]⟩)]]

theorem declaredAfter_sharedType :
    (start .default .single).declaredAfter 60 sharedType = sharedDeclared := by cbv

theorem invokes_as_declared_converted :
    let now : State := { (start .default .single).after 60 sharedType with frames := [], log := [] }
    let called := now.callRouter 0 (.create false [⟨"state", by decide⟩]) none
    ((start .default .single).after 60 sharedType).Withdraws 0 ∧
      ∃ found, now.router? 0 = some found ∧ ∃ offer ∈ found.offers, ∃ rpc,
        Entitled sharedDeclared 0 offer rpc ∧ ∃ implementation,
          called.1.invocations = [offer.implementation.invocation implementation rpc] ∧
          called.1.invocations = [.invoked "legacy" .legacy
            "RpcIdentifier \x7b type: state, contextReference: / \x7d"] := by
  have run : Run Declaring (start .default .single) sharedDeclared
      ((start .default .single).after 60 sharedType) := by
    rw [← declaredAfter_sharedType]
    exact run_declaring_after (by decide +kernel)
  have invoked : (State.callRouter
      { (start .default .single).after 60 sharedType with frames := [], log := [] } 0
      (.create false [⟨"state", by decide⟩]) none).1.invocations =
        [.invoked "legacy" .legacy
          "RpcIdentifier \x7b type: state, contextReference: / \x7d"] := by cbv
  obtain ⟨-, withdraws, found, there,
    nobody | ⟨offer, opened, rpc, entitled, implementation, -, calls, -⟩⟩ :=
    invokes_as_declared (show 0 < 2 by decide) run [] [] (.create false [⟨"state", by decide⟩]) none
  · cases invoked.symm.trans nobody
  · exact ⟨withdraws, found, there, offer, opened, rpc, entitled, implementation, calls, invoked⟩

end State
end RpcRouting.Session
