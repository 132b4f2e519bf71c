import RpcRouting.Proofs.Router.Newcomers
import RpcRouting.Proofs.Router.Performing
import RpcRouting.Proofs.Session.Passive
/-! Listeners do not influence one another. What the listener of one registration hears in a session
with passive listeners is what a machine for it alone tells, which knows of the implementations that
come and go, of when the listener joins and leaves, of whom it accepts, and of whether it is to hear
of everything. -/
namespace RpcRouting.Session
open Current (Identifier)

/-- A listener that joins a router in a session with passive listeners, and that accepts all along
the implementations that it accepts for good. Nothing is asked of how other listeners accept them. -/
structure Subscriber where
  settings : RouterSettings
  wiring : Wiring
  router : Nat
  acts : List (Act Server Watcher)
  last : State
  /-- The number of the registration. -/
  number : Nat
  watcher : Watcher
  accepts : Acceptance Server Watcher
  there : router < 2
  run : Run (State.PassiveMove router) (State.start settings wiring) acts last
  joins : (number, watcher) ∈ newcomers acts
  constant : Constant ⟨(· = .subscription number), accepts⟩ acts

namespace Subscriber

def ticket (subscriber : Subscriber) : Ticket := .subscription subscriber.number

/-- What is done to the router, by tickets. -/
def errands (subscriber : Subscriber) : List (Errand Ticket Server Watcher) :=
  errandsOf subscriber.accepts subscriber.acts

def configuration (subscriber : Subscriber) : RouterSettings :=
  State.configured subscriber.settings subscriber.router

/-- The router to which nothing has been done. -/
def fresh (subscriber : Subscriber) : Followed Ticket Server Watcher :=
  .ofSettings subscriber.configuration

/-- Which implementations the listener accepts. -/
def cares (subscriber : Subscriber) : Server → Bool := subscriber.accepts subscriber.watcher

/-- What is of concern to the listener. -/
def concerns (subscriber : Subscriber) : List (Concern Server) :=
  subscriber.errands.filterMap (Errand.concern? subscriber.ticket)

/-- What the listener hears on account of its registration, also what it is still to hear. -/
def heard (subscriber : Subscriber) : List (Bool × List Identifier) :=
  (callsTo subscriber.number (called subscriber.acts ++
    (subscriber.last.desk subscriber.router).waiting)).map Call.content

theorem steps (subscriber : Subscriber) :
    Run Desk.Step ⟨.ofSettings subscriber.configuration, []⟩ subscriber.acts
      (subscriber.last.desk subscriber.router) := by
  obtain ⟨settings, wiring, router, acts, last, -, -, -, there, run, -, -⟩ := subscriber
  obtain ⟨-, run⟩ := State.run_steady run (State.start_steady settings wiring there)
  exact (State.steps_of_start there run).2.2

/-- The listener is registered once, and its number is that of its ticket. -/
theorem errands_eq (subscriber : Subscriber) :
    ∃ earlier now later, subscriber.errands =
        earlier ++ ⟨now, .listen subscriber.ticket subscriber.watcher⟩ :: later ∧
      (subscriber.fresh.after earlier).router.nextNumber = subscriber.number ∧
      ∀ errand ∈ earlier ++ later, errand.doing.opens? ≠ some subscriber.ticket :=
  Desk.errands_of_newcomer subscriber.steps subscriber.constant subscriber.joins

theorem repeats (subscriber : Subscriber) :
    Desk.Repeats ⟨(· = subscriber.ticket), subscriber.accepts⟩ subscriber.configuration
      subscriber.acts (subscriber.last.desk subscriber.router) :=
  Desk.turns_repeat (subscriber.steps.mono .step) subscriber.constant

theorem suits (subscriber : Subscriber) :
    ∀ errand ∈ subscriber.errands, errand.Suits subscriber.ticket subscriber.watcher := by
  intro errand member
  refine suits_of_mem member fun listener listens => ?_
  obtain ⟨earlier, now, later, same, -, once⟩ := subscriber.errands_eq
  rw [same] at member
  rcases List.mem_append.mp member with early | late
  · exact absurd (congrArg Doing.opens? listens) (once errand (List.mem_append_left _ early))
  · rcases List.mem_cons.mp late with rfl | late
    · cases listens
      rfl
    · exact absurd (congrArg Doing.opens? listens) (once errand (List.mem_append_right _ late))

/-- What is heard is what has been told of all that has been done. -/
theorem heard_eq_told (subscriber : Subscriber) : subscriber.heard =
    (callsTo subscriber.number
      ((subscriber.fresh.toldOf subscriber.errands).flatMap Delivery.calls)).map Call.content := by
  have told : subscriber.fresh.toldOf subscriber.errands = enqueued subscriber.acts :=
    subscriber.repeats.told
  rw [heard, told, ← Desk.run_waiting subscriber.steps]
  rfl

theorem heard_eq_hears (subscriber : Subscriber) :
    subscriber.heard = Solo.empty.hears subscriber.configuration.replayOnListen subscriber.cares
      subscriber.concerns := by
  obtain ⟨earlier, now, later, joins, number, once⟩ := subscriber.errands_eq
  have hears := Followed.contents_eq_hears rfl joins subscriber.repeats.fit once subscriber.suits
  rw [heard_eq_told, ← number]
  exact hears

/-- Whatever is done about other listeners may be left out. -/
theorem told_without (subscriber : Subscriber) {out : Finset Ticket}
    (others : ∀ ticket ∈ out, ticket.isOffer = false ∧ ticket ≠ subscriber.ticket) :
    let left := subscriber.errands.filter (·.isBeside out)
    ∃ earlier now later,
      left = earlier ++ ⟨now, .listen subscriber.ticket subscriber.watcher⟩ :: later ∧
      (callsTo (subscriber.fresh.after earlier).router.nextNumber
          ((subscriber.fresh.toldOf left).flatMap Delivery.calls)).map Call.content =
        Solo.empty.hears subscriber.configuration.replayOnListen subscriber.cares
          subscriber.concerns := by
  intro left
  obtain ⟨earlier, now, later, same, -, once⟩ := subscriber.errands_eq
  have stays : (⟨now, .listen subscriber.ticket subscriber.watcher⟩ :
      Errand Ticket Server Watcher).isBeside out = true := by
    simpa [Errand.isBeside, Doing.name?] using fun inside => (others _ inside).2 rfl
  have parts : left = earlier.filter (·.isBeside out) ++
      ⟨now, .listen subscriber.ticket subscriber.watcher⟩ :: later.filter (·.isBeside out) := by
    simp only [left, same, List.filter_append, List.filter_cons_of_pos stays]
  have fit : (Ledger.ofSettings subscriber.configuration).FitAll
      ⟨(· = subscriber.ticket), subscriber.accepts⟩ left := subscriber.repeats.fit.without out
  have once' : ∀ errand ∈ earlier.filter (·.isBeside out) ++ later.filter (·.isBeside out),
      errand.doing.opens? ≠ some subscriber.ticket := by
    rw [← List.filter_append]
    exact fun errand member => once errand (List.mem_of_mem_filter member)
  have hears := Followed.contents_eq_hears rfl parts fit once'
    fun errand member => subscriber.suits errand (List.mem_of_mem_filter member)
  rw [concerns_beside subscriber.suits others] at hears
  exact ⟨_, now, _, parts, hears⟩

/-- What a listener hears is no matter of other listeners. It is what the machine for it alone tells
of what is of concern to it; so it is the same when whatever is done about other listeners is left
out, and the same in every session with the same concerns, by whatever tickets implementations go
there. -/
theorem hears_for_itself (subscriber : Subscriber) :
    subscriber.heard = Solo.empty.hears subscriber.configuration.replayOnListen subscriber.cares
      subscriber.concerns ∧
    (∀ out : Finset Ticket,
      (∀ ticket ∈ out, ticket.isOffer = false ∧ ticket ≠ subscriber.ticket) →
      let left := subscriber.errands.filter (·.isBeside out)
      ∃ earlier now later,
        left = earlier ++ ⟨now, .listen subscriber.ticket subscriber.watcher⟩ :: later ∧
        Run Desk.Step ⟨subscriber.fresh.router, []⟩ (subscriber.fresh.actsOf left)
          ⟨(subscriber.fresh.after left).router, []⟩ ∧
        (callsTo (subscriber.fresh.after earlier).router.nextNumber
          (called (subscriber.fresh.actsOf left))).map Call.content = subscriber.heard) ∧
    ∀ (other : Subscriber) (names : Ticket → Ticket),
      other.configuration.replayOnListen = subscriber.configuration.replayOnListen →
      other.cares = subscriber.cares →
      Set.InjOn names {ticket | ticket ∈ subscriber.concerns.filterMap Concern.ticket?} →
      other.concerns = subscriber.concerns.map (Concern.rename names) →
      other.heard = subscriber.heard := by
  refine ⟨subscriber.heard_eq_hears, ?_, ?_⟩
  · intro out others left
    obtain ⟨earlier, now, later, parts, hears⟩ := subscriber.told_without others
    have run : Run Desk.Step ⟨subscriber.fresh.router, []⟩ (subscriber.fresh.actsOf left)
        ⟨(subscriber.fresh.after left).router, []⟩ := Followed.run_actsOf rfl
    refine ⟨earlier, now, later, parts, run, ?_⟩
    rw [Followed.called_actsOf, hears, subscriber.heard_eq_hears]
  · intro other names replays cares apart concerns
    have nobody : ∀ offer ∈ (Solo.empty : Solo Server).offers,
        offer.1 ∈ {ticket | ticket ∈ subscriber.concerns.filterMap Concern.ticket?} :=
      List.forall_mem_nil _
    have renamed := Solo.hears_rename subscriber.configuration.replayOnListen subscriber.cares apart
      nobody fun concern member ticket goes => List.mem_filterMap.mpr ⟨concern, member, goes⟩
    rw [other.heard_eq_hears, subscriber.heard_eq_hears, replays, cares, concerns, ← renamed]
    rfl

/-! A listener in company. -/

/-- A listener that rejects what is dear, with whatever is done about others meanwhile. -/
def amid (before beside after : List Step) : List Step :=
  before ++ [.register .router "cheap" "cheap" (some ⟨1, .echo, []⟩) [⟨"a", none⟩],
    .listen .router "own" "hearer" (some ⟨some (.rejecting [5]), [], []⟩)] ++
  beside ++ [.register .router "dear" "dear" (some ⟨5, .echo, []⟩) [⟨"b", none⟩],
    .register .router "fair" "fair" (some ⟨2, .echo, []⟩) [⟨"c", none⟩]] ++
  after ++ [.close "cheap", .close "own", .close "fair"]

/-- Two other listeners come and go, one of which rejects what is cheap. -/
def crowded : List Step :=
  amid [.listen .router "first" "early" (some ⟨none, [], []⟩)]
    [.listen .router "second" "late" (some ⟨some (.rejecting [1]), [], []⟩)]
    [.close "first", .close "second"]

def acceptsFair : Acceptance Server Watcher := fun _ server => server != .native 1

def inCompany : Subscriber where
  settings := .default
  wiring := .single
  router := 0
  acts := (State.start .default .single).actsAfter 0 40 crowded
  last := (State.start .default .single).after 40 crowded
  number := 3
  watcher := .native 1
  accepts := acceptsFair
  there := by decide
  run := State.run_passive_after (by decide +kernel)
  joins := by decide +kernel
  constant := by decide +kernel

def alone : Subscriber where
  settings := .default
  wiring := .single
  router := 0
  acts := (State.start .default .single).actsAfter 0 40 (amid [] [] [])
  last := (State.start .default .single).after 40 (amid [] [] [])
  number := 2
  watcher := .native 0
  accepts := acceptsFair
  there := by decide
  run := State.run_passive_after (by decide +kernel)
  joins := by decide +kernel
  constant := by decide +kernel

theorem hears_for_itself_in_company :
    inCompany.heard.map (fun told => (told.1, told.2.map (·.render))) =
      [(true, ["a"]), (true, ["c"]), (false, ["a"])] ∧
    (∃ earlier now later, inCompany.errands.filter
        (·.isBeside {.subscription 1, .subscription 4}) =
          earlier ++ ⟨now, .listen (.subscription 3) (.native 1)⟩ :: later ∧
      (callsTo (inCompany.fresh.after earlier).router.nextNumber
        (called (inCompany.fresh.actsOf (inCompany.errands.filter
          (·.isBeside {.subscription 1, .subscription 4}))))).map Call.content =
            inCompany.heard) ∧
    alone.heard = inCompany.heard := by
  obtain ⟨-, without, same⟩ := inCompany.hears_for_itself
  refine ⟨by decide +kernel, ?_, ?_⟩
  · obtain ⟨earlier, now, later, parts, -, heard⟩ :=
      without {.subscription 1, .subscription 4} (by decide)
    exact ⟨earlier, now, later, parts, heard⟩
  · let names : Ticket → Ticket := fun ticket =>
      if ticket = .offer 2 then .offer 1 else if ticket = .offer 5 then .offer 3 else .offer 4
    have apart : ∀ first ∈ inCompany.concerns.filterMap Concern.ticket?,
        ∀ second ∈ inCompany.concerns.filterMap Concern.ticket?,
          names first = names second → first = second := by decide +kernel
    exact same alone names rfl rfl (fun first here second there => apart first here second there)
      (by decide +kernel)

end Subscriber
end RpcRouting.Session
