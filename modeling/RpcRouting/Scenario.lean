import RpcRouting.Session.Run
/-! A scenario wires routers and facades together, takes steps one after the other, and reports after
each what it answered, what was logged and how things stand. -/
namespace RpcRouting

open Session

/-- How the facades of a scenario are connected to its routers. -/
inductive Layout
  | single
  /-- The facade has a router of its own, which nothing else can reach. -/
  | own
  /-- The facade's service serves nothing; implementations go to the router. -/
  | stub
  /-- Calls and listeners go to the router, implementations to a second one. -/
  | split
  | two
deriving DecidableEq, Repr

/-- How a scenario is put together. -/
structure Wiring where
  layout : Layout
  /-- In which order each facade closes its registrations. -/
  order : Nat → Order

namespace Wiring

/-- A layout whose facades close their registrations in the order in which they were made. -/
def orderly (layout : Layout) : Wiring := ⟨layout, fun _ => .asEntered⟩

def single : Wiring := orderly .single

def own : Wiring := orderly .own

def stub : Wiring := orderly .stub

def split : Wiring := orderly .split

def two : Wiring := orderly .two

end Wiring

structure Scenario where
  settings : RouterSettings
  wiring : Wiring
  steps : List Step

/-- How a router stands: what it has available and how often its schema was updated. -/
structure RouterReport where
  available : List String
  generation : Nat

/-- How a facade stands: how many registrations of each kind it has. -/
structure FacadeReport where
  implementations : Nat
  listeners : Nat

structure StepReport where
  answer : Answer
  log : List Event
  facade : Option FacadeReport
  facade2 : Option FacadeReport
  router : Option RouterReport
  second : Option RouterReport

namespace Session.State

def start (settings : RouterSettings) (wiring : Wiring) : State where
  targets :=
    { facade := some 0
      facade2 := if wiring.layout = .two then some 1 else none
      router := some 0
      second := if wiring.layout = .split then some 1 else none }
  routers := [.ofSettings settings, .ofSettings .default]
  facades :=
    match wiring.layout with
    | .single => [.connecting (some 0) 0 (wiring.order 0)]
    | .own => [.connecting (some 1) 1 (wiring.order 0)]
    | .stub => [.connecting none 0 (wiring.order 0)]
    | .split => [.connecting (some 0) 1 (wiring.order 0)]
    | .two => [.connecting (some 0) 0 (wiring.order 0), .connecting (some 0) 0 (wiring.order 1)]
  implementations := []
  listeners := []
  handles := []
  implementationNames := []
  listenerNames := []
  handleNames := []
  frames := []
  log := []
  answer := .text ""
  panic := none

def reportFacade (s : State) (target : Target) : Option FacadeReport :=
  ((s.targets.facade? target).bind s.facade?).map fun facade =>
    ⟨facade.roster.records.length, facade.roster.listeners.length⟩

def reportRouter (s : State) (target : Target) : Option RouterReport :=
  ((s.targets.router? target).bind s.router?).map fun router =>
    ⟨(router.available.map (·.render)).mergeSort fun a b => a ≤ b, router.generation⟩

def report (s : State) : StepReport where
  answer := s.answer
  log := s.log
  facade := s.reportFacade .facade
  facade2 := s.reportFacade .facade2
  router := s.reportRouter .router
  second := s.reportRouter .second

def takeAll (fuel : Nat) (s : State) : List Step → List StepReport
  | [] => []
  | step :: rest =>
    let next := s.perform fuel step
    next.report :: takeAll fuel next rest

end Session.State

namespace Scenario

/-- More work than one step can cause: every step in the scenario runs once at most, releases at
most every registration, and each release is told to every listener. -/
def fuel (scenario : Scenario) : Nat :=
  let size := scriptSize scenario.steps + 1
  64 * (size * size * size)

def run (scenario : Scenario) : List StepReport :=
  (State.start scenario.settings scenario.wiring).takeAll scenario.fuel scenario.steps

end Scenario

end RpcRouting
