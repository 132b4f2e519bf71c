import RpcRouting.Session.Step
/-! How a session runs: the work on the stack goes on piece by piece, until none is left, and a panic
clears the stack down to the step that was taken first. -/
namespace RpcRouting.Session.State

variable (s : State)

/-- Makes the next delivery of a router. After the last one the duty is handed back. -/
def deliverNext (router : Nat) : State :=
  match s.router? router with
  | none => s
  | some found =>
    match found.nextDelivery? with
    | none => s.modifyRouter router (·.stopDelivering)
    | some (delivery, rest) =>
      (s.modifyRouter router fun _ => rest).push
        (delivery.calls.map (.call router) ++ [.deliver router])

/-- The listeners that a facade has at the moment are to be released. -/
def releaseListeners (facade : Nat) : State :=
  match s.facade? facade with
  | none => s
  | some found =>
    s.push (found.arranged.listeners.map fun (number, _) => .releaseListener facade number)

/-- Goes on with the work that was on top of the stack. -/
def enter : Frame → State
  | .script [] => s
  | .script (step :: rest) => (s.push [.report step.name, .script rest]).take step
  | .report name => s.emit (.stepped name s.answer)
  | .answer answer => s.reply answer
  | .answerClosed handle => s.reply (.closed (s.isClosed handle))
  | .change router change => s.change router change
  | .adopt router schema => s.adopt router schema
  | .deliver router => s.deliverNext router
  | .call _ call => s.callListener call
  | .keep name handle answer => s.keep name handle answer
  | .close handle => s.close handle
  | .closeKept handle => s.closeKept handle
  | .complete facade id underlying => s.complete facade id underlying
  | .completeListener facade id underlying => s.completeListener facade id underlying
  | .release facade id => s.beginRelease facade id
  | .finishRelease facade id => s.finishRelease facade id
  | .releaseListener facade id => s.beginListenerRelease facade id
  | .finishListenerRelease id => s.finishListenerRelease id
  | .releaseListeners facade => s.releaseListeners facade
  | .letGo resource => s.letGo resource
  | .closeAll [] => s
  | .closeAll (handle :: rest) => s.push [.close handle, .closeAll rest]
  | .resume message => { s with panic := some message }

/-- Gives up the work that was on top of the stack, because a panic passes through it. The duty to
deliver is handed back, and what nothing keeps alive any more goes as it would without the panic.
Where a roster is being torn down the rest of its registrations is still closed, each by its own drop.
A program may do less: of the entries that stand in one part of a map with the one whose drop panicked
the rest may never be dropped, and a second panic on the way of the first one aborts it. -/
def giveUp (message : String) : Frame → State
  | .deliver router => s.modifyRouter router (·.stopDelivering)
  | .letGo resource => State.letGo (State.push { s with panic := none } [.resume message]) resource
  | .closeAll handles => State.push { s with panic := none } [.closeAll handles, .resume message]
  | _ => s

def advance : State :=
  match s.frames with
  | [] => s
  | frame :: rest =>
    match s.panic with
    | none => State.enter { s with frames := rest } frame
    | some message => State.giveUp { s with frames := rest } message frame

/-- Works until nothing is left to do, at most so many pieces. -/
def run : Nat → State → State
  | 0, s => s
  | fuel + 1, s => if s.frames.isEmpty then s else run fuel s.advance

/-- Takes a step with all that follows from it. A panic that nothing stops is the answer. -/
def perform (fuel : Nat) (step : Step) : State :=
  let done := State.run fuel (State.take { s with log := [] } step)
  match done.panic with
  | none => done
  | some message => { done with answer := .panicked message, panic := none }

end RpcRouting.Session.State
