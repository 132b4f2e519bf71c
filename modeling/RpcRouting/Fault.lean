import RpcRouting.Identifier
/-! Faults are why calls fail. A fault is a link and, where something else caused it, the fault that
did; its chain lists the links from the outermost to the root cause. -/
namespace RpcRouting

/-- The two ways in which a call fails under either contract. -/
inductive FaultKind
  | notAvailable
  | failed
deriving DecidableEq, Repr

/-- A fault without what caused it. -/
inductive Link
  | rpc (generation : Generation) (kind : FaultKind) (message : String)
  | path (error : PathError)
  /-- A fault of neither contract. -/
  | foreign (message : String)
deriving DecidableEq, Repr

inductive Fault
  | root (link : Link)
  | caused (link : Link) (cause : Fault)
deriving DecidableEq, Repr

structure RpcFault (generation : Generation) where
  kind : FaultKind
  message : String
  cause : Option Fault
deriving DecidableEq, Repr

def Link.message : Link → String
  | .rpc _ _ message => message
  | .path error => error.message
  | .foreign message => message

namespace Fault

def ofLink (link : Link) : Option Fault → Fault
  | none => .root link
  | some cause => .caused link cause

def link : Fault → Link
  | .root link => link
  | .caused link _ => link

def cause? : Fault → Option Fault
  | .root _ => none
  | .caused _ cause => some cause

/-- The links of a fault, the outermost first. -/
def chain : Fault → List Link
  | .root link => [link]
  | .caused link cause => link :: cause.chain

def as? (generation : Generation) (fault : Fault) : Option (RpcFault generation) :=
  match fault.link with
  | .rpc found kind message => if found = generation then some ⟨kind, message, fault.cause?⟩ else none
  | _ => none

end Fault

namespace RpcFault

variable {g : Generation}

def notAvailable (message : String) (cause : Option Fault) : RpcFault g :=
  ⟨.notAvailable, message, cause⟩

def failed (message : String) (cause : Option Fault) : RpcFault g := ⟨.failed, message, cause⟩

def link (fault : RpcFault g) : Link := .rpc g fault.kind fault.message

def toFault (fault : RpcFault g) : Fault := .ofLink fault.link fault.cause

def isNotAvailable (fault : RpcFault g) : Bool := fault.kind == .notAvailable

end RpcFault

@[simp]
theorem Fault.as?_toFault {g : Generation} (fault : RpcFault g) :
    fault.toFault.as? g = some fault := by
  obtain ⟨kind, message, cause⟩ := fault
  cases cause <;> simp [RpcFault.toFault, RpcFault.link, ofLink, as?, Fault.link, cause?]

end RpcRouting
