import RpcRouting.Fault
/-! Faults cross from one generation of the contract to the other. A fault of the target generation
passes as it is, also out of a bare shell around it; that nothing is available stays so; everything
else becomes the cause of a failure. -/
namespace RpcRouting

/-- How what has no counterpart in the target generation is wrapped. -/
structure CrossingPolicy where
  message : String
  /-- Whether a lack of implementations stays one. -/
  keepNotAvailable : Bool
  /-- Whether a failure around a fault of the target generation gives that fault. -/
  unwrapTarget : Bool
deriving DecidableEq, Repr

def CrossingPolicy.default : CrossingPolicy := ⟨"RPC failed", true, true⟩

variable {source : Generation}

def CrossingPolicy.wrap (policy : CrossingPolicy) (target : Generation) (fault : Fault) :
    RpcFault target :=
  .failed policy.message (some fault)

/-- Brings a fault of one generation into another. -/
def RpcFault.cross (fault : RpcFault source) (policy : CrossingPolicy) (target : Generation) :
    RpcFault target :=
  match fault.kind with
  | .notAvailable =>
    if policy.keepNotAvailable then .notAvailable fault.message fault.cause
    else policy.wrap target fault.toFault
  | .failed =>
    match fault.cause.bind (Fault.as? target) with
    | some inner => if policy.unwrapTarget then inner else policy.wrap target fault.toFault
    | none => policy.wrap target fault.toFault

/-- Brings any fault into the target generation, coming from the source generation. -/
def Fault.cross (fault : Fault) (policy : CrossingPolicy) (source target : Generation) :
    RpcFault target :=
  match fault.as? target with
  | some already => already
  | none =>
    match fault.as? source with
    | some own => own.cross policy target
    | none => policy.wrap target fault

end RpcRouting
