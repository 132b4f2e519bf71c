import RpcRouting.Diagnostic
import RpcRouting.Identifier
/-! Replies are what successful calls answer. Both generations of the contract carry the same
value and diagnostics. -/
namespace RpcRouting

structure Reply (generation : Generation) where
  value : Option Payload
  diagnostics : List Diagnostic
deriving BEq

namespace Reply

variable {g : Generation}

def ofValue (value : Option Payload) : Reply g := ⟨value, []⟩

def convert (reply : Reply g) (target : Generation) : Reply target :=
  ⟨reply.value, reply.diagnostics⟩

/-- The reply without a value and without diagnostics. -/
def default : Reply g := ⟨none, []⟩

@[simp]
theorem convert_convert (reply : Reply g) (target : Generation) :
    (reply.convert target).convert g = reply := rfl

end Reply

end RpcRouting
