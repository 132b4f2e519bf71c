import RpcRouting.Payload.Shape
/-! Diagnostics accompany the result of a call. They do not make it a failure. -/
namespace RpcRouting

inductive Severity
  | error
  | warning
deriving DecidableEq, Repr

/-- The layer in which what a diagnostic tells happened. -/
inductive Layer
  | transport
  | rpc
  | protocol
  | application
deriving DecidableEq, Repr

structure Diagnostic where
  severity : Severity
  layer : Layer
  tag : String
  message : String
deriving DecidableEq, Repr

namespace Severity

def all : List (String × Severity) := [("error", .error), ("warning", .warning)]

def keyword : Severity → String
  | .error => "error"
  | .warning => "warning"

def title : Severity → String
  | .error => "Error"
  | .warning => "Warning"

def read (value : Payload) : Except ShapeError Severity := value.readVariant all

end Severity

namespace Layer

def all : List (String × Layer) :=
  [("transport", .transport), ("rpc", .rpc), ("protocol", .protocol), ("application", .application)]

def keyword : Layer → String
  | .transport => "transport"
  | .rpc => "rpc"
  | .protocol => "protocol"
  | .application => "application"

def title : Layer → String
  | .transport => "Transport"
  | .rpc => "Rpc"
  | .protocol => "Protocol"
  | .application => "Application"

def read (value : Payload) : Except ShapeError Layer := value.readVariant all

end Layer

namespace Diagnostic

def render (diagnostic : Diagnostic) : String :=
  diagnostic.severity.title ++ "/" ++ diagnostic.layer.title ++ " " ++ diagnostic.tag ++ ": " ++
    diagnostic.message

def toPayload (diagnostic : Diagnostic) : Payload :=
  .object [("severity", .string diagnostic.severity.keyword),
    ("error_type", .string diagnostic.layer.keyword),
    ("tag", .string diagnostic.tag), ("message", .string diagnostic.message)]

/-- A diagnostic of which some fields have been read. -/
structure Draft where
  severity : Option Severity
  layer : Option Layer
  tag : Option String
  message : Option String

def Draft.put (draft : Draft) (name : String) (value : Payload) : Except ShapeError Draft :=
  if name = "severity" then return { draft with severity := some (← Severity.read value) }
  else if name = "error_type" then return { draft with layer := some (← Layer.read value) }
  else if name = "tag" then return { draft with tag := some (← value.readString) }
  else if name = "message" then return { draft with message := some (← value.readString) }
  else return draft

def Draft.finish (draft : Draft) : Except ShapeError Diagnostic := do
  let some severity := draft.severity | throw (.missingField "severity")
  let some layer := draft.layer | throw (.missingField "error_type")
  let some tag := draft.tag | throw (.missingField "tag")
  let some message := draft.message | throw (.missingField "message")
  return ⟨severity, layer, tag, message⟩

def read (value : Payload) : Except ShapeError Diagnostic :=
  value.readRecord .refused "struct RpcDiagnostic" ["severity", "error_type", "tag", "message"] 4
    ⟨none, none, none, none⟩ Draft.put Draft.finish

end Diagnostic

end RpcRouting
