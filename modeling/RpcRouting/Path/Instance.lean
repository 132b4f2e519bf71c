import RpcRouting.Path.Argument
/-! Instance paths lead from the root of the data to one node and give an RPC its context. The
empty path is the root and stands for the global context. -/
namespace RpcRouting

structure InstancePath where
  args : List PathArgument
deriving DecidableEq

namespace InstancePath

def empty : InstancePath := ⟨[]⟩

def isEmpty (path : InstancePath) : Bool := path.args.isEmpty

def length (path : InstancePath) : Nat := path.args.length

def child (path : InstancePath) (arg : PathArgument) : InstancePath := ⟨path.args ++ [arg]⟩

instance : Ord InstancePath := ⟨fun a b => compare a.args b.args⟩

def renderChars (path : InstancePath) : List Char :=
  if path.isEmpty then ['/'] else path.args.flatMap ('/' :: ·.renderChars)

def render (path : InstancePath) : String := String.ofList path.renderChars

def describe (path : InstancePath) : String := "InstancePath(" ++ path.render ++ ")"

/-- Where a scan for slashes stands: outside key predicates, inside one, or inside one just behind
a backslash. -/
inductive Scan
  | outside
  | inside
  | escaped
deriving DecidableEq, Repr

/-- A character behind a backslash has no meaning of its own. -/
def Scan.next : Scan → Char → Scan
  | .escaped, _ => .inside
  | .outside, c => if c = '[' then .inside else .outside
  | .inside, c => if c = '\\' then .escaped else if c = ']' then .outside else .inside

def consHead (c : Char) : List (List Char) → List (List Char)
  | [] => [[c]]
  | segment :: rest => (c :: segment) :: rest

/-- Splits a text at the slashes outside key predicates. -/
def splitSegments (scan : Scan) : List Char → List (List Char)
  | [] => [[]]
  | c :: rest =>
    if scan = .outside ∧ c = '/' then [] :: splitSegments .outside rest
    else consHead c (splitSegments (scan.next c) rest)

/-- Reads one segment of the text `whole`. -/
def parseSegment (whole segment : List Char) : Except PathError PathArgument :=
  if segment.isEmpty then .error (.emptySegment (String.ofList whole))
  else PathArgument.parse segment

def parseChars (text : List Char) : Except PathError InstancePath :=
  match Text.trim text with
  | [] => .error .empty
  | '/' :: body =>
    if body.isEmpty then .ok empty
    else (⟨·⟩) <$> (splitSegments .outside body).mapM (parseSegment ('/' :: body))
  | whole => .error (.notAbsolute (String.ofList whole))

/-- Reads an instance path, ignoring white space around it. -/
def parse (text : String) : Except PathError InstancePath := parseChars text.toList

end InstancePath

end RpcRouting
