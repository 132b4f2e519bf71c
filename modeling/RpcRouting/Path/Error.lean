/-! The ways in which the text of a path or of a name fails to be one. -/
namespace RpcRouting

/-- Why a text is not a path. -/
inductive PathError
  | empty
  | notAbsolute (text : String)
  /-- Two slashes meet, or a slash ends the path. -/
  | emptySegment (text : String)
  | invalidName (name : String)
  /-- A segment's key predicates cannot be read. -/
  | malformedPredicate (segment : String)
deriving DecidableEq, Repr

def PathError.message : PathError → String
  | .empty => "path is empty"
  | .notAbsolute text => "instance path `" ++ text ++ "` is not absolute"
  | .emptySegment text => "path `" ++ text ++ "` contains an empty segment"
  | .invalidName name => "invalid qualified name `" ++ name ++ "`"
  | .malformedPredicate segment => "malformed key predicate in `" ++ segment ++ "`"

end RpcRouting
