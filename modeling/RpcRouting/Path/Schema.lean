import RpcRouting.Path.Name
/-! Schema paths name an RPC's type by the place of its definition. The path without components is
the root and counts as absolute, so that every schema path has a text. -/
namespace RpcRouting

structure SchemaPath where
  absolute : Bool
  components : List QualifiedName
  absolute_of_nil : components = [] → absolute = true
deriving DecidableEq

namespace SchemaPath

/-- The path with these components; without components it is the root. -/
def create (absolute : Bool) (components : List QualifiedName) : SchemaPath where
  absolute := absolute || components.isEmpty
  components := components
  absolute_of_nil := by rintro rfl; simp

def root : SchemaPath := create true []

def child (path : SchemaPath) (name : QualifiedName) : SchemaPath where
  absolute := path.absolute
  components := path.components ++ [name]
  absolute_of_nil := by simp

def last? (path : SchemaPath) : Option QualifiedName := path.components.getLast?

/-- Relative paths come before absolute ones, then the components decide. -/
instance : Ord SchemaPath :=
  ⟨fun a b => (compare a.absolute b.absolute).then (compare a.components b.components)⟩

/-- The components with one slash between any two. -/
def join : List QualifiedName → List Char
  | [] => []
  | [name] => name.chars
  | name :: rest => name.chars ++ '/' :: join rest

def renderChars (path : SchemaPath) : List Char :=
  if path.absolute then '/' :: join path.components else join path.components

def render (path : SchemaPath) : String := String.ofList path.renderChars

def describe (path : SchemaPath) : String := "SchemaPath(" ++ path.render ++ ")"

/-- Reads one segment of the text `whole`. -/
def parseSegment (whole segment : List Char) : Except PathError QualifiedName :=
  if segment.isEmpty then .error (.emptySegment (String.ofList whole))
  else QualifiedName.parse segment

/-- Reads the components of the text `whole`, which stand in `body`. -/
def parseBody (absolute : Bool) (whole body : List Char) : Except PathError SchemaPath :=
  if body.isEmpty then .ok root
  else (create absolute ·) <$> (body.splitOn '/').mapM (parseSegment whole)

def parseChars (text : List Char) : Except PathError SchemaPath :=
  match Text.trim text with
  | [] => .error .empty
  | '/' :: body => parseBody true ('/' :: body) body
  | whole => parseBody false whole whole

/-- Reads a schema path, ignoring white space around it. -/
def parse (text : String) : Except PathError SchemaPath := parseChars text.toList

end SchemaPath

end RpcRouting
