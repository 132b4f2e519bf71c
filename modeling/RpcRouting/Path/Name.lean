import RpcRouting.Path.Error
import RpcRouting.Text.Blank
/-! Qualified names: nonempty texts without the characters that paths reserve, ordered by code
point. -/
namespace RpcRouting

/-- The characters that paths give a meaning of their own, and white space. -/
def isReserved (c : Char) : Bool :=
  c == '/' || c == '[' || c == ']' || c == '=' || Text.isBlank c

def isName (cs : List Char) : Bool := !cs.isEmpty && cs.all (!isReserved ·)

/-- A name, possibly qualified by a module: `module:local` or `local`. -/
structure QualifiedName where
  text : String
  isName_text : isName text.toList = true
deriving DecidableEq

namespace QualifiedName

instance : Ord QualifiedName := ⟨fun a b => compare a.text b.text⟩

instance : LE QualifiedName := ⟨fun a b => a.text ≤ b.text⟩

instance : DecidableLE QualifiedName := fun a b => inferInstanceAs (Decidable (a.text ≤ b.text))

theorem le_total (a b : QualifiedName) : a ≤ b ∨ b ≤ a := String.le_total a.text b.text

theorem le_trans {a b c : QualifiedName} (h : a ≤ b) (h' : b ≤ c) : a ≤ c := String.le_trans h h'

def ofChars? (cs : List Char) : Option QualifiedName :=
  if h : isName cs = true then some ⟨String.ofList cs, by simpa using h⟩ else none

def parse (cs : List Char) : Except PathError QualifiedName :=
  match ofChars? cs with
  | some name => .ok name
  | none => .error (.invalidName (String.ofList cs))

def chars (name : QualifiedName) : List Char := name.text.toList

theorem ofChars?_chars (name : QualifiedName) : ofChars? name.chars = some name := by
  simp [ofChars?, chars, name.isName_text]

theorem chars_of_ofChars? {cs : List Char} {name : QualifiedName} (h : ofChars? cs = some name) :
    name.chars = cs := by
  unfold ofChars? at h
  split at h
  · cases h
    simp [chars]
  · cases h

/-- The module that qualifies the name: what stands before the first colon, if there is one. -/
def module? (name : QualifiedName) : Option String :=
  if ':' ∈ name.chars then some (String.ofList (name.chars.takeWhile (· != ':'))) else none

def localName (name : QualifiedName) : String :=
  if ':' ∈ name.chars then String.ofList ((name.chars.dropWhile (· != ':')).drop 1)
  else name.text

end QualifiedName

end RpcRouting
