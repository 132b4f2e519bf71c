import RpcRouting.Path.Name
/-! One step of an instance path: a node, or an entry of a list found by the values of its keys.
Keys are kept in the order of their names, so that an entry has one form however its keys were
listed; keys of one name keep the order in which they were given. -/
namespace RpcRouting

/-- A key of an entry: its name and its value. -/
abbrev Key := QualifiedName × String

/-- Puts a key before the first key whose name does not come earlier. -/
def insertKey (key : Key) : List Key → List Key
  | [] => [key]
  | first :: rest =>
    if key.1 ≤ first.1 then key :: first :: rest else first :: insertKey key rest

/-- The keys in the order of their names; those of one name stay as they stand. -/
def sortKeys : List Key → List Key
  | [] => []
  | key :: rest => insertKey key (sortKeys rest)

theorem mem_insertKey {key other : Key} {keys : List Key} :
    other ∈ insertKey key keys ↔ other = key ∨ other ∈ keys := by
  induction keys with
  | nil => simp [insertKey]
  | cons first rest ih =>
    rw [insertKey]
    split
    · simp
    · simp only [List.mem_cons, ih]
      constructor
      · rintro (h | h | h) <;> simp [h]
      · rintro (h | h | h) <;> simp [h]

theorem pairwise_insertKey {key : Key} {keys : List Key}
    (sorted : keys.Pairwise (·.1 ≤ ·.1)) : (insertKey key keys).Pairwise (·.1 ≤ ·.1) := by
  induction keys with
  | nil => simp [insertKey]
  | cons first rest ih =>
    rw [List.pairwise_cons] at sorted
    rw [insertKey]
    split
    · rename_i before
      simp only [List.pairwise_cons, List.mem_cons]
      exact ⟨fun other member => member.elim (fun h => h ▸ before)
        fun h => QualifiedName.le_trans before (sorted.1 other h), sorted⟩
    · rename_i notBefore
      rw [List.pairwise_cons]
      refine ⟨fun other member => ?_, ih sorted.2⟩
      rcases mem_insertKey.1 member with rfl | h
      · exact (QualifiedName.le_total first.1 other.1).resolve_right notBefore
      · exact sorted.1 other h

theorem pairwise_sortKeys (keys : List Key) :
    (sortKeys keys).Pairwise (·.1 ≤ ·.1) := by
  induction keys with
  | nil => exact List.Pairwise.nil
  | cons key rest ih => exact pairwise_insertKey ih

/-- The keys that pick an entry out of a list. -/
structure Keys where
  toList : List Key
  sorted : toList.Pairwise (·.1 ≤ ·.1)
deriving DecidableEq

def Keys.ofList (keys : List Key) : Keys := ⟨sortKeys keys, pairwise_sortKeys keys⟩

inductive PathArgument
  | node (name : QualifiedName)
  | entry (name : QualifiedName) (keys : Keys)
deriving DecidableEq

namespace PathArgument

def name : PathArgument → QualifiedName
  | .node name => name
  | .entry name _ => name

def compareKey (a b : Key) : Ordering := (compare a.1 b.1).then (compare a.2 b.2)

/-- Plain nodes come before entries, then the names decide, then the keys. -/
instance : Ord PathArgument where
  compare
    | .node a, .node b => compare a b
    | .node _, .entry _ _ => .lt
    | .entry _ _, .node _ => .gt
    | .entry a keys, .entry b keys' =>
      (compare a b).then (List.compareLex compareKey keys.toList keys'.toList)

/-- The characters of a key's value that are written after a backslash. -/
def needsEscape (c : Char) : Bool := c == '\\' || c == '[' || c == ']'

def renderValue : List Char → List Char
  | [] => []
  | c :: rest => if needsEscape c then '\\' :: c :: renderValue rest else c :: renderValue rest

def renderKey (key : Key) : List Char :=
  '[' :: key.1.chars ++ '=' :: renderValue key.2.toList ++ [']']

def renderChars : PathArgument → List Char
  | .node name => name.chars
  | .entry name keys => name.chars ++ keys.toList.flatMap renderKey

def render (arg : PathArgument) : String := String.ofList arg.renderChars

/-- Reads a key's value up to the bracket that closes it; answers the value and what follows. -/
def readValue : List Char → Option (List Char × List Char)
  | [] => none
  | ']' :: rest => some ([], rest)
  | '[' :: _ => none
  | ['\\'] => none
  | '\\' :: c :: rest => (readValue rest).map fun (value, rest) => (c :: value, rest)
  | c :: rest => (readValue rest).map fun (value, rest) => (c :: value, rest)

theorem length_of_readValue {text value rest : List Char}
    (h : readValue text = some (value, rest)) : rest.length < text.length := by
  fun_induction readValue text generalizing value rest with
  | case1 => cases h
  | case2 => cases h; simp
  | case3 => cases h
  | case4 => cases h
  | case5 c tail ih =>
    obtain ⟨found, read, eq⟩ := Option.map_eq_some_iff.1 h
    cases eq
    have := @ih found.1 _ read
    simp only [List.length_cons]
    omega
  | case6 c tail _ _ _ _ ih =>
    obtain ⟨found, read, eq⟩ := Option.map_eq_some_iff.1 h
    cases eq
    have := @ih found.1 _ read
    simp only [List.length_cons]
    omega

/-- Reads one key predicate, `[name=value]`, at the start of a text; answers the key and what
follows. -/
def readKey (text : List Char) : Option (Key × List Char) :=
  match text with
  | '[' :: inner =>
    match inner.dropWhile (· != '=') with
    | _ :: afterName => do
      let name ← QualifiedName.ofChars? (inner.takeWhile (· != '='))
      let (value, rest) ← readValue afterName
      return ((name, String.ofList value), rest)
    | [] => none
  | _ => none

theorem length_of_readKey {text rest : List Char} {key : Key}
    (h : readKey text = some (key, rest)) : rest.length < text.length := by
  unfold readKey at h
  split at h
  · rename_i inner
    split at h
    · rename_i equals afterName found
      obtain ⟨name, _, h⟩ := Option.bind_eq_some_iff.1 h
      obtain ⟨⟨value, rest'⟩, read, h⟩ := Option.bind_eq_some_iff.1 h
      cases h
      have shorter := length_of_readValue read
      have bound := (List.dropWhile_suffix (l := inner) (· != '=')).length_le
      rw [found] at bound
      simp only [List.length_cons] at bound ⊢
      omega
    · cases h
  · cases h

/-- Reads key predicates to the end of the text. -/
def readKeys (text : List Char) : Option (List Key) :=
  if text.isEmpty then some []
  else
    match _read : readKey text with
    | none => none
    | some (key, rest) => (readKeys rest).map (key :: ·)
termination_by text.length
decreasing_by exact length_of_readKey _read

/-- Reads one segment: a name, or a name with key predicates behind it. -/
def parse (segment : List Char) : Except PathError PathArgument :=
  let name := segment.takeWhile (· != '[')
  let predicates := segment.dropWhile (· != '[')
  if predicates.isEmpty then .node <$> QualifiedName.parse name
  else do
    let name ← QualifiedName.parse name
    match readKeys predicates with
    | some keys => return .entry name (Keys.ofList keys)
    | none => throw (.malformedPredicate (String.ofList segment))

end PathArgument

end RpcRouting
