import RpcRouting.Payload
/-! A TOML document is a table of tables that its statements build up in turn. A table remembers
how it came to be, which decides what may still be added to it. -/
namespace RpcRouting.Toml

inductive Origin
  | implied
  | dotted
  | declared
deriving DecidableEq

inductive Node
  | value (payload : Payload)
  | table (origin : Origin) (entries : List (String × Node))
  /-- An array of tables, each with a header of its own. -/
  | tables (items : List (List (String × Node)))

abbrev Entries := List (String × Node)

mutual

def Node.toPayload : Node → Payload
  | .value payload => payload
  | .table _ entries => .object (entriesToPayloads entries)
  | .tables items => .array (itemsToPayloads items)

def entriesToPayloads : List (String × Node) → List (String × Payload)
  | [] => []
  | (key, node) :: rest => (key, node.toPayload) :: entriesToPayloads rest

def itemsToPayloads : List (List (String × Node)) → List Payload
  | [] => []
  | entries :: rest => .object (entriesToPayloads entries) :: itemsToPayloads rest

end

namespace Entries

/-- Changes the node of a key where it stands. -/
def replace (entries : Entries) (key : String) (node : Node) : Entries :=
  entries.map fun entry => if entry.1 = key then (key, node) else entry

/-- Changes the table at the end of a path. Tables that are missing on the way are made with the
origin `made`; a dotted key may not go through a table that has a header. Of an array of tables the
last one is meant. -/
def update (made : Origin) (act : Origin → Entries → Option Entries) :
    List String → Origin → Entries → Option Entries
  | [], origin, entries => act origin entries
  | key :: path, _, entries =>
    match entries.lookup key with
    | none => do
      let inner ← update made act path made []
      return entries ++ [(key, .table made inner)]
    | some (.value _) => none
    | some (.table origin inner) =>
      if made = .dotted ∧ origin = .declared then none
      else do
        let inner ← update made act path origin inner
        return entries.replace key (.table origin inner)
    | some (.tables items) => do
      let inner ← update made act path .declared (← items.getLast?)
      return entries.replace key (.tables (items.dropLast ++ [inner]))

/-- Gives a new key in a table its value. A dotted key may only add to tables that dotted keys have
made. -/
def assign (path : List String) (key : String) (payload : Payload) (entries : Entries) :
    Option Entries :=
  update .dotted (fun origin entries =>
    if (origin == .dotted) == path.isEmpty ∨ (entries.lookup key).isSome then none
    else some (entries ++ [(key, .value payload)])) path .declared entries

/-- Starts a table by its header. One that so far was only implied goes to the end. -/
def declare (path : List String) (key : String) (entries : Entries) : Option Entries :=
  update .implied (fun _ entries =>
    match entries.lookup key with
    | none => some (entries ++ [(key, .table .declared [])])
    | some (.table .implied inner) =>
      some (entries.filter (·.1 != key) ++ [(key, .table .declared inner)])
    | some _ => none) path .declared entries

/-- Starts the next table of an array by its header. -/
def append (path : List String) (key : String) (entries : Entries) : Option Entries :=
  update .implied (fun _ entries =>
    match entries.lookup key with
    | none => some (entries ++ [(key, .tables [[]])])
    | some (.tables items) => some (entries.replace key (.tables (items ++ [[]])))
    | some _ => none) path .declared entries

/-- Does something to the table whose header stands last. -/
def inSection (header : List String) (act : Entries → Option Entries) (entries : Entries) :
    Option Entries :=
  update .implied (fun _ entries => act entries) header .declared entries

end Entries

/-- One statement of a document. A path leads to the table, a key names what is in it. -/
inductive Statement
  | assignment (path : List String) (key : String) (payload : Payload)
  | header (path : List String) (key : String)
  | itemHeader (path : List String) (key : String)

/-- The table that statements build, unless one of them contradicts those before it. -/
def build (statements : List Statement) : Option Entries :=
  let step : List String × Entries → Statement → Option (List String × Entries)
    | (header, entries), .assignment path key payload => do
      return (header, ← entries.inSection header (Entries.assign path key payload))
    | (_, entries), .header path key => do
      return (path ++ [key], ← entries.declare path key)
    | (_, entries), .itemHeader path key => do
      return (path ++ [key], ← entries.append path key)
  (statements.foldlM step ([], [])).map (·.2)

end RpcRouting.Toml
