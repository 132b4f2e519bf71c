import RpcRouting.Toml.Document
import RpcRouting.Toml.Scalar
/-! Reading a whole TOML text, in its version 1.0. This is the parser that programs here run with;
nothing else depends on which one it is. -/
namespace RpcRouting.Toml

/-- Values nest less deep than this, and a key has fewer parts. -/
def nestingLimit : Nat := 80

def isBareChar (c : Char) : Bool := c.isAlphanum || c == '_' || c == '-'

def readSimpleKey : Reader String := fun text =>
  match readQuoted text with
  | some found => some found
  | none =>
    let bare := text.takeWhile isBareChar
    if bare.isEmpty then none else some (String.ofList bare, text.dropWhile isBareChar)

/-- Reads the parts of a key, with dots between them and spaces around each. -/
def readKeyParts : Nat → Reader (List String)
  | 0, _ => none
  | fuel + 1, text => do
    let (part, rest) ← readSimpleKey (skipSpaces text)
    match skipSpaces rest with
    | '.' :: rest => do
      let (parts, rest) ← readKeyParts fuel rest
      return (part :: parts, rest)
    | rest => return ([part], rest)

/-- Reads a key; answers the path to its table and its last part. -/
def readKey : Reader (List String × String) := fun text => do
  let (parts, rest) ← readKeyParts (nestingLimit - 1) text
  return ((parts.dropLast, ← parts.getLast?), rest)

mutual

/-- Reads a value. Its depth counts the arrays and tables around it. -/
def readValue : (fuel depth : Nat) → Reader Payload
  | 0, _, _ => none
  | fuel + 1, depth, text =>
    match text with
    | '"' :: _ | '\'' :: _ => (readText text).map fun (value, rest) => (.string value, rest)
    | '[' :: rest =>
      if depth + 1 < nestingLimit then do
        let (items, rest) ← readItems fuel (depth + 1) rest
        return (.array items, rest)
      else none
    | '{' :: rest =>
      if depth + 1 < nestingLimit then
        match skipSpaces rest with
        | '}' :: rest => some (.object [], rest)
        | rest => do
          let (entries, rest) ← readPairs fuel (depth + 1) [] rest
          return (.object (entriesToPayloads entries), rest)
      else none
    | _ => readScalar text

/-- Reads the items of an array up to the bracket that closes it. -/
def readItems : (fuel depth : Nat) → Reader (List Payload)
  | 0, _, _ => none
  | fuel + 1, depth, text => do
    match ← skipLines text with
    | ']' :: rest => return ([], rest)
    | text =>
      let (item, rest) ← readValue fuel depth text
      match ← skipLines rest with
      | ']' :: rest => return ([item], rest)
      | ',' :: rest =>
        let (items, rest) ← readItems fuel depth rest
        return (item :: items, rest)
      | _ => none

/-- Reads the pairs of a table on one line up to the brace that closes it. -/
def readPairs : (fuel depth : Nat) → Entries → Reader Entries
  | 0, _, _, _ => none
  | fuel + 1, depth, entries, text => do
    let ((path, key), rest) ← readKey text
    match rest with
    | '=' :: rest =>
      let (payload, rest) ← readValue fuel depth (skipSpaces rest)
      let entries ← entries.assign path key payload
      match skipSpaces rest with
      | '}' :: rest => return (entries, rest)
      | ',' :: rest => readPairs fuel depth entries rest
      | _ => none
    | _ => none

end

def readStatements : (fuel : Nat) → List Char → Option (List Statement)
  | 0, _ => none
  | fuel + 1, text =>
    match skipSpaces text with
    | [] => some []
    | '#' :: rest => do readStatements fuel (← afterLine? ('#' :: rest))
    | '[' :: '[' :: rest => do
      let ((path, key), rest) ← readKey rest
      match rest with
      | ']' :: ']' :: rest =>
        return .itemHeader path key :: (← readStatements fuel (← afterLine? rest))
      | _ => none
    | '[' :: rest => do
      let ((path, key), rest) ← readKey rest
      match rest with
      | ']' :: rest => return .header path key :: (← readStatements fuel (← afterLine? rest))
      | _ => none
    | text =>
      match afterNewline? text with
      | some rest => readStatements fuel rest
      | none => do
        let ((path, key), rest) ← readKey text
        match rest with
        | '=' :: rest =>
          let (payload, rest) ← readValue (2 * rest.length + 2) 0 (skipSpaces rest)
          return .assignment path key payload :: (← readStatements fuel (← afterLine? rest))
        | _ => none

/-- The table that a TOML text describes, if it is a TOML text. A byte order mark in front of it
counts for nothing. -/
def parse (text : String) : Option Payload := do
  let cs := match text.toList with
    | '\uFEFF' :: rest => rest
    | cs => cs
  let entries ← build (← readStatements (cs.length + 1) cs)
  return .object (entriesToPayloads entries)

end RpcRouting.Toml
