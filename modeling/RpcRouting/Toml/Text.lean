/-! Spaces, line ends, comments and quoted texts of TOML. A reader takes a text and answers what it
has read and what follows. -/
namespace RpcRouting.Toml

abbrev Reader (α : Type) := List Char → Option (α × List Char)

def isSpace (c : Char) : Bool := c == ' ' || c == '\t'

/-- The characters that stand for themselves in comments and quoted texts: no control character
but the tab. -/
def isPlain (c : Char) : Bool := c == '\t' || (0x20 ≤ c.toNat && c.toNat != 0x7F)

def skipSpaces (text : List Char) : List Char := text.dropWhile isSpace

/-- What follows the end of a line, if the text starts with one. -/
def afterNewline? : List Char → Option (List Char)
  | '\n' :: rest => some rest
  | '\r' :: '\n' :: rest => some rest
  | _ => none

/-- What follows a comment; the text itself if it starts with none. -/
def skipComment : List Char → List Char
  | '#' :: rest => rest.dropWhile isPlain
  | text => text

/-- What follows the rest of a line that holds nothing but spaces and a comment. -/
def afterLine? (text : List Char) : Option (List Char) :=
  match skipComment (skipSpaces text) with
  | [] => some []
  | rest => afterNewline? rest

/-- What follows spaces, comments and ends of lines. A comment may not hold control characters. -/
def skipLines : List Char → Option (List Char)
  | [] => some []
  | '\n' :: rest => skipLines rest
  | '\r' :: '\n' :: rest => skipLines rest
  | '#' :: rest => skipRemark rest
  | c :: rest => if isSpace c then skipLines rest else some (c :: rest)
where
  /-- What follows the rest of a comment and all that may be skipped after it. -/
  skipRemark : List Char → Option (List Char)
    | [] => some []
    | '\n' :: rest => skipLines rest
    | '\r' :: '\n' :: rest => skipLines rest
    | c :: rest => if isPlain c then skipRemark rest else none

def hexDigit? (c : Char) : Option Nat :=
  if '0' ≤ c ∧ c ≤ '9' then some (c.toNat - '0'.toNat)
  else if 'a' ≤ c ∧ c ≤ 'f' then some (c.toNat - 'a'.toNat + 10)
  else if 'A' ≤ c ∧ c ≤ 'F' then some (c.toNat - 'A'.toNat + 10)
  else none

def escapes : List (Char × Char) :=
  [('b', '\x08'), ('t', '\t'), ('n', '\n'), ('f', '\x0C'), ('r', '\r'), ('"', '"'), ('\\', '\\')]

/-- How the characters between quotes are taken. -/
structure Quoting where
  mark : Char
  /-- Whether a backslash stands for itself. -/
  raw : Bool
  /-- Whether the text may go over several lines. -/
  multiline : Bool

/-- Where the scan of a quoted text stands. -/
inductive Scan
  | text
  | escape
  /-- In the hexadecimal code of a character, with so many digits to come. -/
  | code (left value : Nat)
  /-- Behind a carriage return. -/
  | carriage (folding : Bool)
  /-- Behind a backslash that ends a line: blanks are dropped, once a line has ended. -/
  | fold (broken : Bool)
deriving DecidableEq

namespace Scan

def plain (quoting : Quoting) (c : Char) : Option (List Char × Scan) :=
  if c = '\\' ∧ !quoting.raw then some ([], escape)
  else if c = '\n' ∧ quoting.multiline then some (['\n'], text)
  else if c = '\r' ∧ quoting.multiline then some ([], carriage false)
  else if isPlain c then some ([c], text)
  else none

def folding (quoting : Quoting) (broken : Bool) (c : Char) : Option (List Char × Scan) :=
  if isSpace c then some ([], fold broken)
  else if c = '\n' then some ([], fold true)
  else if c = '\r' then some ([], carriage true)
  else if broken then plain quoting c
  else none

/-- Takes one character; answers what it stands for and where the scan goes on. -/
def next (quoting : Quoting) : Scan → Char → Option (List Char × Scan)
  | text, c => plain quoting c
  | escape, c =>
    if c = 'u' then some ([], code 4 0)
    else if c = 'U' then some ([], code 8 0)
    else match escapes.lookup c with
      | some meant => some ([meant], text)
      | none => if quoting.multiline then folding quoting false c else none
  | code left value, c => do
    let value := 16 * value + (← hexDigit? c)
    if left ≠ 1 then some ([], code (left - 1) value)
    else if value.isValidChar then some ([Char.ofNat value], text)
    else none
  | carriage folding, c =>
    if c ≠ '\n' then none else if folding then some ([], fold true) else some (['\n'], text)
  | fold broken, c => folding quoting broken c

/-- Whether a quotation mark here is not part of an escape. -/
def isOpen (scan : Scan) : Bool := scan == text || scan == fold true

end Scan

/-- Reads up to the mark that closes a text on one line. -/
def readLine (quoting : Quoting) (scan : Scan) : Reader (List Char)
  | [] => none
  | c :: rest =>
    if c = quoting.mark ∧ scan = .text then some ([], rest)
    else do
      let (meant, scan) ← scan.next quoting c
      let (value, rest) ← readLine quoting scan rest
      return (meant ++ value, rest)

/-- Reads up to the three marks that close a text over several lines; one or two more may stand
before them. `marks` counts those just read. -/
def readLines (quoting : Quoting) (marks : Nat) (scan : Scan) : Reader (List Char)
  | [] => if 3 ≤ marks then some (List.replicate (marks - 3) quoting.mark, []) else none
  | c :: rest =>
    if c = quoting.mark ∧ scan.isOpen then
      if marks < 5 then readLines quoting (marks + 1) .text rest else none
    else if 3 ≤ marks then some (List.replicate (marks - 3) quoting.mark, c :: rest)
    else do
      let (meant, scan) ← scan.next quoting c
      let (value, rest) ← readLines quoting 0 scan rest
      return (List.replicate marks quoting.mark ++ meant ++ value, rest)

def readQuoted : Reader String
  | '"' :: rest => (readLine ⟨'"', false, false⟩ .text rest).map fun (cs, rest) =>
    (String.ofList cs, rest)
  | '\'' :: rest => (readLine ⟨'\'', true, false⟩ .text rest).map fun (cs, rest) =>
    (String.ofList cs, rest)
  | _ => none

/-- Reads any quoted text. A line end just behind the opening marks is dropped. -/
def readText : Reader String
  | '"' :: '"' :: '"' :: rest =>
    (readLines ⟨'"', false, true⟩ 0 .text ((afterNewline? rest).getD rest)).map
      fun (cs, rest) => (String.ofList cs, rest)
  | '\'' :: '\'' :: '\'' :: rest =>
    (readLines ⟨'\'', true, true⟩ 0 .text ((afterNewline? rest).getD rest)).map
      fun (cs, rest) => (String.ofList cs, rest)
  | text => readQuoted text

end RpcRouting.Toml
