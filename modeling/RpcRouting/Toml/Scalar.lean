import RpcRouting.Decimal.Shortest
import RpcRouting.Payload
import RpcRouting.Toml.Text
/-! Numbers, truth values and dates of TOML. Each is one token: a run of letters, digits and the
signs that numbers and dates are made of. -/
namespace RpcRouting.Toml

def isTokenChar (c : Char) : Bool :=
  c.isAlphanum || c == '+' || c == '-' || c == '.' || c == ':' || c == '_'

/-- The values of digits in which single underscores may stand between two digits. -/
def digits? (base : Nat) (token : List Char) : Option (List Nat) :=
  match token with
  | [] => none
  | [c] => (digit? c).map ([·])
  | c :: '_' :: rest => do return (← digit? c) :: (← digits? base rest)
  | c :: rest => do return (← digit? c) :: (← digits? base rest)
where
  digit? (c : Char) : Option Nat := (hexDigit? c).filter (· < base)

def ofDigits (base : Nat) (digits : List Nat) : Nat :=
  digits.foldl (fun value digit => base * value + digit) 0

/-- Decimal digits without a needless zero in front. -/
def wholeDigits? (token : List Char) : Option (List Nat) := do
  let digits ← digits? 10 token
  if digits.length ≠ 1 ∧ digits.head? = some 0 then none else some digits

/-- A sign, if there is one, and what follows. -/
def splitSign : List Char → Bool × List Char
  | '+' :: rest => (false, rest)
  | '-' :: rest => (true, rest)
  | text => (false, text)

def integer? (token : List Char) : Option Int := do
  let value : Int ← match token with
    | '0' :: 'x' :: rest => (digits? 16 rest).map fun ds => (ofDigits 16 ds : Int)
    | '0' :: 'o' :: rest => (digits? 8 rest).map fun ds => (ofDigits 8 ds : Int)
    | '0' :: 'b' :: rest => (digits? 2 rest).map fun ds => (ofDigits 2 ds : Int)
    | _ =>
      let (negative, rest) := splitSign token
      (wholeDigits? rest).map fun ds =>
        if negative then -(ofDigits 10 ds : Int) else (ofDigits 10 ds : Int)
  if -0x8000000000000000 ≤ value ∧ value < 0x8000000000000000 then some value else none

/-- The text of a number with a fraction or an exponent, or of a number that is none. -/
def decimal? (token : List Char) : Option String := do
  let (negative, rest) := splitSign token
  if rest = ['i', 'n', 'f'] then return if negative then "-inf" else "inf"
  if rest = ['n', 'a', 'n'] then return "NaN"
  let isMark (c : Char) : Bool := c == 'e' || c == 'E'
  let mantissa := rest.takeWhile (!isMark ·)
  let whole ← wholeDigits? (mantissa.takeWhile (· != '.'))
  let fraction ← match mantissa.dropWhile (· != '.') with
    | [] => some []
    | _ :: rest => digits? 10 rest
  let exponent : Int ← match rest.dropWhile (!isMark ·) with
    | [] => if fraction.isEmpty then none else some 0
    | _ :: rest =>
      let (negative, rest) := splitSign rest
      (digits? 10 rest).map fun ds =>
        if negative then -(ofDigits 10 ds : Int) else (ofDigits 10 ds : Int)
  let text := Decimal.nearest (ofDigits 10 (whole ++ fraction)) (exponent - fraction.length)
  if text = "inf" ∧ !negative then none else return if negative then "-" ++ text else text

/-- The number that two digits write, if it is in the range. -/
def twoDigits? (low high : Nat) (a b : Char) : Option Nat := do
  if a.isDigit ∧ b.isDigit then
    let value := ofDigits 10 [a.toNat - '0'.toNat, b.toNat - '0'.toNat]
    if low ≤ value ∧ value ≤ high then some value else none
  else none

def daysIn (year month : Nat) : Nat :=
  if month = 2 then
    if year % 4 = 0 ∧ (year % 100 ≠ 0 ∨ year % 400 = 0) then 29 else 28
  else if month = 4 ∨ month = 6 ∨ month = 9 ∨ month = 11 then 30
  else 31

/-- What follows a date. -/
def afterDate? : List Char → Option (List Char)
  | a :: b :: c :: d :: '-' :: e :: f :: '-' :: g :: h :: rest => do
    let year := 100 * (← twoDigits? 0 99 a b) + (← twoDigits? 0 99 c d)
    let month ← twoDigits? 1 12 e f
    let day ← twoDigits? 1 31 g h
    if day ≤ daysIn year month then some rest else none
  | _ => none

/-- What follows a time of day. -/
def afterTime? : List Char → Option (List Char)
  | a :: b :: ':' :: c :: d :: ':' :: e :: f :: rest =>
    if (twoDigits? 0 23 a b).isSome ∧ (twoDigits? 0 59 c d).isSome ∧
        (twoDigits? 0 60 e f).isSome then
      match rest with
      | '.' :: rest =>
        if (rest.takeWhile Char.isDigit).isEmpty then none else some (rest.dropWhile Char.isDigit)
      | rest => some rest
    else none
  | _ => none

def isOffset : List Char → Bool
  | [] => true
  | [c] => c == 'Z' || c == 'z'
  | [sign, a, b, ':', c, d] =>
    (sign == '+' || sign == '-') && (twoDigits? 0 23 a b).isSome && (twoDigits? 0 59 c d).isSome
  | _ => false

/-- Whether a token is a date, a time of day or both. -/
def isDate (token : List Char) : Bool :=
  match afterDate? token with
  | some [] => true
  | some (mark :: rest) => (mark == 'T' || mark == 't') && ((afterTime? rest).any isOffset)
  | none => (afterTime? token) == some []

/-- The value of a token. A date counts as a record of its own. -/
def scalar? (token : List Char) : Option Payload :=
  if token = ['t', 'r', 'u', 'e'] then some (.boolean true)
  else if token = ['f', 'a', 'l', 's', 'e'] then some (.boolean false)
  else match integer? token with
    | some value => some (.integer value)
    | none =>
      match decimal? token with
      | some text => some (.decimal text)
      | none => if isDate token then some (.object []) else none

/-- Reads a token. A space may stand between a date and a time of day. -/
def readScalar : Reader Payload := fun text =>
  let token := text.takeWhile isTokenChar
  let rest := text.dropWhile isTokenChar
  match afterDate? token, rest with
  | some [], ' ' :: c :: rest =>
    if c.isDigit then
      (scalar? (token ++ 'T' :: (c :: rest).takeWhile isTokenChar)).map
        ((·, (c :: rest).dropWhile isTokenChar))
    else (scalar? token).map ((·, ' ' :: c :: rest))
  | _, _ => (scalar? token).map ((·, rest))

end RpcRouting.Toml
