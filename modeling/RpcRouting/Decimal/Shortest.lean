/-! Decimal texts of binary floating-point numbers of 64 bits. A decimal is rounded to the nearest
such number, a tie to the even one, and a number is written with the fewest digits that lead back
to it, of these the nearest, and of two equally near decimals the greater. -/
namespace RpcRouting.Decimal

/-- A positive number, `significand * 2 ^ exponent`. -/
structure Binary where
  significand : Nat
  exponent : Int

/-- A power as a fraction. -/
def power (base : Nat) (exponent : Int) : Nat × Nat :=
  if 0 ≤ exponent then (base.pow exponent.toNat, 1) else (1, base.pow (-exponent).toNat)

/-- The quotient, rounded to the nearest number and on a tie to the even one. -/
def roundDiv (a b : Nat) : Nat :=
  let whole := a / b
  let rest := 2 * (a % b)
  if rest < b ∨ (rest = b ∧ whole % 2 = 0) then whole else whole + 1

/-- The greatest `n` with `2 ^ n * b ≤ a`, for positive `a` and `b`. -/
def floorLog2 (a b : Nat) : Int :=
  let guess : Int := Int.ofNat a.log2 - Int.ofNat b.log2
  let (up, down) := power 2 guess
  if up * b ≤ a * down then guess else guess - 1

/-- The least significand of full length, `2 ^ 52`. Only the smallest numbers have shorter ones. -/
def leastFull : Nat := 0x10000000000000

/-- The nearest number to a positive fraction, without a bound on its exponent from above. -/
def Binary.nearest (a b : Nat) : Binary :=
  let exponent := max (floorLog2 a b - 52) (-1074)
  let (up, down) := power 2 exponent
  let significand := roundDiv (a * down) (b * up)
  if significand = 2 * leastFull then ⟨leastFull, exponent + 1⟩ else ⟨significand, exponent⟩

/-- Compares `count * 10 ^ place` with a number of quarters of the last binary place. -/
def Binary.compareGrid (number : Binary) (count : Nat) (place : Int) (quarters : Nat) : Ordering :=
  let (tens, tenths) := power 10 place
  let (twos, halves) := power 2 number.exponent
  compare (4 * count * tens * halves) (quarters * twos * tenths)

/-- Whether reading `count * 10 ^ place` gives the number. -/
def Binary.readsBack (number : Binary) (count : Nat) (place : Int) : Bool :=
  let below := if number.significand = leastFull ∧ number.exponent ≠ -1074 then 1 else 2
  let isEven := number.significand % 2 = 0
  let low := number.compareGrid count place (4 * number.significand - below)
  let high := number.compareGrid count place (4 * number.significand + 2)
  (low == .gt || (low == .eq && isEven)) && (high == .lt || (high == .eq && isEven))

/-- The number in units of a decimal place, rounded down. -/
def Binary.floorGrid (number : Binary) (place : Int) : Nat :=
  let (tens, tenths) := power 10 place
  let (twos, halves) := power 2 number.exponent
  number.significand * twos * tenths / (tens * halves)

/-- The decimal place of the number's first digit. -/
def Binary.firstPlace (number : Binary) : Int :=
  let (twos, halves) := power 2 number.exponent
  let a := number.significand * twos
  let guess : Int := Int.ofNat (Nat.toDigits 10 a).length - Int.ofNat (Nat.toDigits 10 halves).length
  let (tens, tenths) := power 10 guess
  if tens * halves ≤ a * tenths then guess else guess - 1

/-- The shortest decimal that reads back, as a count of units of a place. `fuel` more digits than
`size` are tried. -/
def Binary.shortest (number : Binary) : (fuel size : Nat) → Nat × Int
  | 0, size => let place := number.firstPlace - size
    (number.floorGrid place, place)
  | fuel + 1, size =>
    let place := number.firstPlace - size
    let low := number.floorGrid place
    let lowFits := number.readsBack low place
    let highFits := number.readsBack (low + 1) place
    if lowFits && highFits then
      if number.compareGrid (2 * low + 1) place (8 * number.significand) == .gt then
        (low, place)
      else (low + 1, place)
    else if lowFits then (low, place)
    else if highFits then (low + 1, place)
    else number.shortest fuel (size + 1)

/-- The same decimal without a zero at the end of its count. Rounding up to a power of ten leaves
one. -/
def dropZero : Nat × Int → Nat × Int
  | (count, place) => if count % 10 = 0 then (count / 10, place + 1) else (count, place)

/-- Writes a count of units of a decimal place, with at least one digit behind the point. -/
def positional (count : Nat) (place : Int) : String :=
  let digits := Nat.toDigits 10 count
  if 0 ≤ place then
    String.ofList (digits ++ List.replicate place.toNat '0' ++ ['.', '0'])
  else
    let behind := (-place).toNat
    let padded := List.replicate (behind + 1 - digits.length) '0' ++ digits
    String.ofList (padded.take (padded.length - behind) ++
      '.' :: padded.drop (padded.length - behind))

/-- The text of the nearest number to `digits * 10 ^ exponent`. -/
def nearest (digits : Nat) (exponent : Int) : String :=
  let size : Int := Int.ofNat (Nat.toDigits 10 digits).length
  if digits = 0 ∨ size + exponent < -330 then "0.0"
  else if 310 < size + exponent then "inf"
  else
    let (tens, tenths) := power 10 exponent
    let number := Binary.nearest (digits * tens) tenths
    if number.significand = 0 then "0.0"
    else if 971 < number.exponent then "inf"
    else
      let (count, place) := dropZero (number.shortest 17 0)
      positional count place

end RpcRouting.Decimal
