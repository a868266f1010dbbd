/-!
Contract: the fewest decimal digits that read back as a given binary number.

A finite number is `mantissa * 2 ^ exponent`. The reals nearest to it form an interval, whose ends
belong to it when the mantissa is even. `shortest` tries one digit, then two, up to seventeen: on
each grid of that many digits only the two neighbours of the number can lie in the interval. The
first grid with a hit gives the digits, and of two hits the nearer one.
-/

namespace SearchIndex.Decimal

/-- Which of two equally near decimals is taken. -/
inductive Tie where
  | up
  | even
deriving DecidableEq, Repr

/-- A 64-bit binary number taken apart. -/
inductive Binary where
  | undefined
  | infinite (negative : Bool)
  | finite (negative : Bool) (mantissa : Nat) (exponent : Int)
deriving DecidableEq, Repr

/-- The parts of a number: sign, mantissa and power of two. -/
def Binary.ofFloat (x : Float) : Binary :=
  let bits := x.toBits.toNat
  let negative := bits / Nat.pow 2 63 == 1
  let fraction := bits % Nat.pow 2 52
  match bits / Nat.pow 2 52 % Nat.pow 2 11 with
  | 0 => .finite negative fraction (-1074)
  | 2047 => if fraction = 0 then .infinite negative else .undefined
  | biased => .finite negative (fraction + Nat.pow 2 52) (Int.ofNat biased - 1075)

/-- A decimal number `digits * 10 ^ exponent`. -/
structure Scientific where
  digits : Nat
  exponent : Int
deriving DecidableEq, Repr

/-- The numerator and denominator of a power. -/
def power (base : Nat) (exponent : Int) : Nat × Nat :=
  if 0 ≤ exponent then (base.pow exponent.toNat, 1) else (1, base.pow (-exponent).toNat)

/-- Whether `mantissa * 2 ^ binary` is below `10 ^ decimal`. -/
def belowPower (mantissa : Nat) (binary decimal : Int) : Bool :=
  let two := power 2 binary
  let ten := power 10 decimal
  mantissa * two.1 * ten.2 < ten.1 * two.2

/-- The number of digits before the decimal point, negative when zeros follow it. The estimate
from the binary length is off by at most one. -/
def pointPosition (mantissa : Nat) (exponent : Int) : Int :=
  let guess := Int.fdiv ((Int.ofNat (Nat.log2 mantissa) + exponent) * 30103) 100000 + 1
  if belowPower mantissa exponent (guess - 1) then guess - 1
  else if belowPower mantissa exponent guess then guess
  else guess + 1

/-- The neighbour on the grid `10 ^ scale` that lies in the interval of the number, if any. -/
def onGrid (tie : Tie) (mantissa : Nat) (exponent scale : Int) : Option Nat :=
  let two := power 2 (exponent - 2)
  let ten := power 10 scale
  let size := two.1 * ten.2
  let unit := ten.1 * two.2
  let value := 4 * mantissa * size
  let gapBelow := if mantissa = Nat.pow 2 52 ∧ -1074 < exponent then 1 else 2
  let low := (4 * mantissa - gapBelow) * size
  let high := (4 * mantissa + 2) * size
  let closed := mantissa % 2 == 0
  let below := value / unit
  let above := below + 1
  let fits := fun candidate : Nat =>
    let place := candidate * unit
    if closed then low ≤ place && place ≤ high else low < place && place < high
  match fits below, fits above with
  | false, false => none
  | true, false => some below
  | false, true => some above
  | true, true =>
    let middle := (2 * below + 1) * unit
    if 2 * value < middle then some below
    else if middle < 2 * value then some above
    else match tie with
      | .up => some above
      | .even => some (if below % 2 == 0 then below else above)

/-- The first grid, from `count` digits on, that holds a decimal for the number. -/
def firstGrid (tie : Tie) (mantissa : Nat) (exponent point : Int) : (tries count : Nat) → Scientific
  | 0, count => ⟨0, point - count⟩
  | tries + 1, count =>
    match onGrid tie mantissa exponent (point - count) with
    | some digits => ⟨digits, point - count⟩
    | none => firstGrid tie mantissa exponent point tries (count + 1)

/-- Drops up to `most` zeros at the end of the digits. -/
def Scientific.withoutZeros : (most : Nat) → Scientific → Scientific
  | 0, number => number
  | most + 1, number =>
    if number.digits ≠ 0 ∧ number.digits % 10 = 0 then
      withoutZeros most ⟨number.digits / 10, number.exponent + 1⟩
    else number

/-- The shortest decimal that reads back as `mantissa * 2 ^ exponent`, for a positive mantissa. -/
def shortest (tie : Tie) (mantissa : Nat) (exponent : Int) : Scientific :=
  (firstGrid tie mantissa exponent (pointPosition mantissa exponent) 17 1).withoutZeros 18

end SearchIndex.Decimal
