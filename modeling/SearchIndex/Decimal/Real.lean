import SearchIndex.Decimal.Integer
import SearchIndex.Decimal.Shortest

/-!
Contract: real numbers in decimal text.

`RealFormat.render` writes the shortest decimal of a number under a format record, which fixes
where an exponent is written, whether a whole number keeps `.0`, and the names of the numbers that
have no digits. `real?` reads digits with an optional point and exponent.
-/

namespace SearchIndex.Decimal

/-- How a real number is written. -/
structure RealFormat where
  /-- Of two shortest decimals at the same distance, the one to write. -/
  tie : Tie
  /-- The positions of the decimal point, relative to the first digit, that are written without
  an exponent; all of them if absent. -/
  positional : Option (Int × Int)
  /-- Whether a number without a fraction is written with `.0`. -/
  keepPoint : Bool
  /-- The name of the undefined number. -/
  undefined : String
  /-- The name of the positive infinite number. -/
  infinite : String
deriving Repr

namespace RealFormat

def positionalText (keepPoint : Bool) (digits : List Char) (point : Int) : List Char :=
  if point ≤ 0 then ['0', '.'] ++ List.replicate (-point).toNat '0' ++ digits
  else if digits.length ≤ point.toNat then
    digits ++ List.replicate (point.toNat - digits.length) '0' ++
      if keepPoint then ['.', '0'] else []
  else digits.take point.toNat ++ ['.'] ++ digits.drop point.toNat

/-- One digit, the others after a point, and the power of ten. -/
def exponentText (digits : List Char) (point : Int) : List Char :=
  digits.take 1 ++ (if digits.length ≤ 1 then [] else '.' :: digits.drop 1) ++
    'e' :: (integer (point - 1)).toList

/-- A positive finite number in digits. -/
def magnitude (format : RealFormat) (mantissa : Nat) (exponent : Int) : List Char :=
  let number := shortest format.tie mantissa exponent
  let digits := Nat.toDigits 10 number.digits
  let point := digits.length + number.exponent
  match format.positional with
  | none => positionalText format.keepPoint digits point
  | some (lowest, highest) =>
    if lowest ≤ point ∧ point ≤ highest then positionalText format.keepPoint digits point
    else exponentText digits point

/-- The text of a number. -/
def render (format : RealFormat) (x : Float) : String :=
  match Binary.ofFloat x with
  | .undefined => format.undefined
  | .infinite negative => (if negative then "-" else "") ++ format.infinite
  | .finite negative mantissa exponent =>
    let digits :=
      if mantissa = 0 then if format.keepPoint then ['0', '.', '0'] else ['0']
      else format.magnitude mantissa exponent
    String.ofList (if negative then '-' :: digits else digits)

end RealFormat

def undefinedReal : Float := Float.ofBits 0x7FF8000000000000

/-- The positive infinite number. -/
def infiniteReal : Float := Float.ofBits 0x7FF0000000000000

/-- Whether a number has digits. -/
def isFinite (x : Float) : Bool :=
  match Binary.ofFloat x with
  | .finite .. => true
  | _ => false

/-- The number nearest to `digits * 10 ^ exponent`. Exponents past the range of the binary numbers
give zero and infinity without computing the power. -/
def nearest (digits : Nat) (exponent : Int) : Float :=
  let point := (Nat.toDigits 10 digits).length + exponent
  if digits = 0 ∨ point < -400 then Float.ofBits 0
  else if 400 < point then infiniteReal
  else Float.ofScientific digits (decide (exponent < 0)) exponent.natAbs

/-- A number with the sign asked for. -/
def signed (negative : Bool) (x : Float) : Float :=
  if negative then -x else x

/-- Digits, an optional point with further digits, and an optional exponent. A digit must stand on
one side of the point. -/
def unsignedReal? (text : List Char) : Option Float :=
  let whole := text.takeWhile Char.isDigit
  let rest := text.dropWhile Char.isDigit
  let (fraction, rest) := match rest with
    | '.' :: rest => (rest.takeWhile Char.isDigit, rest.dropWhile Char.isDigit)
    | rest => ([], rest)
  let exponent? : Option Int := match rest with
    | [] => some 0
    | mark :: rest => if mark = 'e' ∨ mark = 'E' then integer? rest else none
  if whole.isEmpty && fraction.isEmpty then none
  else exponent?.map fun exponent =>
    nearest (Nat.ofDigitChars 10 (whole ++ fraction) 0) (exponent - fraction.length)

/-- Reads a number: an optional sign, then digits or one of the names `inf`, `infinity` and `nan`
in either case. -/
def real? (text : List Char) : Option Float :=
  let (negative, rest) := match text with
    | '-' :: rest => (true, rest)
    | '+' :: rest => (false, rest)
    | rest => (false, rest)
  let name := String.ofList (rest.map Char.toLower)
  let magnitude :=
    if name = "inf" ∨ name = "infinity" then some infiniteReal
    else if name = "nan" then some undefinedReal
    else unsignedReal? rest
  magnitude.map (signed negative)

end SearchIndex.Decimal
