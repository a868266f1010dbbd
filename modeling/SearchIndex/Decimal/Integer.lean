/-!
Contract: whole numbers in decimal digits.

Writing gives the digits without leading zeros, and a minus sign before a negative number.
Reading takes one sign and at least one digit, allows leading zeros and nothing else, and refuses
a number outside the range asked for.
-/

namespace SearchIndex.Decimal

/-- The digits of a natural number. -/
def natural (n : Nat) : String :=
  String.ofList (Nat.toDigits 10 n)

/-- The digits of an integer, after a minus sign if it is negative. -/
def integer : Int → String
  | .ofNat n => natural n
  | .negSucc n => "-" ++ natural (n + 1)

/-- The number that a non-empty run of digits writes. -/
def digits? (text : List Char) : Option Nat :=
  if text.isEmpty || !text.all Char.isDigit then none
  else some (Nat.ofDigitChars 10 text 0)

/-- Digits with at most one plus sign before them. -/
def natural? : List Char → Option Nat
  | '+' :: rest => digits? rest
  | text => digits? text

/-- Digits with at most one sign before them. -/
def integer? : List Char → Option Int
  | '-' :: rest => (digits? rest).map fun n => -(n : Int)
  | text => (natural? text).map Int.ofNat

/-- A number of at most 8 bits. -/
def byte? (text : String) : Option UInt8 :=
  (natural? text.toList).bind fun n => if n < UInt8.size then some (UInt8.ofNat n) else none

/-- A number of at most 32 bits. -/
def word? (text : String) : Option UInt32 :=
  (natural? text.toList).bind fun n => if n < UInt32.size then some (UInt32.ofNat n) else none

/-- A signed number of at most 64 bits. -/
def long? (text : String) : Option Int64 :=
  (integer? text.toList).bind fun n =>
    if -Nat.pow 2 63 ≤ n ∧ n < Nat.pow 2 63 then some (Int64.ofInt n) else none

end SearchIndex.Decimal
