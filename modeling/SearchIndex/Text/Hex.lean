/-!
Contract: bytes written as pairs of hexadecimal digits.

`Hex.encode` writes small letters. `Hex.decode` reads either case and refuses an odd digit.
-/

namespace SearchIndex.Text.Hex

/-- The two digits of a byte. -/
def pair (byte : UInt8) : List Char :=
  [Nat.digitChar (byte.toNat / 16), Nat.digitChar (byte.toNat % 16)]

/-- Bytes as hexadecimal digits, two for each. -/
def encode (bytes : List UInt8) : String :=
  String.ofList (bytes.flatMap pair)

/-- Whether a character is a hexadecimal digit. -/
def isDigit (c : Char) : Bool :=
  c.isDigit || ('a' ≤ c && c ≤ 'f') || ('A' ≤ c && c ≤ 'F')

/-- The value of a hexadecimal digit. -/
def value? (c : Char) : Option Nat :=
  if c.isDigit then some (c.toNat - '0'.toNat)
  else if 'a' ≤ c && c ≤ 'f' then some (c.toNat - 'a'.toNat + 10)
  else if 'A' ≤ c && c ≤ 'F' then some (c.toNat - 'A'.toNat + 10)
  else none

def number? (digits : List Char) : Option Nat :=
  digits.foldlM (fun number c => (value? c).map fun digit => number * 16 + digit) 0

/-- The bytes that pairs of digits write. -/
def decode : List Char → Option (List UInt8)
  | [] => some []
  | [_] => none
  | high :: low :: rest => do
    let number ← number? [high, low]
    let bytes ← decode rest
    pure (UInt8.ofNat number :: bytes)

end SearchIndex.Text.Hex
