/-!
Contract: reading bytes as UTF-8 and saying where they are malformed.

A fault names the index of the first byte of the bad sequence. It is `incomplete` when the bytes
end inside a sequence that could still have become valid, and `invalid` otherwise, with the
number of bytes that were in order before the one that is not.
-/

namespace SearchIndex.Text

/-- Why bytes are not UTF-8. -/
inductive Malformed where
  | invalid (length index : Nat)
  | incomplete (index : Nat)
deriving DecidableEq, Repr

def Malformed.message : Malformed → String
  | .invalid length index =>
    "invalid utf-8 sequence of " ++ toString length ++ " bytes from index " ++ toString index
  | .incomplete index => "incomplete utf-8 byte sequence from index " ++ toString index

namespace Utf8

/-- A continuation byte. -/
def isTail (b : Nat) : Bool := 0x80 ≤ b && b ≤ 0xBF

/-- Whether a second byte may follow the first byte of a sequence of three. -/
def opensThree (a b : Nat) : Bool :=
  (a == 0xE0 && 0xA0 ≤ b && b ≤ 0xBF) || (0xE1 ≤ a && a ≤ 0xEC && isTail b) ||
    (a == 0xED && 0x80 ≤ b && b ≤ 0x9F) || (0xEE ≤ a && a ≤ 0xEF && isTail b)

/-- Whether a second byte may follow the first byte of a sequence of four. -/
def opensFour (a b : Nat) : Bool :=
  (a == 0xF0 && 0x90 ≤ b && b ≤ 0xBF) || (0xF1 ≤ a && a ≤ 0xF3 && isTail b) ||
    (a == 0xF4 && 0x80 ≤ b && b ≤ 0x8F)

/-- The character whose number has the given groups of bits, the first group leading. -/
def charOf (groups : List Nat) : Char :=
  Char.ofNat (groups.foldl (fun number group => number * 64 + group) 0)

/-- Decodes bytes, the first of which stands at `index`. -/
def decodeFrom (index : Nat) : List UInt8 → Except Malformed (List Char)
  | [] => .ok []
  | first :: rest =>
    let a := first.toNat
    if a < 0x80 then (decodeFrom (index + 1) rest).map (charOf [a] :: ·)
    else if 0xC2 ≤ a && a ≤ 0xDF then
      match rest with
      | [] => .error (.incomplete index)
      | second :: rest =>
        if isTail second.toNat then
          (decodeFrom (index + 2) rest).map (charOf [a - 0xC0, second.toNat - 0x80] :: ·)
        else .error (.invalid 1 index)
    else if 0xE0 ≤ a && a ≤ 0xEF then
      match rest with
      | [] => .error (.incomplete index)
      | second :: rest =>
        if !opensThree a second.toNat then .error (.invalid 1 index)
        else match rest with
          | [] => .error (.incomplete index)
          | third :: rest =>
            if isTail third.toNat then
              (decodeFrom (index + 3) rest).map
                (charOf [a - 0xE0, second.toNat - 0x80, third.toNat - 0x80] :: ·)
            else .error (.invalid 2 index)
    else if 0xF0 ≤ a && a ≤ 0xF4 then
      match rest with
      | [] => .error (.incomplete index)
      | second :: rest =>
        if !opensFour a second.toNat then .error (.invalid 1 index)
        else match rest with
          | [] => .error (.incomplete index)
          | third :: rest =>
            if !isTail third.toNat then .error (.invalid 2 index)
            else match rest with
              | [] => .error (.incomplete index)
              | fourth :: rest =>
                if isTail fourth.toNat then
                  (decodeFrom (index + 4) rest).map
                    (charOf [a - 0xF0, second.toNat - 0x80, third.toNat - 0x80,
                      fourth.toNat - 0x80] :: ·)
                else .error (.invalid 3 index)
    else .error (.invalid 1 index)

/-- The text that bytes encode. -/
def decode (bytes : List UInt8) : Except Malformed String :=
  (decodeFrom 0 bytes).map String.ofList

def encode (text : String) : List UInt8 :=
  text.toUTF8.toList

end Utf8

end SearchIndex.Text
