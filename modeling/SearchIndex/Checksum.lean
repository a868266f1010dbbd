import SearchIndex.Text.Hex
import SearchIndex.Text.Utf8

/-!
Contract: the SHA-256 checksum of a text.

The UTF-8 bytes are padded to blocks of 64: a byte with its first bit set, zeros, and the number of
bits in eight bytes. Each block is spread out to 64 words, which stir the eight words of the state
one after another.
-/

namespace SearchIndex.Checksum

def constants : List UInt32 := [
  0x428a2f98, 0x71374491, 0xb5c0fbcf, 0xe9b5dba5, 0x3956c25b, 0x59f111f1, 0x923f82a4, 0xab1c5ed5,
  0xd807aa98, 0x12835b01, 0x243185be, 0x550c7dc3, 0x72be5d74, 0x80deb1fe, 0x9bdc06a7, 0xc19bf174,
  0xe49b69c1, 0xefbe4786, 0x0fc19dc6, 0x240ca1cc, 0x2de92c6f, 0x4a7484aa, 0x5cb0a9dc, 0x76f988da,
  0x983e5152, 0xa831c66d, 0xb00327c8, 0xbf597fc7, 0xc6e00bf3, 0xd5a79147, 0x06ca6351, 0x14292967,
  0x27b70a85, 0x2e1b2138, 0x4d2c6dfc, 0x53380d13, 0x650a7354, 0x766a0abb, 0x81c2c92e, 0x92722c85,
  0xa2bfe8a1, 0xa81a664b, 0xc24b8b70, 0xc76c51a3, 0xd192e819, 0xd6990624, 0xf40e3585, 0x106aa070,
  0x19a4c116, 0x1e376c08, 0x2748774c, 0x34b0bcb5, 0x391c0cb3, 0x4ed8aa4a, 0x5b9cca4f, 0x682e6ff3,
  0x748f82ee, 0x78a5636f, 0x84c87814, 0x8cc70208, 0x90befffa, 0xa4506ceb, 0xbef9a3f7, 0xc67178f2]

/-- The eight words that the blocks stir. -/
structure State where
  a : UInt32
  b : UInt32
  c : UInt32
  d : UInt32
  e : UInt32
  f : UInt32
  g : UInt32
  h : UInt32
deriving DecidableEq, Repr

namespace State

/-- The words before the first block. -/
def start : State :=
  ⟨0x6a09e667, 0xbb67ae85, 0x3c6ef372, 0xa54ff53a, 0x510e527f, 0x9b05688c, 0x1f83d9ab,
    0x5be0cd19⟩

def words (state : State) : List UInt32 :=
  [state.a, state.b, state.c, state.d, state.e, state.f, state.g, state.h]

/-- Adds two states word by word. -/
def add (left right : State) : State :=
  ⟨left.a + right.a, left.b + right.b, left.c + right.c, left.d + right.d, left.e + right.e,
    left.f + right.f, left.g + right.g, left.h + right.h⟩

end State

/-- A word with its bits turned to the right. -/
def rotate (word amount : UInt32) : UInt32 :=
  (word >>> amount) ||| (word <<< (32 - amount))

/-- One step: stirs a word of a block and the constant of the step into the state. -/
def step (state : State) (input : UInt32 × UInt32) : State :=
  let choice := (state.e &&& state.f) ^^^ (~~~ state.e &&& state.g)
  let majority := (state.a &&& state.b) ^^^ (state.a &&& state.c) ^^^ (state.b &&& state.c)
  let turnedE := rotate state.e 6 ^^^ rotate state.e 11 ^^^ rotate state.e 25
  let turnedA := rotate state.a 2 ^^^ rotate state.a 13 ^^^ rotate state.a 22
  let first := state.h + turnedE + choice + input.2 + input.1
  let second := turnedA + majority
  ⟨first + second, state.a, state.b, state.c, state.d + first, state.e, state.f, state.g⟩

def nextWord (window : List UInt32) : UInt32 :=
  let early := window.getD 1 0
  let late := window.getD 14 0
  let turnedEarly := rotate early 7 ^^^ rotate early 18 ^^^ (early >>> 3)
  let turnedLate := rotate late 17 ^^^ rotate late 19 ^^^ (late >>> 10)
  window.getD 0 0 + turnedEarly + window.getD 9 0 + turnedLate

/-- The first words of the sequence that sixteen words begin. -/
def spread : (count : Nat) → (window : List UInt32) → List UInt32
  | 0, _ => []
  | count + 1, window =>
    window.headD 0 :: spread count (window.drop 1 ++ [nextWord window])

/-- A word from four bytes, the first one leading. -/
def wordOf (bytes : List UInt8) : UInt32 :=
  bytes.foldl (fun word byte => (word <<< 8) ||| byte.toUInt32) 0

def pieces {α : Type} (size : Nat) : (count : Nat) → List α → List (List α)
  | 0, _ => []
  | count + 1, list => list.take size :: pieces size count (list.drop size)

def stir (state : State) (block : List UInt8) : State :=
  let words := spread 64 ((pieces 4 16 block).map wordOf)
  state.add ((words.zip constants).foldl step state)

/-- The bytes of a number, the first one leading. -/
def bytesOf (count n : Nat) : List UInt8 :=
  ((List.range count).map fun index => UInt8.ofNat (n / Nat.pow 256 index)).reverse

def padded (bytes : List UInt8) : List UInt8 :=
  bytes ++ [0x80] ++ List.replicate ((119 - bytes.length % 64) % 64) 0 ++
    bytesOf 8 (8 * bytes.length)

def digest (bytes : List UInt8) : List UInt8 :=
  let all := padded bytes
  let final := (pieces 64 (all.length / 64) all).foldl stir .start
  final.words.flatMap fun word => bytesOf 4 word.toNat

/-- The checksum of a text in hexadecimal digits. -/
def ofText (text : String) : String := Text.Hex.encode (digest (Text.Utf8.encode text))

end SearchIndex.Checksum
