import Mathlib.Data.List.GetD
import Mathlib.Data.Nat.NthRoot.Defs
import Mathlib.Data.Nat.Prime.Basic
import SearchIndex.Proofs.Checksum
import SearchIndex.Proofs.Text.Utf8

/-!
Contract: the checksum of a text is its SHA-256 digest.

The digest is told apart from the program, on bit vectors and by position: the constants are roots
of primes, the schedule is a recurrence, a block is what sixteen consecutive words of the padded
bytes hold. `Checksum.ofText_eq` says that the program, which carries a window of sixteen words
along and cuts lists, computes it.

Owns: `Sha256.hexDigest` and `Checksum.ofText_eq`.
-/

namespace SearchIndex

namespace Sha256

/-! ### The digest -/

abbrev Word := BitVec 32

/-- The first sixty-four primes. -/
def primes : List Nat := (List.range 312).filter fun n => n.Prime

/-- The first 32 bits behind the point of the root of a number. -/
def rootFraction (degree n : Nat) : Word :=
  BitVec.ofNat 32 (Nat.nthRoot degree (n * 2 ^ (32 * degree)))

/-- The constants of the rounds. -/
def constants : List Word := primes.map (rootFraction 3)

def choice (x y z : Word) : Word := (x &&& y) ^^^ (~~~ x &&& z)

def majority (x y z : Word) : Word := (x &&& y) ^^^ (x &&& z) ^^^ (y &&& z)

def bigSigma0 (x : Word) : Word := x.rotateRight 2 ^^^ x.rotateRight 13 ^^^ x.rotateRight 22

def bigSigma1 (x : Word) : Word := x.rotateRight 6 ^^^ x.rotateRight 11 ^^^ x.rotateRight 25

def smallSigma0 (x : Word) : Word := x.rotateRight 7 ^^^ x.rotateRight 18 ^^^ x >>> 3

def smallSigma1 (x : Word) : Word := x.rotateRight 17 ^^^ x.rotateRight 19 ^^^ x >>> 10

/-- The words that the sixteen words of a block begin. -/
def schedule (block : Nat → Word) (round : Nat) : Word :=
  if round < 16 then block round
  else smallSigma1 (schedule block (round - 2)) + schedule block (round - 7) +
    smallSigma0 (schedule block (round - 15)) + schedule block (round - 16)

/-- The eight words that the rounds work on. -/
structure Registers where
  a : Word
  b : Word
  c : Word
  d : Word
  e : Word
  f : Word
  g : Word
  h : Word
deriving DecidableEq, Repr

namespace Registers

def words (registers : Registers) : List Word :=
  [registers.a, registers.b, registers.c, registers.d, registers.e, registers.f, registers.g,
    registers.h]

/-- The registers before the first block, from the first eight primes. -/
def start : Registers :=
  ⟨rootFraction 2 2, rootFraction 2 3, rootFraction 2 5, rootFraction 2 7, rootFraction 2 11,
    rootFraction 2 13, rootFraction 2 17, rootFraction 2 19⟩

def add (left right : Registers) : Registers :=
  ⟨left.a + right.a, left.b + right.b, left.c + right.c, left.d + right.d, left.e + right.e,
    left.f + right.f, left.g + right.g, left.h + right.h⟩

/-- One round, with its word of the schedule and its constant. -/
def round (registers : Registers) (word constant : Word) : Registers :=
  let ⟨a, b, c, d, e, f, g, h⟩ := registers
  let first := h + bigSigma1 e + choice e f g + constant + word
  let second := bigSigma0 a + majority a b c
  ⟨first + second, a, b, c, d + first, e, f, g⟩

/-- A number of rounds over a block. -/
def rounds (registers : Registers) (block : Nat → Word) : (count : Nat) → Registers
  | 0 => registers
  | count + 1 =>
    (registers.rounds block count).round (schedule block count) (constants.getD count 0)

/-- What a block makes of the registers. -/
def compress (registers : Registers) (block : Nat → Word) : Registers :=
  registers.add (registers.rounds block 64)

end Registers

/-- The fewest zeros that fill up the last block of 64 bytes, with one byte in front of them and
eight behind. -/
def zeros (length : Nat) : Nat :=
  ((List.range 64).find? fun count => 64 ∣ length + 1 + count + 8).getD 0

/-- The byte of a number that leaves `behind` bytes behind it. -/
def byteOf {width : Nat} (number : BitVec width) (behind : Nat) : UInt8 :=
  ⟨number.extractLsb' (8 * behind) 8⟩

/-- A message with a byte that starts with a set bit, zeros, and the number of its bits. -/
def padded (message : List UInt8) : List UInt8 :=
  message ++ [0x80] ++ List.replicate (zeros message.length) 0 ++
    [7, 6, 5, 4, 3, 2, 1, 0].map (byteOf (BitVec.ofNat 64 (8 * message.length)))

/-- The word at a position of bytes, the first byte leading. -/
def wordAt (bytes : List UInt8) (index : Nat) : Word :=
  (bytes.getD (4 * index) 0).toBitVec ++ (bytes.getD (4 * index + 1) 0).toBitVec ++
    (bytes.getD (4 * index + 2) 0).toBitVec ++ (bytes.getD (4 * index + 3) 0).toBitVec

/-- The registers after a number of blocks. -/
def absorb (bytes : List UInt8) : (count : Nat) → Registers
  | 0 => .start
  | count + 1 => (absorb bytes count).compress fun index => wordAt bytes (16 * count + index)

/-- The digest of a message. -/
def digest (message : List UInt8) : List UInt8 :=
  (absorb (padded message) ((padded message).length / 64)).words.flatMap fun word =>
    [3, 2, 1, 0].map (byteOf word)

/-- The digest of a text in UTF-8, in hexadecimal digits. -/
def hexDigest (text : String) : String :=
  String.ofList <| (digest (text.toList.flatMap String.utf8EncodeChar)).flatMap fun byte =>
    [Nat.digitChar (byte.toNat / 16), Nat.digitChar (byte.toNat % 16)]

end Sha256

namespace Checksum

open Sha256 (Registers Word)

/-! ### Words -/

theorem toBitVec_rotate (word : UInt32) {amount : Nat} (turned : 0 < amount) (small : amount < 32) :
    (rotate word (no_index (OfNat.ofNat amount))).toBitVec = word.toBitVec.rotateRight amount := by
  have right : (OfNat.ofNat amount : UInt32).toBitVec % 32 = BitVec.ofNat 32 amount := by
    apply BitVec.eq_of_toNat_eq
    simp
    omega
  have left : (32 - OfNat.ofNat amount : UInt32).toBitVec % 32 = BitVec.ofNat 32 (32 - amount) := by
    apply BitVec.eq_of_toNat_eq
    simp [UInt32.toBitVec_sub]
    omega
  rw [rotate, UInt32.toBitVec_or, UInt32.toBitVec_shiftRight, UInt32.toBitVec_shiftLeft, right,
    left, BitVec.rotateRight_def, Nat.mod_eq_of_lt small, BitVec.ushiftRight_eq',
    BitVec.shiftLeft_eq', BitVec.toNat_ofNat, BitVec.toNat_ofNat, Nat.mod_eq_of_lt (by omega),
    Nat.mod_eq_of_lt (by omega)]

/-- A byte that is pushed into a word from the right. -/
theorem getLsbD_push (word : UInt32) (byte : UInt8) {bit : Nat} (inside : bit < 32) :
    ((word <<< 8) ||| byte.toUInt32).toBitVec.getLsbD bit =
      if bit < 8 then byte.toBitVec.getLsbD bit else word.toBitVec.getLsbD (bit - 8) := by
  have eight : UInt32.toBitVec 8 % 32 = 8#32 := rfl
  rw [UInt32.toBitVec_or, UInt32.toBitVec_shiftLeft, UInt8.toBitVec_toUInt32, eight,
    BitVec.shiftLeft_eq', BitVec.getLsbD_or, BitVec.getLsbD_shiftLeft, BitVec.getLsbD_setWidth]
  split
  · next low => simp [low, inside]
  · next high =>
      have beyond : byte.toBitVec.getLsbD bit = false := BitVec.getLsbD_of_ge _ _ (by omega)
      simp [high, inside, beyond]

theorem toBitVec_wordOf (first second third fourth : UInt8) :
    (wordOf [first, second, third, fourth]).toBitVec =
      first.toBitVec ++ second.toBitVec ++ third.toBitVec ++ fourth.toBitVec := by
  apply BitVec.eq_of_getLsbD_eq
  intro bit inside
  have last : bit - 8 - 8 - 8 < 8 := by omega
  simp only [wordOf, List.foldl_cons, List.foldl_nil, BitVec.getLsbD_append]
  rw [getLsbD_push _ _ inside, getLsbD_push _ _ (by omega), getLsbD_push _ _ (by omega),
    getLsbD_push _ _ (by omega), if_pos last]

/-- The bytes of a number are its bits by eights. -/
theorem bytesOf_eq (count n : Nat) :
    bytesOf count n =
      (List.range count).reverse.map (Sha256.byteOf (BitVec.ofNat (8 * count) n)) := by
  rw [bytesOf, ← List.map_reverse]
  refine List.map_congr_left fun behind member => UInt8.toBitVec_inj.mp ?_
  have small : behind < count := List.mem_range.mp (List.mem_reverse.mp member)
  have eights : Nat.pow 256 behind = 2 ^ (8 * behind) := (Nat.pow_mul 2 8 behind).symm
  change BitVec.ofNat 8 (n / Nat.pow 256 behind) = (BitVec.ofNat (8 * count) n).extractLsb' _ 8
  rw [eights]
  ext bit inside
  have within : 8 * behind + bit < 8 * count := by omega
  rw [BitVec.getElem_extractLsb', ← BitVec.getLsbD_eq_getElem inside, BitVec.getLsbD_ofNat,
    BitVec.getLsbD_ofNat, Nat.testBit_div_two_pow, decide_eq_true inside, decide_eq_true within,
    Nat.add_comm]

theorem bytesOf_toNat (word : UInt32) :
    bytesOf 4 word.toNat = [3, 2, 1, 0].map (Sha256.byteOf word.toBitVec) := by
  have same : BitVec.ofNat (8 * 4) word.toNat = word.toBitVec :=
    (BitVec.ofNat_toNat 32 word.toBitVec).trans (BitVec.setWidth_eq _)
  rw [bytesOf_eq, same]
  rfl

/-! ### Rounds -/

/-- The registers of a state. -/
def State.registers (state : State) : Registers :=
  ⟨state.a.toBitVec, state.b.toBitVec, state.c.toBitVec, state.d.toBitVec, state.e.toBitVec,
    state.f.toBitVec, state.g.toBitVec, state.h.toBitVec⟩

theorem registers_words (state : State) :
    state.registers.words = state.words.map UInt32.toBitVec := rfl

theorem registers_start : State.start.registers = .start := by decide +kernel

theorem registers_add (left right : State) :
    (left.add right).registers = left.registers.add right.registers := rfl

theorem registers_step (state : State) (word constant : UInt32) :
    (step state (word, constant)).registers =
      state.registers.round word.toBitVec constant.toBitVec := by
  simp [step, State.registers, Registers.round, Sha256.choice, Sha256.majority, Sha256.bigSigma0,
    Sha256.bigSigma1, toBitVec_rotate]

theorem constants_eq : constants = Sha256.constants.map UInt32.ofBitVec := by decide +kernel

theorem length_constants : Sha256.constants.length = 64 := by
  rw [← List.length_map UInt32.ofBitVec, ← constants_eq]
  rfl

theorem constants_map :
    constants = (List.range 64).map fun round =>
      UInt32.ofBitVec (Sha256.constants.getD round 0) := by
  rw [constants_eq]
  apply List.ext_getElem
  · rw [List.length_map, List.length_map, List.length_range, length_constants]
  · intro round left right
    rw [List.getElem_map, List.getElem_map, List.getElem_range, List.getD_eq_getElem]

section Blocks

variable (block : Nat → Word)

/-- A word of the schedule. -/
def scheduled (round : Nat) : UInt32 := UInt32.ofBitVec (Sha256.schedule block round)

/-- The sixteen words of the schedule from a round on. -/
def window (start : Nat) : List UInt32 :=
  (List.range 16).map fun index => scheduled block (start + index)

theorem nextWord_window (start : Nat) :
    nextWord (window block start) = scheduled block (start + 16) := by
  apply UInt32.toBitVec_inj.mp
  rw [scheduled, Sha256.schedule, if_neg (by omega)]
  simp [nextWord, window, scheduled, toBitVec_rotate, Sha256.smallSigma0, Sha256.smallSigma1]
  ac_rfl

theorem window_succ (start : Nat) :
    (window block start).drop 1 ++ [nextWord (window block start)] = window block (start + 1) := by
  rw [nextWord_window]
  simp [window, List.range_succ, Nat.add_assoc]

theorem spread_window (count start : Nat) :
    spread count (window block start) =
      (List.range count).map fun index => scheduled block (start + index) := by
  induction count generalizing start with
  | zero => rfl
  | succ count inductionHypothesis =>
      have head : (window block start).headD 0 = scheduled block start := rfl
      rw [spread, window_succ, inductionHypothesis, head, List.range_succ_eq_map, List.map_cons,
        List.map_map]
      simp [Nat.add_assoc, Nat.add_comm 1, Function.comp_def]

theorem registers_foldl_step (state : State) (count : Nat) :
    (((List.range count).map fun round =>
        (scheduled block round, UInt32.ofBitVec (Sha256.constants.getD round 0))).foldl step
      state).registers = state.registers.rounds block count := by
  induction count with
  | zero => rfl
  | succ count inductionHypothesis =>
      rw [List.range_succ, List.map_append, List.foldl_append, List.map_singleton, List.foldl_cons,
        List.foldl_nil, registers_step, inductionHypothesis]
      rfl

end Blocks

/-! ### Blocks -/

theorem pieces_eq {α : Type} (size count : Nat) (list : List α) :
    pieces size count list =
      (List.range count).map fun index => (list.drop (size * index)).take size := by
  induction count generalizing list with
  | zero => rfl
  | succ count inductionHypothesis =>
      rw [pieces, inductionHypothesis, List.range_succ_eq_map, List.map_cons, List.map_map]
      simp [Function.comp_def, Nat.mul_succ, Nat.add_comm]

theorem take_four {bytes : List UInt8} {start : Nat} (inside : start + 4 ≤ bytes.length) :
    (bytes.drop start).take 4 =
      [bytes.getD start 0, bytes.getD (start + 1) 0, bytes.getD (start + 2) 0,
        bytes.getD (start + 3) 0] := by
  rw [List.drop_eq_getElem_cons (show start < bytes.length by omega),
    List.drop_eq_getElem_cons (show start + 1 < bytes.length by omega),
    List.drop_eq_getElem_cons (show start + 2 < bytes.length by omega),
    List.drop_eq_getElem_cons (show start + 3 < bytes.length by omega),
    List.getD_eq_getElem _ _ (show start < bytes.length by omega),
    List.getD_eq_getElem _ _ (show start + 1 < bytes.length by omega),
    List.getD_eq_getElem _ _ (show start + 2 < bytes.length by omega),
    List.getD_eq_getElem _ _ (show start + 3 < bytes.length by omega)]
  rfl

section Absorbing

variable {bytes : List UInt8} {count : Nat}

/-- The words of a block are those at its positions. -/
theorem words_block (inside : 64 * count + 64 ≤ bytes.length) :
    (pieces 4 16 ((bytes.drop (64 * count)).take 64)).map wordOf =
      window (fun index => Sha256.wordAt bytes (16 * count + index)) 0 := by
  rw [pieces_eq, List.map_map, window]
  refine List.map_congr_left fun index member => UInt32.toBitVec_inj.mp ?_
  have small : index < 16 := List.mem_range.mp member
  have place : 64 * count + 4 * index = 4 * (16 * count + index) := by omega
  have four : (((bytes.drop (64 * count)).take 64).drop (4 * index)).take 4 =
      (bytes.drop (4 * (16 * count + index))).take 4 := by
    rw [List.drop_take, List.take_take, List.drop_drop, place, Nat.min_eq_left (by omega)]
  rw [Function.comp_apply, four, take_four (by omega), toBitVec_wordOf, Nat.zero_add, scheduled,
    Sha256.schedule, if_pos small]
  rfl

theorem registers_stir (state : State) (inside : 64 * count + 64 ≤ bytes.length) :
    (stir state ((bytes.drop (64 * count)).take 64)).registers =
      state.registers.compress fun index => Sha256.wordAt bytes (16 * count + index) := by
  unfold stir
  simp only [words_block inside, spread_window, constants_map, List.zip_map', registers_add,
    Nat.zero_add, registers_foldl_step]
  rfl

theorem registers_absorb (inside : 64 * count ≤ bytes.length) :
    ((pieces 64 count bytes).foldl stir .start).registers = Sha256.absorb bytes count := by
  rw [pieces_eq]
  induction count with
  | zero => exact registers_start
  | succ count inductionHypothesis =>
      rw [List.range_succ, List.map_append, List.foldl_append, List.map_singleton, List.foldl_cons,
        List.foldl_nil, registers_stir _ (by omega), inductionHypothesis (by omega)]
      rfl

end Absorbing

/-! ### Digests -/

theorem zeros_eq (length : Nat) : Sha256.zeros length = (119 - length % 64) % 64 := by
  have found : (List.range 64).find? (fun count => 64 ∣ length + 1 + count + 8) =
      some ((119 - length % 64) % 64) := by
    simp only [List.find?_range_eq_some, decide_eq_true_eq, List.mem_range, Bool.not_eq_true',
      decide_eq_false_iff_not]
    exact ⟨by omega, by omega, fun count fewer => by omega⟩
  rw [Sha256.zeros, found, Option.getD_some]

theorem padded_eq (message : List UInt8) : padded message = Sha256.padded message := by
  rw [padded, Sha256.padded, zeros_eq, bytesOf_eq]
  rfl

theorem digest_eq (message : List UInt8) : digest message = Sha256.digest message := by
  have whole : 64 * ((padded message).length / 64) ≤ (padded message).length := Nat.mul_div_le ..
  rw [Sha256.digest, ← padded_eq, ← registers_absorb whole, registers_words, List.flatMap_map,
    digest]
  simp only [bytesOf_toNat]

/-- The checksum of a text is the SHA-256 digest of its UTF-8 bytes in hexadecimal digits. -/
theorem ofText_eq (text : String) : ofText text = Sha256.hexDigest text := by
  rw [ofText, Text.Utf8.encode_eq, digest_eq]
  rfl

example :
    Sha256.hexDigest "abc" =
      "ba7816bf8f01cfea414140de5dae2223b00361a396177a9cb410ff61f20015ad" := by
  rw [← ofText_eq]
  decide +kernel

end Checksum

end SearchIndex
