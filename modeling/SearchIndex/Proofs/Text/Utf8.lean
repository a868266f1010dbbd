import SearchIndex.Text.Utf8

/-!
Contract: a text is decoded from its encoding.

Owns: `decode_encode`, and `decodeFrom_encodeChar`, by which the bytes of one character are decoded
in front of others.
-/

namespace SearchIndex.Text.Utf8

/-! ### Bytes -/

theorem toList_loop (bytes : ByteArray) (index : Nat) (taken : List UInt8) :
    ByteArray.toList.loop bytes index taken = taken.reverse ++ bytes.data.toList.drop index := by
  fun_induction ByteArray.toList.loop bytes index taken with
  | case1 index taken more inductionHypothesis =>
      have inside : index < bytes.data.toList.length := by simpa using more
      rw [inductionHypothesis, List.drop_eq_getElem_cons inside]
      simp [ByteArray.get!, more]
  | case2 index taken finished =>
      rw [List.drop_eq_nil_of_le (by simpa using finished), List.append_nil]

theorem encode_eq (text : String) : encode text = text.toList.flatMap String.utf8EncodeChar := by
  have bytes : text.toByteArray = (text.toList.flatMap String.utf8EncodeChar).toByteArray :=
    String.utf8Encode_toList.symm
  change text.toByteArray.toList = _
  rw [bytes, ByteArray.toList, toList_loop, List.data_toByteArray]
  rfl

/-! ### Sequences of bytes -/

section Sequences

variable {rest : List UInt8} {others : List Char} {first second third fourth : UInt8}

theorem decodeFrom_one (decoded : ∀ index, decodeFrom index rest = .ok others)
    (ascii : first.toNat < 0x80) (index : Nat) :
    decodeFrom index (first :: rest) = .ok (charOf [first.toNat] :: others) := by
  rw [decodeFrom.eq_def]
  simp [ascii, decoded, Except.map]

theorem decodeFrom_two (decoded : ∀ index, decodeFrom index rest = .ok others)
    (opening : 0xC2 ≤ first.toNat ∧ first.toNat ≤ 0xDF) (tail : isTail second.toNat = true)
    (index : Nat) :
    decodeFrom index (first :: second :: rest) =
      .ok (charOf [first.toNat - 0xC0, second.toNat - 0x80] :: others) := by
  have high : ¬ first.toNat < 0x80 := by omega
  rw [decodeFrom.eq_def]
  simp [high, opening, tail, decoded, Except.map]

theorem decodeFrom_three (decoded : ∀ index, decodeFrom index rest = .ok others)
    (opening : 0xE0 ≤ first.toNat ∧ first.toNat ≤ 0xEF)
    (opens : opensThree first.toNat second.toNat = true) (tail : isTail third.toNat = true)
    (index : Nat) :
    decodeFrom index (first :: second :: third :: rest) =
      .ok (charOf [first.toNat - 0xE0, second.toNat - 0x80, third.toNat - 0x80] :: others) := by
  have high : ¬ first.toNat < 0x80 := by omega
  have higher : ¬ first.toNat ≤ 0xDF := by omega
  rw [decodeFrom.eq_def]
  simp [high, higher, opening, opens, tail, decoded, Except.map]

theorem decodeFrom_four (decoded : ∀ index, decodeFrom index rest = .ok others)
    (opening : 0xF0 ≤ first.toNat ∧ first.toNat ≤ 0xF4)
    (opens : opensFour first.toNat second.toNat = true) (tail : isTail third.toNat = true)
    (last : isTail fourth.toNat = true) (index : Nat) :
    decodeFrom index (first :: second :: third :: fourth :: rest) =
      .ok (charOf [first.toNat - 0xF0, second.toNat - 0x80, third.toNat - 0x80,
        fourth.toNat - 0x80] :: others) := by
  have high : ¬ first.toNat < 0x80 := by omega
  have higher : ¬ first.toNat ≤ 0xDF := by omega
  have highest : ¬ first.toNat ≤ 0xEF := by omega
  rw [decodeFrom.eq_def]
  simp [high, higher, highest, opening, opens, tail, last, decoded, Except.map]

end Sequences

/-! ### Characters -/

theorem isTail_low (n : Nat) : isTail (n % 64 + 128) = true := by
  simp only [isTail, Bool.and_eq_true, decide_eq_true_eq]
  omega

/-- The first byte of three leaves out what two bytes write, and the numbers that are no
characters. -/
theorem opensThree_of_valid {n : Nat} (above : 2047 < n) (below : n ≤ 65535)
    (valid : n < 0xD800 ∨ 0xDFFF < n) :
    opensThree (n / 4096 % 16 + 224) (n / 64 % 64 + 128) = true := by
  simp only [opensThree, isTail, Bool.or_eq_true, Bool.and_eq_true, decide_eq_true_eq, beq_iff_eq]
  omega

/-- The first byte of four leaves out what three bytes write, and what lies above the last
character. -/
theorem opensFour_of_valid {n : Nat} (above : 65535 < n) (below : n < 0x110000) :
    opensFour (n / 262144 % 8 + 240) (n / 4096 % 64 + 128) = true := by
  simp only [opensFour, isTail, Bool.or_eq_true, Bool.and_eq_true, decide_eq_true_eq, beq_iff_eq]
  omega

/-- The bytes of a character are decoded, whatever stands behind them. -/
theorem decodeFrom_encodeChar (c : Char) {rest : List UInt8} {others : List Char}
    (decoded : ∀ index, decodeFrom index rest = .ok others) (index : Nat) :
    decodeFrom index (String.utf8EncodeChar c ++ rest) = .ok (c :: others) := by
  have valid : c.toNat < 0xD800 ∨ 0xDFFF < c.toNat ∧ c.toNat < 0x110000 := c.valid
  have byte {n : Nat} (small : n < 256) : (UInt8.ofNat n).toNat = n :=
    UInt8.toNat_ofNat_of_lt' small
  have read {groups : List Nat}
      (number : groups.foldl (fun number group => number * 64 + group) 0 = c.toNat) :
      charOf groups = c := by
    rw [charOf, number, Char.ofNat_toNat]
  change decodeFrom index ((
    if c.toNat ≤ 127 then [UInt8.ofNat c.toNat]
    else if c.toNat ≤ 2047 then
      [UInt8.ofNat (c.toNat / 64 % 32 + 192), UInt8.ofNat (c.toNat % 64 + 128)]
    else if c.toNat ≤ 65535 then
      [UInt8.ofNat (c.toNat / 4096 % 16 + 224), UInt8.ofNat (c.toNat / 64 % 64 + 128),
        UInt8.ofNat (c.toNat % 64 + 128)]
    else
      [UInt8.ofNat (c.toNat / 262144 % 8 + 240), UInt8.ofNat (c.toNat / 4096 % 64 + 128),
        UInt8.ofNat (c.toNat / 64 % 64 + 128), UInt8.ofNat (c.toNat % 64 + 128)]) ++ rest) = _
  generalize c.toNat = n at *
  have low : (UInt8.ofNat (n % 64 + 128)).toNat = n % 64 + 128 := byte (by omega)
  have middle : (UInt8.ofNat (n / 64 % 64 + 128)).toNat = n / 64 % 64 + 128 := byte (by omega)
  have lowTail := (congrArg isTail low).trans (isTail_low n)
  have middleTail := (congrArg isTail middle).trans (isTail_low (n / 64))
  split
  · next one =>
      have first : (UInt8.ofNat n).toNat = n := byte (by omega)
      rw [List.singleton_append, decodeFrom_one decoded (by omega), first, read (by simp)]
  · split
    · next one two =>
        have first : (UInt8.ofNat (n / 64 % 32 + 192)).toNat = n / 64 % 32 + 192 := byte (by omega)
        rw [List.cons_append, List.singleton_append,
          decodeFrom_two decoded (by omega) lowTail, first, low, read]
        simp only [List.foldl_cons, List.foldl_nil]
        omega
    · split
      · next one two three =>
          have first : (UInt8.ofNat (n / 4096 % 16 + 224)).toNat = n / 4096 % 16 + 224 :=
            byte (by omega)
          have opens := opensThree_of_valid (n := n) (by omega) three (by omega)
          rw [List.cons_append, List.cons_append, List.singleton_append,
            decodeFrom_three decoded (by omega) (by rwa [first, middle]) lowTail,
            first, middle, low, read]
          simp only [List.foldl_cons, List.foldl_nil]
          omega
      · next one two three =>
          have first : (UInt8.ofNat (n / 262144 % 8 + 240)).toNat = n / 262144 % 8 + 240 :=
            byte (by omega)
          have second : (UInt8.ofNat (n / 4096 % 64 + 128)).toNat = n / 4096 % 64 + 128 :=
            byte (by omega)
          have opens := opensFour_of_valid (n := n) (by omega) (by omega)
          rw [List.cons_append, List.cons_append, List.cons_append, List.singleton_append,
            decodeFrom_four decoded (by omega) (by rwa [first, second])
              middleTail lowTail, first, second, middle, low, read]
          simp only [List.foldl_cons, List.foldl_nil]
          omega

theorem decode_encode (text : String) : decode (encode text) = .ok text := by
  have characters (chars : List Char) (index : Nat) :
      decodeFrom index (chars.flatMap String.utf8EncodeChar) = .ok chars := by
    induction chars generalizing index with
    | nil => rw [List.flatMap_nil, decodeFrom]
    | cons c chars inductionHypothesis =>
        rw [List.flatMap_cons]
        exact decodeFrom_encodeChar c inductionHypothesis index
  rw [decode, encode_eq, characters, Except.map, String.ofList_toList]

end SearchIndex.Text.Utf8
