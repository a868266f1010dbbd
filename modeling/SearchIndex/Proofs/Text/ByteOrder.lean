import Mathlib.Tactic.SplitIfs
import SearchIndex.Proofs.Text.Utf8

/-!
Contract: texts stand in the order of their bytes.

Owns: `encode_lt_encode`, by which a text that comes before another one has the earlier bytes. The
order of texts is that of the numbers of their characters; a greater number never has an earlier
first byte, and the bytes of one length are the digits of the number.
-/

namespace SearchIndex.Text.Utf8

/-! ### Characters -/

/-- The bytes of a number, leading bits first. -/
def bytesOf (n : Nat) : List Nat :=
  if n ≤ 127 then [n]
  else if n ≤ 2047 then [n / 64 % 32 + 192, n % 64 + 128]
  else if n ≤ 65535 then [n / 4096 % 16 + 224, n / 64 % 64 + 128, n % 64 + 128]
  else [n / 262144 % 8 + 240, n / 4096 % 64 + 128, n / 64 % 64 + 128, n % 64 + 128]

theorem encodeChar_eq (c : Char) : String.utf8EncodeChar c = (bytesOf c.toNat).map UInt8.ofNat := by
  change (if c.toNat ≤ 127 then _ else if c.toNat ≤ 2047 then _
    else if c.toNat ≤ 65535 then _ else _) = _
  unfold bytesOf
  split_ifs <;> rfl

theorem lt_of_mem_bytesOf {n byte : Nat} (member : byte ∈ bytesOf n) : byte < 256 := by
  unfold bytesOf at member
  split_ifs at member <;> simp at member <;> omega

/-- Two lists differ before one of them ends, and the first difference decides. -/
def Precedes : List Nat → List Nat → Prop
  | first :: rest, other :: others => first < other ∨ first = other ∧ Precedes rest others
  | _, _ => False

theorem precedes_bytesOf {n m : Nat} (less : n < m) (below : m < 0x110000) :
    Precedes (bytesOf n) (bytesOf m) := by
  -- The first bits in which the numbers differ are in one of the bytes.
  have high : n / 262144 < m / 262144 ∨ n / 262144 = m / 262144 := by omega
  have middle : n / 4096 < m / 4096 ∨ n / 4096 = m / 4096 := by omega
  have low : n / 64 < m / 64 ∨ n / 64 = m / 64 := by omega
  have lead : n / 262144 % 8 = n / 262144 ∧ m / 262144 % 8 = m / 262144 :=
    ⟨Nat.mod_eq_of_lt (by omega), Nat.mod_eq_of_lt (by omega)⟩
  unfold bytesOf
  split_ifs <;> simp only [Precedes, lead] <;> omega

/-- What stands behind the first difference does not count. -/
theorem append_lt_append {left right : List Nat} (precedes : Precedes left right)
    (leftSmall : ∀ byte ∈ left, byte < 256) (rightSmall : ∀ byte ∈ right, byte < 256)
    (rest others : List UInt8) :
    left.map UInt8.ofNat ++ rest < right.map UInt8.ofNat ++ others := by
  induction left generalizing right with
  | nil => contradiction
  | cons first left inductionHypothesis =>
      cases right with
      | nil => contradiction
      | cons other right =>
          obtain ⟨firstSmall, leftSmall⟩ := List.forall_mem_cons.mp leftSmall
          obtain ⟨otherSmall, othersSmall⟩ := List.forall_mem_cons.mp rightSmall
          refine List.cons_lt_cons_iff.mpr ?_
          rcases precedes with less | ⟨rfl, further⟩
          · refine .inl (UInt8.lt_iff_toNat_lt.mpr ?_)
            rwa [UInt8.toNat_ofNat_of_lt' firstSmall, UInt8.toNat_ofNat_of_lt' otherSmall]
          · exact .inr ⟨rfl, inductionHypothesis further leftSmall othersSmall⟩

theorem toNat_lt (c : Char) : c.toNat < 0x110000 := by
  have valid : c.toNat < 0xD800 ∨ 0xDFFF < c.toNat ∧ c.toNat < 0x110000 := c.valid
  omega

theorem encodeChar_lt {c d : Char} (less : c < d) (rest others : List UInt8) :
    String.utf8EncodeChar c ++ rest < String.utf8EncodeChar d ++ others := by
  rw [encodeChar_eq, encodeChar_eq]
  exact append_lt_append (precedes_bytesOf less (toNat_lt d)) (fun _ => lt_of_mem_bytesOf)
    (fun _ => lt_of_mem_bytesOf) rest others

/-! ### Texts -/

theorem encode_lt_encode {left right : String} (less : left < right) :
    encode left < encode right := by
  have characters (chars others : List Char) (less : chars < others) :
      chars.flatMap String.utf8EncodeChar < others.flatMap String.utf8EncodeChar := by
    induction less with
    | @nil c others =>
        rw [List.flatMap_nil, List.flatMap_cons]
        obtain ⟨first, rest, bytes⟩ := List.exists_cons_of_ne_nil String.utf8EncodeChar_ne_nil
        rw [bytes]
        exact List.nil_lt_cons _ _
    | rel less => exact encodeChar_lt less _ _
    | cons _ further => exact List.append_left_lt further
  rw [encode_eq, encode_eq]
  exact characters _ _ less

end SearchIndex.Text.Utf8
