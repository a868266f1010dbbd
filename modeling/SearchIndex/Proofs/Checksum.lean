import SearchIndex.Checksum
import SearchIndex.Manifest

/-!
Contract: what a checksum looks like.

Owns: `isChecksum_ofText`, by which the checksum of any text passes the check of manifests.
-/

namespace SearchIndex

namespace Text.Hex

theorem isDigit_iff {c : Char} :
    isDigit c = true ↔ ('0' ≤ c ∧ c ≤ '9') ∨ ('a' ≤ c ∧ c ≤ 'f') ∨ ('A' ≤ c ∧ c ≤ 'F') := by
  have decimal : c.isDigit = true ↔ '0' ≤ c ∧ c ≤ '9' := by
    simp only [Char.isDigit, Bool.and_eq_true, decide_eq_true_eq]
    exact Iff.rfl
  simp only [isDigit, Bool.or_eq_true, Bool.and_eq_true, decide_eq_true_eq, decimal, or_assoc]

theorem isDigit_digitChar : ∀ n < 16, isDigit (Nat.digitChar n) = true := by decide

theorem isDigit_of_mem_pair {byte : UInt8} {c : Char} (member : c ∈ pair byte) :
    isDigit c = true := by
  have small : byte.toNat < 256 := byte.toNat_lt
  unfold pair at member
  rcases List.mem_cons.mp member with rfl | member
  · exact isDigit_digitChar _ (by omega)
  · rw [List.mem_singleton.mp member]
    exact isDigit_digitChar _ (by omega)

theorem length_encode (bytes : List UInt8) : (encode bytes).length = 2 * bytes.length := by
  rw [encode, String.length_ofList, List.length_flatMap]
  induction bytes with
  | nil => rfl
  | cons byte bytes inductionHypothesis =>
      rw [List.map_cons, List.sum_cons, inductionHypothesis, List.length_cons]
      change 2 + 2 * bytes.length = 2 * (bytes.length + 1)
      omega

theorem isDigit_of_mem_encode {bytes : List UInt8} {c : Char} (member : c ∈ (encode bytes).toList) :
    isDigit c = true := by
  rw [encode, String.toList_ofList] at member
  obtain ⟨byte, _, pairMember⟩ := List.mem_flatMap.mp member
  exact isDigit_of_mem_pair pairMember

end Text.Hex

namespace Checksum

theorem length_bytesOf (count n : Nat) : (bytesOf count n).length = count := by
  rw [bytesOf, List.length_reverse, List.length_map, List.length_range]

/-- Eight words of four bytes. -/
theorem length_digest (bytes : List UInt8) : (digest bytes).length = 32 := by
  unfold digest
  simp [State.words, length_bytesOf]

theorem isChecksum_ofText (text : String) : Manifest.isChecksum (ofText text) = true := by
  unfold Manifest.isChecksum ofText
  rw [Text.Hex.length_encode, length_digest, Bool.and_eq_true, List.all_eq_true]
  exact ⟨rfl, fun _ member => Text.Hex.isDigit_of_mem_encode member⟩

end Checksum

end SearchIndex
