import SearchIndex.Decimal.Integer
import SearchIndex.Text.Blank

/-!
Contract: a whole number is written in digits and read back.

Owns: the digits of `Decimal.natural`, of which there is at least one; `integer?_integer`, by which
the sign of a negative number is kept; and the readers of bounded numbers on what is written.
-/

namespace SearchIndex.Decimal

theorem toList_natural (n : Nat) : (natural n).toList = Nat.toDigits 10 n :=
  String.toList_ofList

theorem natural_eq_repr (n : Nat) : natural n = n.repr := rfl

theorem isDigit_of_mem_natural {n : Nat} {c : Char} (member : c ∈ (natural n).toList) :
    c.isDigit = true := by
  rw [toList_natural] at member
  exact Nat.isDigit_of_mem_toDigits (by decide) (by decide) member

theorem natural_ne_nil (n : Nat) : (natural n).toList ≠ [] := by
  rw [toList_natural]
  exact Nat.toDigits_ne_nil

theorem isBlank_of_isDigit {c : Char} (digit : c.isDigit = true) : Text.isBlank c = false := by
  rw [Char.isDigit_iff_toNat] at digit
  have zero : '0'.toNat = 48 := rfl
  have nine : '9'.toNat = 57 := rfl
  simp only [Text.isBlank, Bool.or_eq_false_iff, Bool.and_eq_false_iff, decide_eq_false_iff_not,
    beq_eq_false_iff_ne]
  omega

theorem exists_toList_natural (n : Nat) :
    ∃ first others, (natural n).toList = first :: others ∧ first.isDigit = true ∧
      ∀ c ∈ others, c.isDigit = true := by
  obtain ⟨first, others, split⟩ := List.exists_cons_of_ne_nil (natural_ne_nil n)
  refine ⟨first, others, split, ?_, fun c member => ?_⟩
  · exact isDigit_of_mem_natural (by rw [split]; exact List.mem_cons_self)
  · exact isDigit_of_mem_natural (by rw [split]; exact List.mem_cons_of_mem first member)

/-- A positive number has no zero in front. -/
theorem head?_natural_ne_zero {n : Nat} (positive : 0 < n) :
    (natural n).toList.head? ≠ some '0' := by
  induction n using Nat.strongRecOn with
  | ind n inductionHypothesis =>
      rw [toList_natural]
      by_cases small : n < 10
      · rw [Nat.toDigits_of_lt_base small]
        simpa using Nat.ne_of_gt positive
      · have shorter := inductionHypothesis (n / 10) (by omega) (by omega)
        rw [toList_natural] at shorter
        obtain ⟨first, others, split⟩ :=
          List.exists_cons_of_ne_nil (Nat.toDigits_ne_nil : Nat.toDigits 10 (n / 10) ≠ [])
        rw [split] at shorter
        rw [Nat.toDigits_of_base_le (by decide) (by omega), split]
        exact shorter

/-! ### Reading -/

/-- Digits are read back as the number that they write. -/
theorem digits?_natural (n : Nat) : digits? (natural n).toList = some n := by
  have some : (natural n).toList.isEmpty = false := List.isEmpty_eq_false_iff.mpr (natural_ne_nil n)
  have digits : (natural n).toList.all Char.isDigit = true :=
    List.all_eq_true.mpr fun _ member => isDigit_of_mem_natural member
  rw [digits?, some, digits]
  simp only [Bool.not_true, Bool.or_self, Bool.false_eq_true, if_false]
  rw [toList_natural, Nat.ofDigitChars_ten_toDigits]

theorem natural?_natural (n : Nat) : natural? (natural n).toList = some n := by
  obtain ⟨first, others, split, digit, _⟩ := exists_toList_natural n
  have noSign : natural? (natural n).toList = digits? (natural n).toList := by
    rw [split]
    unfold natural?
    split
    · next same =>
        rw [(List.cons.inj same).1] at digit
        contradiction
    · rfl
  rw [noSign, digits?_natural]

/-- An integer is read back with its sign. -/
theorem integer?_integer (n : Int) : integer? (integer n).toList = some n := by
  cases n with
  | ofNat n =>
      obtain ⟨first, others, split, digit, _⟩ := exists_toList_natural n
      have noSign : integer? (natural n).toList = (natural? (natural n).toList).map Int.ofNat := by
        rw [split]
        unfold integer?
        split
        · next same =>
            rw [(List.cons.inj same).1] at digit
            contradiction
        · rfl
      rw [integer, noSign, natural?_natural]
      rfl
  | negSucc n =>
      have signed : (integer (.negSucc n)).toList = '-' :: (natural (n + 1)).toList :=
        String.toList_append
      rw [signed, integer?, digits?_natural]
      rfl

theorem isBlank_of_mem_integer {n : Int} {c : Char} (member : c ∈ (integer n).toList) :
    Text.isBlank c = false := by
  cases n with
  | ofNat n => exact isBlank_of_isDigit (isDigit_of_mem_natural member)
  | negSucc n =>
      rw [integer, String.toList_append, List.mem_append] at member
      rcases member with sign | digit
      · rw [List.mem_singleton.mp sign]
        decide
      · exact isBlank_of_isDigit (isDigit_of_mem_natural digit)

theorem byte?_natural (n : UInt8) : byte? (natural n.toNat) = some n := by
  rw [byte?, natural?_natural, Option.bind_some, if_pos n.toNat_lt, UInt8.ofNat_toNat]

theorem long?_integer (n : Int64) : long? (integer n.toInt) = some n := by
  have low := n.le_toInt
  have high := n.toInt_lt
  rw [long?, integer?_integer, Option.bind_some, if_pos ⟨low, high⟩, Int64.ofInt_toInt]

theorem word?_natural (n : UInt32) : word? (natural n.toNat) = some n := by
  rw [word?, natural?_natural, Option.bind_some, if_pos n.toNat_lt, UInt32.ofNat_toNat]

end SearchIndex.Decimal
