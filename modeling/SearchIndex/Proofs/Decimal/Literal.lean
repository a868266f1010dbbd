import SearchIndex.Decimal.Real
import SearchIndex.Proofs.Decimal.Digits

/-!
Contract: a finite number is written as a decimal literal.

Owns: `Literal`, which has a sign, digits, and an optional fraction and exponent; `exists_render`,
by which every format writes every finite number as such a literal; and `isFinite_of_between`, by
which the numbers between two finite ones are finite.

No digits of a literal can be missing: they are at least one wherever they stand. The two numbers
that are not finite have names instead of digits, and no format writes them as literals.
-/

namespace SearchIndex.Decimal

/-! ### Literals -/

/-- A run of digits, of which there is at least one. -/
structure Digits where
  characters : List Char
  nonempty : characters ≠ []
  digits : ∀ c ∈ characters, c.isDigit = true

namespace Digits

def natural (n : Nat) : Digits where
  characters := (Decimal.natural n).toList
  nonempty := natural_ne_nil n
  digits _ := isDigit_of_mem_natural

theorem natural_zero : (natural 0).characters = ['0'] := rfl

/-- Digits with zeros before and after them. -/
def padded (before after : Nat) (run : Digits) : Digits where
  characters := List.replicate before '0' ++ run.characters ++ List.replicate after '0'
  nonempty := by simp [run.nonempty]
  digits c member := by
    rw [List.mem_append, List.mem_append, List.mem_replicate, List.mem_replicate] at member
    rcases member with (⟨_, rfl⟩ | inside) | ⟨_, rfl⟩
    · decide
    · exact run.digits c inside
    · decide

def part (run : Digits) {characters : List Char} (nonempty : characters ≠ [])
    (inside : characters ⊆ run.characters) : Digits where
  characters := characters
  nonempty := nonempty
  digits c member := run.digits c (inside member)

end Digits

/-- A sign, if the number is negative. -/
def signText (negative : Bool) : List Char := if negative then ['-'] else []

/-- The power of ten of a literal. -/
structure Exponent where
  negative : Bool
  digits : Digits

/-- A literal without its sign. -/
structure Magnitude where
  whole : Digits
  fraction : Option Digits
  exponent : Option Exponent

namespace Magnitude

/-- The digits before the exponent, with the point. -/
def mantissa (magnitude : Magnitude) : List Char :=
  magnitude.whole.characters ++
    match magnitude.fraction with
    | some fraction => '.' :: fraction.characters
    | none => []

def characters (magnitude : Magnitude) : List Char :=
  magnitude.mantissa ++
    match magnitude.exponent with
    | some exponent => 'e' :: (signText exponent.negative ++ exponent.digits.characters)
    | none => []

end Magnitude

/-- A real number as it is written in decimal digits. -/
structure Literal where
  negative : Bool
  magnitude : Magnitude

/-- The literal as it is written. -/
def Literal.text (literal : Literal) : String :=
  String.ofList (signText literal.negative ++ literal.magnitude.characters)

/-! ### Rendering -/

/-- Digits with the point among, before or after them are a literal. -/
theorem exists_positional (keepPoint : Bool) (run : Digits) (point : Int) :
    ∃ magnitude : Magnitude,
      magnitude.characters = RealFormat.positionalText keepPoint run.characters point := by
  unfold RealFormat.positionalText
  split
  · refine ⟨⟨.natural 0, some (run.padded (-point).toNat 0), none⟩, ?_⟩
    simp [Magnitude.characters, Magnitude.mantissa, Digits.padded, Digits.natural_zero]
  · split
    · cases keepPoint with
      | false =>
          refine ⟨⟨run.padded 0 (point.toNat - run.characters.length), none, none⟩, ?_⟩
          simp [Magnitude.characters, Magnitude.mantissa, Digits.padded]
      | true =>
          refine ⟨⟨run.padded 0 (point.toNat - run.characters.length), some (.natural 0), none⟩, ?_⟩
          simp [Magnitude.characters, Magnitude.mantissa, Digits.padded, Digits.natural_zero]
    · next positive short =>
        have before : run.characters.take point.toNat ≠ [] := by
          simp only [ne_eq, List.take_eq_nil_iff, run.nonempty, or_false]
          omega
        have after : run.characters.drop point.toNat ≠ [] := by
          simp only [ne_eq, List.drop_eq_nil_iff]
          omega
        refine ⟨⟨run.part before (List.take_subset _ _),
          some (run.part after (List.drop_subset _ _)), none⟩, ?_⟩
        simp [Magnitude.characters, Magnitude.mantissa, Digits.part]

theorem exists_integer (n : Int) :
    ∃ exponent : Exponent,
      (integer n).toList = signText exponent.negative ++ exponent.digits.characters := by
  cases n with
  | ofNat n => exact ⟨⟨false, .natural n⟩, rfl⟩
  | negSucc n => exact ⟨⟨true, .natural (n + 1)⟩, String.toList_append⟩

/-- One digit, a fraction and an exponent are a literal. -/
theorem exists_exponent (run : Digits) (point : Int) :
    ∃ magnitude : Magnitude,
      magnitude.characters = RealFormat.exponentText run.characters point := by
  obtain ⟨exponent, written⟩ := exists_integer (point - 1)
  have first : run.characters.take 1 ≠ [] := by simp [List.take_eq_nil_iff, run.nonempty]
  unfold RealFormat.exponentText
  split
  · refine ⟨⟨run.part first (List.take_subset _ _), none, some exponent⟩, ?_⟩
    simp [Magnitude.characters, Magnitude.mantissa, Digits.part, written]
  · next several =>
      have others : run.characters.drop 1 ≠ [] := by
        simp only [ne_eq, List.drop_eq_nil_iff]
        omega
      refine ⟨⟨run.part first (List.take_subset _ _),
        some (run.part others (List.drop_subset _ _)), some exponent⟩, ?_⟩
      simp [Magnitude.characters, Magnitude.mantissa, Digits.part, written]

theorem exists_magnitude (format : RealFormat) (mantissa : Nat) (exponent : Int) :
    ∃ magnitude : Magnitude, magnitude.characters = format.magnitude mantissa exponent := by
  obtain ⟨digits, same⟩ : ∃ digits : Digits, digits.characters =
      Nat.toDigits 10 (shortest format.tie mantissa exponent).digits :=
    ⟨.natural _, toList_natural _⟩
  unfold RealFormat.magnitude
  dsimp only
  rw [← same]
  split
  · exact exists_positional _ _ _
  · split
    · exact exists_positional _ _ _
    · exact exists_exponent _ _

/-- Every format writes every finite number as a literal. -/
theorem exists_render (format : RealFormat) {x : Float} (finite : isFinite x = true) :
    ∃ literal : Literal, literal.text = format.render x := by
  unfold isFinite at finite
  unfold RealFormat.render
  split at finite
  · next negative mantissa exponent parts =>
      rw [parts]
      dsimp only
      obtain ⟨magnitude, written⟩ : ∃ magnitude : Magnitude, magnitude.characters =
          if mantissa = 0 then if format.keepPoint then ['0', '.', '0'] else ['0']
          else format.magnitude mantissa exponent := by
        split
        · cases format.keepPoint with
          | false => exact ⟨⟨.natural 0, none, none⟩, rfl⟩
          | true => exact ⟨⟨.natural 0, some (.natural 0), none⟩, rfl⟩
        · exact exists_magnitude format mantissa exponent
      refine ⟨⟨negative, magnitude⟩, ?_⟩
      rw [Literal.text, written]
      cases negative <;> rfl
  · contradiction

/-! ### Finite numbers -/

section Finite

open Float.Model (Format UnpackedFloat)

/-- The bits of a number that hold its power of two. -/
def exponentBits (x : Float) : Nat := x.toBits.toNat / Nat.pow 2 52 % Nat.pow 2 11

/-- A number that is taken apart is finite unless all bits of its power of two are set. -/
theorem isFinite_iff_exponentBits (x : Float) : isFinite x = true ↔ exponentBits x ≠ 2047 := by
  unfold isFinite Binary.ofFloat exponentBits
  dsimp only
  generalize x.toBits.toNat / Nat.pow 2 52 % Nat.pow 2 11 = bits
  -- With all bits set the fraction tells infinity from the undefined number, both without digits.
  by_cases special : bits = 2047
  · subst special
    by_cases noFraction : x.toBits.toNat % Nat.pow 2 52 = 0
    · simp [noFraction]
    · simp [noFraction]
  · cases bits with
    | zero => simp
    | succ bits => simp [special]

theorem toNat_unpackExponent (x : Float) :
    (@UnpackedFloat.unpackExponent Format.binary64 x.toModel.toBits.toBitVec).toNat =
      exponentBits x := by
  rw [UnpackedFloat.unpackExponent, BitVec.toNat_cast, BitVec.extractLsb_toNat,
    Nat.shiftRight_eq_div_pow]
  rfl

theorem isFinite_unpack (bits : BitVec Format.binary64.numBits) :
    (UnpackedFloat.unpack Format.binary64 bits).isFinite = true ↔
      UnpackedFloat.unpackExponent bits ≠ -1#_ := by
  delta UnpackedFloat.unpack
  by_cases all : UnpackedFloat.unpackExponent bits = -1#_
  · rw [if_pos all]
    by_cases noFraction : UnpackedFloat.unpackMantissa bits = 0#_
    · rw [if_pos noFraction]
      exact iff_of_false Bool.false_ne_true (not_not_intro all)
    · rw [if_neg noFraction]
      exact iff_of_false Bool.false_ne_true (not_not_intro all)
  · rw [if_neg all]
    by_cases small : UnpackedFloat.unpackExponent bits = 0#_
    · rw [if_pos small]
      by_cases noFraction : UnpackedFloat.unpackMantissa bits = 0#_
      · rw [dif_pos noFraction]
        exact iff_of_true rfl all
      · rw [dif_neg noFraction]
        exact iff_of_true rfl all
    · rw [if_neg small]
      exact iff_of_true rfl all

/-- Taking a number apart tells whether it is finite as comparison understands it. -/
theorem isFinite_iff_unpack (x : Float) :
    isFinite x = true ↔ x.toModel.unpack.isFinite = true := by
  have exponent := toNat_unpackExponent x
  have special : (-BitVec.ofNat Format.binary64.exponentBits 1).toNat = 2047 := by decide
  have unpacked := isFinite_unpack x.toModel.toBits.toBitVec
  rw [ne_eq, ← BitVec.toNat_inj, exponent, special] at unpacked
  exact (isFinite_iff_exponentBits x).trans unpacked.symm

/-- A number between two finite ones is finite. -/
theorem isFinite_of_between {low x high : Float} (lowFinite : isFinite low = true)
    (highFinite : isFinite high = true) (above : low ≤ x) (below : x ≤ high) :
    isFinite x = true := by
  have aboveUnpacked : low.toModel.unpack.le x.toModel.unpack = true := of_decide_eq_true above
  have belowUnpacked : x.toModel.unpack.le high.toModel.unpack = true := of_decide_eq_true below
  rw [isFinite_iff_unpack] at *
  generalize low.toModel.unpack = low at *
  generalize high.toModel.unpack = high at *
  generalize x.toModel.unpack = x at *
  -- Nothing compares with the undefined number, and an infinite one is beyond one of the bounds.
  cases x with
  | zero => rfl
  | finite => rfl
  | notANumber => contradiction
  | infinity sign =>
      cases sign with
      | positive => cases high <;> contradiction
      | negative => cases low <;> contradiction

theorem isFinite_zero : isFinite 0 = true := by decide

theorem isFinite_one : isFinite 1 = true := by decide

end Finite

end SearchIndex.Decimal
