import SearchIndex.Proofs.Text.Named
import SearchIndex.Proofs.Tokenizer.RoundTrip

/-!
Contract: which pairs of a line of arguments count.

Owns: `flattened`, pairs one after another, with a lone argument behind them or none;
`Parameters.ofPairs`, the parameters by their last values, with `foldl_set_eq`; `Unsets`, where a
number that cannot be read makes a difference; and `last_pairs_count`, by which a pair with an
unknown name makes none.

A number that cannot be read is not passed over like an unknown name. It unsets its parameter, so
leaving the pair out brings back a number that was set before, unless a later pair sets the
parameter anew: `not_skipped_unreadable`.
-/

namespace SearchIndex.Tokenizer

open Text (valuesOf)

/-! ### Pairs -/

/-- The arguments of some pairs, and a last one without a value. -/
def flattened (pairs : List (String × String)) (lone : Option String) : List String :=
  pairs.flatMap (fun pair => [pair.1, pair.2]) ++ lone.toList

theorem pairs_flattened (list : List (String × String)) (lone : Option String) :
    pairs (flattened list lone) = list := by
  induction list with
  | nil => cases lone <;> rfl
  | cons pair list inductionHypothesis => exact congrArg (pair :: ·) inductionHypothesis

/-! ### Parameters -/

namespace Parameters

/-- The parameters that pairs set: a text by its last value, and a number by its last value if that
can be read. -/
def ofPairs (pairs : List (String × String)) : Parameters where
  removeDiacritics := (valuesOf pairs "remove_diacritics").getLast?.bind Decimal.byte?
  categories := (valuesOf pairs "categories").getLast?
  tokenChars := (valuesOf pairs "tokenchars").getLast?
  separators := (valuesOf pairs "separators").getLast?
  caseSensitive := (valuesOf pairs "case_sensitive").getLast?.bind Decimal.byte?

theorem set_ofPairs (pairs : List (String × String)) (pair : String × String) :
    (ofPairs pairs).set pair = ofPairs (pairs ++ [pair]) := by
  unfold set
  split
  · next same => simp [ofPairs, same]
  · next same => simp [ofPairs, same]
  · next same => simp [ofPairs, same]
  · next same => simp [ofPairs, same]
  · next same => simp [ofPairs, same]
  · next folding letterCase categories tokenChars separators =>
      simp [ofPairs, if_neg folding, if_neg letterCase, if_neg categories, if_neg tokenChars,
        if_neg separators]

theorem foldl_set_eq (pairs : List (String × String)) : pairs.foldl set none = ofPairs pairs :=
  Text.foldl_eq_of_append rfl set_ofPairs pairs

theorem nonEmpty?_inj {left right : Parameters} :
    left.nonEmpty? = right.nonEmpty? ↔ left = right := by
  constructor
  · intro same
    rw [← getD_nonEmpty? left, same, getD_nonEmpty?]
  · rintro rfl
    rfl

/-- The names of the parameters that are numbers. -/
def numberNames : List String := ["remove_diacritics", "case_sensitive"]

end Parameters

/-- Between some pairs an unreadable value of a number unsets it: the pairs before set a number, and
none of those behind names it again. -/
def Unsets (before after : List (String × String)) (name : String) : Prop :=
  valuesOf after name = [] ∧
    ∃ number, (valuesOf before name).getLast?.bind Decimal.byte? = some number

namespace Parameters

section LeftOut

variable {before after : List (String × String)} {pair : String × String}

/-- A pair can be left out if the values under all other names are asked for. -/
theorem valuesOf_of_ne {name : String} (other : Text.lowered pair.1 ≠ name) :
    valuesOf (before ++ after) name = valuesOf (before ++ pair :: after) name := by
  simp [other]

theorem ofPairs_of_unknown (unknown : Text.lowered pair.1 ∉ Setting.names) :
    ofPairs (before ++ after) = ofPairs (before ++ pair :: after) := by
  have skipped : ∀ name ∈ Setting.names,
      valuesOf (before ++ after) name = valuesOf (before ++ pair :: after) name :=
    fun name member => valuesOf_of_ne fun same => unknown (same ▸ member)
  simp only [Setting.names, List.forall_mem_cons] at skipped
  obtain ⟨folding, categories, tokenChars, separators, letterCase, _⟩ := skipped
  unfold ofPairs
  rw [folding, categories, tokenChars, separators, letterCase]

theorem bind_getLast?_iff {name : String} (named : Text.lowered pair.1 = name)
    (unreadable : Decimal.byte? pair.2 = .none) :
    (valuesOf (before ++ after) name).getLast?.bind Decimal.byte? =
        (valuesOf (before ++ pair :: after) name).getLast?.bind Decimal.byte? ↔
      ¬ Unsets before after name := by
  rw [Unsets, Text.valuesOf_append, Text.valuesOf_append, Text.valuesOf_cons, if_pos named]
  cases valuesOf after name with
  | cons value values => simp
  | nil => simp [unreadable, Option.eq_none_iff_forall_ne_some]

/-- An unreadable number can be left out exactly if it unsets nothing. -/
theorem ofPairs_iff_of_unreadable (number : Text.lowered pair.1 ∈ numberNames)
    (unreadable : Decimal.byte? pair.2 = .none) :
    ofPairs (before ++ after) = ofPairs (before ++ pair :: after) ↔
      ¬ Unsets before after (Text.lowered pair.1) := by
  generalize named : Text.lowered pair.1 = name at number ⊢
  rw [← bind_getLast?_iff named unreadable]
  have others (other : String) (apart : name ≠ other) :=
    @valuesOf_of_ne before after pair other (named ▸ apart)
  simp only [numberNames, List.mem_cons, List.not_mem_nil, or_false] at number
  rcases number with rfl | rfl
  · simp only [ofPairs, mk.injEq, others "categories" (by decide), others "tokenchars" (by decide),
      others "separators" (by decide), others "case_sensitive" (by decide), and_true]
  · simp only [ofPairs, mk.injEq, others "categories" (by decide), others "tokenchars" (by decide),
      others "separators" (by decide), others "remove_diacritics" (by decide), true_and]

end LeftOut

end Parameters

/-! ### Lines -/

/-- Behind the name of a kind that stands for itself the arguments are read as pairs. -/
theorem decode_of_split {name line : String} {kind : Kind} (named : Kind.ofName? name = some kind)
    (own : kind ≠ .porter) {list : List (String × String)} {lone : Option String}
    (split : splitArguments line = name :: flattened list lone) :
    decode line = ⟨kind, (Parameters.ofPairs list).nonEmpty?⟩ := by
  have kept (arguments : List String) : dropBase kind arguments = arguments := by
    cases kind with
    | porter => contradiction
    | _ => rfl
  have taken : takeKind (name :: flattened list lone) = (kind, flattened list lone) := by
    rw [takeKind, named]
  rw [decode, split, ofArguments, taken]
  simp only [kept, pairs_flattened, Parameters.foldl_set_eq]

/-- Each parameter has the value of its last pair, and none where that is an unreadable number. A
pair with an unknown name can be left out, wherever it stands, and an unreadable number exactly if
it unsets nothing. -/
theorem last_pairs_count {name line : String} {kind : Kind}
    (named : Kind.ofName? name = some kind) (own : kind ≠ .porter)
    {list : List (String × String)} {lone : Option String}
    (split : splitArguments line = name :: flattened list lone) :
    decode line = ⟨kind, (Parameters.ofPairs list).nonEmpty?⟩ ∧
    ∀ before pair after, list = before ++ pair :: after →
      ∀ other, splitArguments other = name :: flattened (before ++ after) lone →
        (Text.lowered pair.1 ∉ Setting.names → decode other = decode line) ∧
        (Text.lowered pair.1 ∈ Parameters.numberNames → Decimal.byte? pair.2 = none →
          (decode other = decode line ↔ ¬ Unsets before after (Text.lowered pair.1))) := by
  refine ⟨decode_of_split named own split, ?_⟩
  rintro before pair after rfl other otherSplit
  rw [decode_of_split named own split, decode_of_split named own otherSplit]
  refine ⟨fun unknown => ?_, fun number unreadable => ?_⟩
  · rw [Parameters.ofPairs_of_unknown unknown]
  · rw [Tokenizer.mk.injEq, Parameters.nonEmpty?_inj, and_iff_right rfl]
    exact Parameters.ofPairs_iff_of_unreadable number unreadable

/-- Pairs of which the second has an unknown name and the third an unreadable number. -/
def mixedPairs : List (String × String) :=
  [("separators", ""), ("future", "x"), ("Case_Sensitive", "yes"), ("SEPARATORS", "' ")]

def mixedLine : String := "Trigram separators '' future x Case_Sensitive yes SEPARATORS \"' \" lone"

theorem last_pairs_count_mixed :
    splitArguments mixedLine = "Trigram" :: flattened mixedPairs (some "lone") ∧
      decode mixedLine = ⟨.trigram, some { Parameters.none with separators := some "' " }⟩ ∧
      decode "Trigram separators '' Case_Sensitive yes SEPARATORS \"' \" lone" = decode mixedLine ∧
      decode "Trigram separators '' future x SEPARATORS \"' \" lone" = decode mixedLine := by
  have split : splitArguments mixedLine = "Trigram" :: flattened mixedPairs (some "lone") := by
    decide +kernel
  have named : Kind.ofName? "Trigram" = some .trigram := by decide
  obtain ⟨decoded, leftOut⟩ := last_pairs_count named (by decide) split
  obtain ⟨unknown, -⟩ := leftOut [("separators", "")] ("future", "x") (mixedPairs.drop 2) rfl
    "Trigram separators '' Case_Sensitive yes SEPARATORS \"' \" lone" (by decide +kernel)
  obtain ⟨-, unreadable⟩ := leftOut (mixedPairs.take 2) ("Case_Sensitive", "yes")
    (mixedPairs.drop 3) rfl "Trigram separators '' future x SEPARATORS \"' \" lone"
    (by decide +kernel)
  refine ⟨split, ?_, unknown (by decide), (unreadable (by decide) (by decide)).mpr ?_⟩
  · rw [decoded]
    decide
  · rintro ⟨-, number, before⟩
    contradiction

/-- Leaving out an unreadable number brings back the number that it unset. -/
theorem not_skipped_unreadable :
    ¬ ∀ (before after : List (String × String)) (name value line other : String),
      Text.lowered name ∈ Parameters.numberNames → Decimal.byte? value = none →
        splitArguments line = "unicode61" :: flattened (before ++ (name, value) :: after) none →
          splitArguments other = "unicode61" :: flattened (before ++ after) none →
            decode other = decode line := by
  intro skipped
  have same := skipped [("remove_diacritics", "1")] [] "remove_diacritics" "abc"
    "unicode61 remove_diacritics 1 remove_diacritics abc" "unicode61 remove_diacritics 1"
    (by decide) (by decide) (by decide +kernel) (by decide +kernel)
  exact absurd same (by decide +kernel)

end SearchIndex.Tokenizer
