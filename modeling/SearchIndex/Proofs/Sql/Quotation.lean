import SearchIndex.Sql.Quoted

/-!
Contract: a text between quotes is read back as it is.

Owns: `IsIdentifier`, the names that need no quotes; the characters of a quoted text; and
`readQuoted_doubled`. What follows the closing quote must not begin with a further quote, which
would be taken for the second half of a doubled one.
-/

namespace SearchIndex.Sql

/-- Whether a name is an identifier of ASCII characters: a letter or a low line first, and letters,
digits and low lines behind it. -/
def IsIdentifier (name : String) : Prop :=
  ∃ first others, name.toList = first :: others ∧ (first.isAlpha = true ∨ first = '_') ∧
    ∀ c ∈ others, c.isAlphanum = true ∨ c = '_'

theorem isBare_iff {name : String} : isBare name = true ↔ IsIdentifier name := by
  unfold isBare IsIdentifier
  cases name.toList with
  | nil => simp
  | cons first others => simp [isBareStart, isBareRest, and_assoc]

theorem isBare_eq_false_iff {name : String} : isBare name = false ↔ ¬ IsIdentifier name := by
  rw [← Bool.not_eq_true, isBare_iff]

theorem doubled_nil (quote : Char) : doubled quote [] = [] := rfl

theorem doubled_cons (quote c : Char) (text : List Char) :
    doubled quote (c :: text) = (if c = quote then [c, c] else [c]) ++ doubled quote text := rfl

/-- Reading after the opening quote gives the text and what follows the closing quote. -/
theorem readQuoted_doubled (quote : Char) (text : List Char) {rest : List Char}
    (closes : quote ∉ rest.head?) :
    readQuoted quote (doubled quote text ++ quote :: rest) = (text, rest) := by
  induction text with
  | nil =>
      -- The quote is taken for the closing one only if no other one follows.
      cases rest with
      | nil => simp [doubled_nil, readQuoted]
      | cons d after =>
          have different : d ≠ quote := by simpa using closes
          simp [doubled_nil, readQuoted, different]
  | cons c text inductionHypothesis =>
      by_cases same : c = quote
      · rw [doubled_cons, if_pos same, same]
        simp [readQuoted, inductionHypothesis]
      · rw [doubled_cons, if_neg same, List.singleton_append, List.cons_append, readQuoted.eq_def]
        simp only [if_neg same, inductionHypothesis]

theorem toList_quoted (quote : Char) (text : String) :
    (quoted quote text).toList = quote :: (doubled quote text.toList ++ [quote]) :=
  String.toList_ofList

theorem toList_quoted_append (quote : Char) (text : String) (rest : List Char) :
    (quoted quote text).toList ++ rest = quote :: (doubled quote text.toList ++ quote :: rest) := by
  rw [toList_quoted, List.cons_append, List.append_assoc, List.singleton_append]

end SearchIndex.Sql
