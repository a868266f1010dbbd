import SearchIndex.Proofs.Sql.Reading

/-!
Contract: where a written text or name ends.

Owns: `readQuoted_doubled_quote`, the reading of a quoted text with a further quote behind it; and
`scan_written_append`, by which a written text, table name or column name is one token in front of
another text, which then has its own tokens, exactly if that text does not begin with a character
that goes on with it.

The closing quote and a quote behind it are taken for a doubled one, and a bare name goes on over
every character of a word, which are more than those that a bare name can hold. A bare name is ended
by a quote, and a quoted one by a letter.
-/

namespace SearchIndex.Sql

/-- A further quote is a part of the text, which goes on behind it. -/
theorem readQuoted_doubled_quote (quote : Char) (text rest : List Char) :
    readQuoted quote (doubled quote text ++ quote :: quote :: rest) =
      (text ++ quote :: (readQuoted quote rest).1, (readQuoted quote rest).2) := by
  induction text with
  | nil => simp [doubled_nil, readQuoted]
  | cons c text inductionHypothesis =>
      by_cases same : c = quote
      · rw [doubled_cons, if_pos same, same]
        simp [readQuoted, inductionHypothesis]
      · rw [doubled_cons, if_neg same, List.singleton_append, List.cons_append, readQuoted.eq_def]
        simp only [if_neg same, inductionHypothesis, List.cons_append]

theorem ofList_append_cons_ne (text : String) (c : Char) (more : List Char) :
    String.ofList (text.toList ++ c :: more) ≠ text := by
  intro same
  have length := congrArg (fun text : String => text.toList.length) same
  simp only [String.toList_ofList, List.length_append, List.length_cons] at length
  omega

namespace Token

/-! ### What goes on with a token -/

section Longer

variable {rest : List Char}

theorem exists_ofChars_literal (text : String) (goesOn : '\'' ∈ rest.head?) :
    ∃ longer others, longer ≠ text ∧
      ofChars ((literal text).toList ++ rest) = .string longer :: others := by
  obtain ⟨after, rfl⟩ := List.head?_eq_some_iff.mp goesOn
  rw [literal, toList_quoted_append, ofChars_singleQuote, readQuoted_doubled_quote]
  exact ⟨_, _, ofList_append_cons_ne text _ _, rfl⟩

theorem exists_ofChars_identifier (name : String) (goesOn : '"' ∈ rest.head?) :
    ∃ longer others, longer ≠ name ∧
      ofChars ((identifier name).toList ++ rest) = .quoted longer :: others := by
  obtain ⟨after, rfl⟩ := List.head?_eq_some_iff.mp goesOn
  rw [identifier, toList_quoted_append, ofChars_doubleQuote, readQuoted_doubled_quote]
  exact ⟨_, _, ofList_append_cons_ne name _ _, rfl⟩

theorem exists_ofChars_bare {name : String} (bare : isBare name = true)
    (goesOn : rest.head?.any isWordChar = true) :
    ∃ longer others, longer ≠ name ∧
      ofChars (name.toList ++ rest) = .word longer :: others := by
  obtain ⟨c, begins, word⟩ := (Option.any_eq_true _ _).mp goesOn
  obtain ⟨after, rfl⟩ := List.head?_eq_some_iff.mp begins
  obtain ⟨first, others, split, start, inside⟩ := exists_toList_of_isBare bare
  have words : ∀ c ∈ others, isWordChar c = true :=
    fun c member => isWordChar_of_isBareRest (inside c member)
  have run : first :: (others ++ c :: after).takeWhile isWordChar =
      name.toList ++ c :: after.takeWhile isWordChar := by
    rw [split, List.takeWhile_append_of_pos words, List.takeWhile_cons_of_pos word,
      List.cons_append]
  have read := ofChars_wordChar (isWordChar_of_isBareStart start) (isDigit_of_isBareStart start)
    (others ++ c :: after)
  rw [run, ← List.cons_append, ← split] at read
  exact ⟨_, _, ofList_append_cons_ne name c _, read⟩

end Longer

/-! ### Exactly one token -/

section Alone

variable {rest : List Char}

theorem ofChars_literal_iff (text : String) :
    ofChars ((literal text).toList ++ rest) = .string text :: ofChars rest ↔
      '\'' ∉ rest.head? := by
  refine ⟨fun read goesOn => ?_, ofChars_literal text⟩
  obtain ⟨longer, others, different, longerRead⟩ := exists_ofChars_literal text goesOn
  rw [longerRead] at read
  exact different (Token.string.inj (List.cons.inj read).1)

theorem ofChars_identifier_iff (name : String) :
    ofChars ((identifier name).toList ++ rest) = .quoted name :: ofChars rest ↔
      '"' ∉ rest.head? := by
  refine ⟨fun read goesOn => ?_, ofChars_identifier name⟩
  obtain ⟨longer, others, different, longerRead⟩ := exists_ofChars_identifier name goesOn
  rw [longerRead] at read
  exact different (Token.quoted.inj (List.cons.inj read).1)

/-- What is read as a token with another name is not read as one with this name. -/
theorem not_exists_named {source : List Char} {name longer : String} {found : Token}
    {others : List Token} (different : longer ≠ name) (named : found.name? = some longer)
    (read : ofChars source = found :: others) :
    ¬ ∃ token, token.name? = some name ∧ ofChars source = token :: ofChars rest := by
  rintro ⟨token, tokenNamed, tokenRead⟩
  obtain ⟨rfl, _⟩ := List.cons.inj (read.symm.trans tokenRead)
  exact different (Option.some.inj (named.symm.trans tokenNamed))

theorem exists_ofChars_column_iff (name : String) :
    (∃ token, token.name? = some name ∧
        ofChars ((Sql.column name).toList ++ rest) = token :: ofChars rest) ↔
      if isBare name then rest.head?.any isWordChar = false else '"' ∉ rest.head? := by
  unfold Sql.column
  split
  · next bare =>
      refine ⟨fun alone => Bool.eq_false_iff.mpr fun goesOn => ?_,
        fun ends => ⟨.word name, rfl, ofChars_bare bare ends⟩⟩
      obtain ⟨longer, others, different, longerRead⟩ := exists_ofChars_bare bare goesOn
      exact not_exists_named different rfl longerRead alone
  · refine ⟨fun alone goesOn => ?_,
      fun closes => ⟨.quoted name, rfl, ofChars_identifier name closes⟩⟩
    obtain ⟨longer, others, different, longerRead⟩ := exists_ofChars_identifier name goesOn
    exact not_exists_named different rfl longerRead alone

end Alone

/-- A written text and a written table name are one token in front of every text that does not
begin with their quote, and of no other. A column's name is one token with this name in front of
every text that begins with neither a word's character nor a double quote, of which only one or the
other matters, by whether the name is bare. -/
theorem scan_written_append (text rest : String) :
    (scan (literal text ++ rest) = .string text :: scan rest ↔ '\'' ∉ rest.toList.head?) ∧
      (scan (identifier text ++ rest) = .quoted text :: scan rest ↔ '"' ∉ rest.toList.head?) ∧
      ((∃ token, token.name? = some text ∧
          scan (Sql.column text ++ rest) = token :: scan rest) ↔
        if isBare text then rest.toList.head?.any isWordChar = false
        else '"' ∉ rest.toList.head?) := by
  simp only [scan, String.toList_append]
  exact ⟨ofChars_literal_iff text, ofChars_identifier_iff text, exists_ofChars_column_iff text⟩

end Token

end SearchIndex.Sql
