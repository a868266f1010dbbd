import SearchIndex.Proofs.Sql.Grammar
import SearchIndex.Proofs.Sql.Reading

/-!
Contract: where the tokens of a statement stand in its text.

Owns: `Token.Scans`, that a text is read up to one of its ends, with `ofChars_eq_append_iff`;
`Token.Stands`, the characters that one token was read from, with `exists_stands` and
`Stands.exists_word`, by which letters begin a bare word; and `HeadText`, a statement's text cut at
the `USING` of its head and at the name of its module, with `exists_headText`.

Only the ends of a text are read: whether a character begins a token depends on all that stands
before it, as it may stand in a comment or between quotes.
-/

namespace SearchIndex.Sql

/-! ### What is left of a text -/

theorem readQuoted_suffix (quote : Char) (text : List Char) :
    (readQuoted quote text).2 <:+ text := by
  fun_induction readQuoted quote text with
  | case1 => exact List.suffix_refl []
  | case2 after name left read inductionHypothesis =>
      rw [read] at inductionHypothesis
      exact (inductionHypothesis.trans (List.suffix_cons _ _)).trans (List.suffix_cons _ _)
  | case3 => exact List.suffix_cons _ _
  | case4 => exact List.suffix_cons _ _
  | case5 c rest other name left read inductionHypothesis =>
      rw [read] at inductionHypothesis
      exact inductionHypothesis.trans (List.suffix_cons c rest)

theorem readBracketed_suffix (text : List Char) : (readBracketed text).2 <:+ text :=
  (List.drop_suffix 1 _).trans (List.dropWhile_suffix _)

namespace Token

theorem afterBlockComment_suffix (text : List Char) : afterBlockComment text <:+ text := by
  fun_induction afterBlockComment text with
  | case1 => exact List.suffix_refl []
  | case2 rest => exact (List.suffix_cons _ _).trans (List.suffix_cons _ _)
  | case3 c rest unfinished inductionHypothesis =>
      exact inductionHypothesis.trans (List.suffix_cons c rest)

theorem afterComment?_suffix {c : Char} {rest left : List Char}
    (comment : afterComment? c rest = some left) : left <:+ rest := by
  unfold afterComment? at comment
  split at comment
  · rw [← Option.some.inj comment]
    exact ((List.drop_suffix 1 _).trans (List.dropWhile_suffix _)).trans (List.suffix_cons _ _)
  · rw [← Option.some.inj comment]
    exact (afterBlockComment_suffix _).trans (List.suffix_cons _ _)
  · contradiction

theorem lexeme_suffix (c : Char) (rest : List Char) : (lexeme c rest).2 <:+ rest := by
  unfold lexeme
  split
  · exact readQuoted_suffix _ _
  · exact readQuoted_suffix _ _
  · exact readQuoted_suffix _ _
  · exact readBracketed_suffix _
  all_goals first
    | exact List.suffix_refl rest
    | split
      · exact List.dropWhile_suffix _
      · split
        · exact List.dropWhile_suffix _
        · exact List.suffix_refl rest

/-! ### The ends of a text -/

/-- Reading a text gives some tokens, and then an end of the text is left. -/
inductive Scans : List Char → List Token → List Char → Prop where
  | stop (text : List Char) : Scans text [] text
  | blank {c : Char} {rest left : List Char} {tokens : List Token}
      (blank : Text.isBlank c = true) (others : Scans rest tokens left) :
      Scans (c :: rest) tokens left
  | comment {c : Char} {rest next left : List Char} {tokens : List Token}
      (visible : Text.isBlank c = false) (comment : afterComment? c rest = some next)
      (others : Scans next tokens left) :
      Scans (c :: rest) tokens left
  | token {c : Char} {rest left : List Char} {tokens : List Token}
      (visible : Text.isBlank c = false) (noComment : afterComment? c rest = none)
      (others : Scans (lexeme c rest).2 tokens left) :
      Scans (c :: rest) ((lexeme c rest).1 :: tokens) left

/-- A token is read from some characters, and all of them, if certain others follow. -/
inductive Stands : Token → (source rest : List Char) → Prop where
  | read {c : Char} {others rest : List Char} {token : Token} (visible : Text.isBlank c = false)
      (noComment : afterComment? c (others ++ rest) = none)
      (read : lexeme c (others ++ rest) = (token, rest)) :
      Stands token (c :: others) rest

section Scans

variable {text left : List Char} {tokens others : List Token} {token : Token}

theorem Scans.suffix (scans : Scans text tokens left) : left <:+ text := by
  induction scans with
  | stop text => exact List.suffix_refl text
  | blank _ _ inductionHypothesis => exact inductionHypothesis.trans (List.suffix_cons _ _)
  | comment _ comment _ inductionHypothesis =>
      exact (inductionHypothesis.trans (afterComment?_suffix comment)).trans (List.suffix_cons _ _)
  | token _ _ _ inductionHypothesis =>
      exact (inductionHypothesis.trans (lexeme_suffix _ _)).trans (List.suffix_cons _ _)

theorem Scans.trans {last : List Char} (before : Scans text tokens left)
    (after : Scans left others last) : Scans text (tokens ++ others) last := by
  induction before with
  | stop => exact after
  | blank blank _ inductionHypothesis => exact .blank blank (inductionHypothesis after)
  | comment visible comment _ inductionHypothesis =>
      exact .comment visible comment (inductionHypothesis after)
  | token visible noComment _ inductionHypothesis =>
      exact .token visible noComment (inductionHypothesis after)

/-- The tokens of a text begin with those that are read up to an end, and go on with those of the
end. -/
theorem ofChars_eq_append_iff :
    ofChars text = tokens ++ others ↔ ∃ left, Scans text tokens left ∧ ofChars left = others := by
  constructor
  · intro read
    fun_induction ofChars text generalizing tokens with
    | case1 =>
        obtain ⟨rfl, rfl⟩ := List.append_eq_nil_iff.mp read.symm
        exact ⟨[], .stop [], ofChars_nil⟩
    | case2 c rest blank inductionHypothesis =>
        obtain ⟨left, scans, after⟩ := inductionHypothesis read
        exact ⟨left, .blank blank scans, after⟩
    | case3 c rest visible next comment inductionHypothesis =>
        obtain ⟨left, scans, after⟩ := inductionHypothesis read
        exact ⟨left, .comment (Bool.eq_false_iff.mpr visible) comment scans, after⟩
    | case4 c rest visible noComment inductionHypothesis =>
        have hidden := Bool.eq_false_iff.mpr visible
        cases tokens with
        | nil => exact ⟨c :: rest, .stop _, (ofChars_lexeme hidden noComment).trans read⟩
        | cons first tokens =>
            obtain ⟨rfl, further⟩ := List.cons.inj read
            obtain ⟨left, scans, after⟩ := inductionHypothesis further
            exact ⟨left, .token hidden noComment scans, after⟩
  · rintro ⟨left, scans, rfl⟩
    induction scans with
    | stop text => rfl
    | blank blank _ inductionHypothesis => rw [ofChars_blank blank, inductionHypothesis]
    | comment visible comment _ inductionHypothesis =>
        rw [ofChars_cons, if_neg (by simp [visible]), comment, ← inductionHypothesis]
    | token visible noComment _ inductionHypothesis =>
        rw [ofChars_lexeme visible noComment, inductionHypothesis, List.cons_append]

/-- A token of a text stands behind a gap of blanks and comments. -/
theorem exists_stands (read : ofChars text = token :: others) :
    ∃ gap source rest, text = gap ++ (source ++ rest) ∧ Scans text [] (source ++ rest) ∧
      Stands token source rest ∧ ofChars rest = others := by
  fun_induction ofChars text with
  | case1 => contradiction
  | case2 c rest blank inductionHypothesis =>
      obtain ⟨gap, source, left, rfl, scans, stands, after⟩ := inductionHypothesis read
      exact ⟨c :: gap, source, left, rfl, .blank blank scans, stands, after⟩
  | case3 c rest visible next comment inductionHypothesis =>
      obtain ⟨gap, source, left, rfl, scans, stands, after⟩ := inductionHypothesis read
      obtain ⟨skipped, rfl⟩ := afterComment?_suffix comment
      refine ⟨c :: (skipped ++ gap), source, left, by simp, ?_, stands, after⟩
      exact .comment (Bool.eq_false_iff.mpr visible) comment scans
  | case4 c rest visible noComment inductionHypothesis =>
      obtain ⟨inside, split⟩ := lexeme_suffix c rest
      obtain ⟨rfl, after⟩ := List.cons.inj read
      refine ⟨[], c :: inside, (lexeme c rest).2, by simp [split], ?_, ?_, after⟩
      · rw [List.cons_append, split]
        exact .stop _
      · refine .read (Bool.eq_false_iff.mpr visible) ?_ ?_
        · rw [split]
          exact noComment
        · rw [split]

end Scans

/-! ### Gaps and words -/

theorem eq_of_lexeme_word {c : Char} {rest left : List Char} {word : String}
    (read : lexeme c rest = (.word word, left)) :
    word.toList = c :: rest.takeWhile isWordChar ∧ left = rest.dropWhile isWordChar := by
  unfold lexeme at read
  split at read
  all_goals first
    | cases (Prod.mk.inj read).1
    | skip
  split at read
  · cases (Prod.mk.inj read).1
  · split at read
    · obtain ⟨spelled, rfl⟩ := Prod.mk.inj read
      rw [← Token.word.inj spelled, String.toList_ofList]
      exact ⟨rfl, rfl⟩
    · cases (Prod.mk.inj read).1

/-- A bare word is read from its own characters. -/
theorem Stands.source_eq {word : String} {source rest : List Char}
    (stands : Stands (.word word) source rest) : source = word.toList := by
  cases stands with
  | @read c others _ _ _ _ read =>
      obtain ⟨spelled, last⟩ := eq_of_lexeme_word read
      have whole := List.takeWhile_append_dropWhile (p := isWordChar) (l := others ++ rest)
      rw [← last] at whole
      rw [spelled, List.append_cancel_right whole]

/-- What begins a gap is a blank or begins a comment. -/
theorem Scans.of_cons {c : Char} {rest left : List Char} (scans : Scans (c :: rest) [] left)
    (shorter : left.length ≤ rest.length) :
    Text.isBlank c = true ∧ Scans rest [] left ∨ (afterComment? c rest).isSome = true := by
  cases scans with
  | stop =>
      rw [List.length_cons] at shorter
      omega
  | blank blank others => exact .inl ⟨blank, others⟩
  | comment _ comment _ =>
      rw [comment]
      exact .inr rfl

/-- Letters and digits at the beginning of a token, with a letter first, are the beginning of a bare
word. -/
theorem Stands.exists_word {token : Token} {source rest run : List Char}
    (stands : Stands token source rest) (begins : run <+: (source ++ rest).map Char.toLower)
    (letter : run.head?.any Char.isAlpha = true) (plain : run.all Char.isAlphanum = true) :
    ∃ word, token = .word word ∧ run <+: word.toList.map Char.toLower := by
  cases stands with
  | @read c others _ _ _ _ read =>
      obtain ⟨more, split⟩ := begins
      obtain ⟨spelled, further, text, lowered, _⟩ := List.map_eq_append_iff.mp split.symm
      -- The run is spelled with characters of a word, so that the word goes on at least as far.
      have inside : ∀ x ∈ spelled, isWordChar x = true := by
        intro x member
        have listed : x.toLower ∈ run := lowered ▸ List.mem_map_of_mem member
        exact isWordChar_of_toLower (List.all_eq_true.mp plain _ listed)
      have word : isWordChar c = true ∧ c.isDigit = false := by
        cases spelled with
        | nil =>
            rw [← lowered] at letter
            contradiction
        | cons first spelled =>
            obtain ⟨rfl, _⟩ := List.cons.inj text
            rw [← lowered] at letter
            exact ⟨inside _ List.mem_cons_self, isDigit_of_isAlpha (isAlpha_of_toLower letter)⟩
      have whole : c :: (others ++ rest).takeWhile isWordChar =
          spelled ++ further.takeWhile isWordChar := by
        rw [← List.takeWhile_cons_of_pos word.1, ← List.cons_append, text,
          List.takeWhile_append_of_pos inside]
      rw [lexeme_run word.1, if_neg (by simp [word.2])] at read
      refine ⟨_, (Prod.mk.inj read).1.symm, ?_⟩
      rw [String.toList_ofList, whole, List.map_append, lowered]
      exact List.prefix_append run _

end Token

/-! ### Heads -/

/-- A head ends with `USING` and the name of the module. -/
theorem Cursor.reads_of_head {cursor after : Cursor} {head : Head}
    (success : cursor.head = .ok (head, after)) :
    ∃ before keyword moduleToken, Reads cursor (before ++ [keyword, moduleToken]) after ∧
      keyword.Spells "USING" ∧ moduleToken.Names head.moduleName := by
  obtain ⟨_, written, reads⟩ := head_eq_ok_iff.mp success
  cases written with
  | @intro create virtual table keyword moduleToken condition qualified _ _ _ _ _ _ _ _ _ _
      spellsUsing namesModule =>
      refine ⟨create :: virtual :: table :: (condition ++ qualified), keyword, moduleToken, ?_,
        spellsUsing, namesModule⟩
      simpa using reads

/-- The text of a statement, cut at the `USING` of its head and at the name of its module. -/
structure HeadText (sql : String) (head : Head) where
  /-- What stands before `USING`. -/
  front : List Char
  keyword : List Char
  /-- The blanks and comments between `USING` and the name of the module. -/
  gap : List Char
  /-- The name of the module as it is written, with its quotes if it has some. -/
  source : List Char
  rest : List Char
  /-- The tokens before `USING`. -/
  before : List Token
  moduleToken : Token
  text_eq : sql.toList = front ++ (keyword ++ (gap ++ (source ++ rest)))
  scans_front : Token.Scans sql.toList before (keyword ++ (gap ++ (source ++ rest)))
  stands_keyword :
    Token.Stands (.word (String.ofList keyword)) keyword (gap ++ (source ++ rest))
  keyword_eq : keyword.map Char.toLower = "using".toList
  scans_gap : Token.Scans (gap ++ (source ++ rest)) [] (source ++ rest)
  stands_source : Token.Stands moduleToken source rest
  name_eq : moduleToken.name? = some head.moduleName
  /-- The head is read up to the name of the module. -/
  read : Cursor.head ⟨0, Token.scan sql⟩ = .ok (head, ⟨before.length + 2, Token.ofChars rest⟩)

theorem exists_headText {sql : String} {head : Head}
    (accepted : (VirtualTable.parse sql).head = .ok head) : Nonempty (HeadText sql head) := by
  obtain ⟨after, read⟩ : ∃ after, Cursor.head ⟨0, Token.scan sql⟩ = .ok (head, after) := by
    unfold VirtualTable.parse VirtualTable.ofTokens at accepted
    split at accepted
    · next found after success =>
        obtain rfl := Except.ok.inj accepted
        exact ⟨after, success⟩
    · contradiction
  obtain ⟨before, keyword, moduleToken, reads, spelled, name⟩ := Cursor.reads_of_head read
  have tokens := reads.rest_eq
  rw [List.append_assoc] at tokens
  obtain ⟨left, scansBefore, leftTokens⟩ := Token.ofChars_eq_append_iff.mp tokens
  obtain ⟨blanks, word, afterWord, rfl, scansBlanks, standsWord, wordTokens⟩ :=
    Token.exists_stands leftTokens
  obtain ⟨gap, source, rest, rfl, scansGap, standsSource, restTokens⟩ :=
    Token.exists_stands wordTokens
  have scansFront := scansBefore.trans scansBlanks
  rw [List.append_nil] at scansFront
  obtain ⟨front, text⟩ := scansFront.suffix
  obtain @⟨written, letters⟩ := spelled
  obtain rfl := standsWord.source_eq
  have place : after = ⟨before.length + 2, Token.ofChars rest⟩ := by
    have position : after.position = before.length + 2 := by simpa using reads.position_eq
    rw [← position, restTokens]
    rfl
  exact ⟨{
    front
    keyword := written.toList
    gap
    source
    rest
    before
    moduleToken
    text_eq := text.symm
    scans_front := scansFront
    stands_keyword := by rw [String.ofList_toList]; exact standsWord
    keyword_eq := letters
    scans_gap := scansGap
    stands_source := standsSource
    name_eq := Token.name?_eq_some_iff.mpr name
    read := place ▸ read }⟩

end SearchIndex.Sql
