import Mathlib.Data.List.Basic
import SearchIndex.Proofs.Search.Statements
import SearchIndex.Proofs.Text.Trim
import SearchIndex.Search.MatchExpression

/-!
Contract: what a filter on columns governs in the expression of a request.

Owns: `ofChars?_words` and `ofChars?_columnFilter`, the tokens of bare words and of a filter;
`Items.of_words` and `Items.of_front`, the columns in which the words of such tokens are looked for;
and `filter_governs_first`, that the filter of a request governs its first word only.

The grammar gives some texts several readings. What is said of an expression is said of all its
readings, and that there is one is shown beside it.
-/

namespace SearchIndex.Search

open Text (words)

namespace MatchExpression

/-! ### Tokens of bare words -/

namespace Token

theorem ofChars?_nil : ofChars? [] = some [] := by
  rw [ofChars?.eq_def]

theorem ofChars?_space {c : Char} (space : isSpace c = true) (rest : List Char) :
    ofChars? (c :: rest) = ofChars? rest := by
  rw [ofChars?.eq_def]
  simp only [space, if_true]

theorem ofChars?_sign {c : Char} {token : Token} (visible : isSpace c = false)
    (sign : sign? c = some token) (rest : List Char) :
    ofChars? (c :: rest) = (ofChars? rest).map (token :: ·) := by
  rw [ofChars?.eq_def]
  simp only [visible, Bool.false_eq_true, if_false, sign]

/-- A character of a word is neither between tokens nor a token of its own. -/
theorem sign?_of_isWordChar {c : Char} (inside : isWordChar c = true) :
    isSpace c = false ∧ sign? c = none ∧ c ≠ '"' := by
  refine ⟨Bool.eq_false_iff.mpr fun space => ?_, ?_, ?_⟩
  · simp only [isSpace, Bool.or_eq_true, beq_iff_eq] at space
    obtain ((rfl | rfl) | rfl) | rfl := space <;> contradiction
  · unfold sign?
    split
    all_goals first
      | rfl
      | contradiction
  · rintro rfl
    contradiction

theorem ofChars?_word {c : Char} (inside : isWordChar c = true) (rest : List Char) :
    ofChars? (c :: rest) = (ofChars? (rest.dropWhile isWordChar)).map
      (ofWord (String.ofList (c :: rest.takeWhile isWordChar)) :: ·) := by
  obtain ⟨visible, sign, quote⟩ := sign?_of_isWordChar inside
  rw [ofChars?.eq_def]
  simp only [visible, Bool.false_eq_true, if_false, sign, quote, inside, if_true]

theorem ofChars?_run {run rest : List Char} (nonempty : run ≠ [])
    (inside : ∀ c ∈ run, isWordChar c = true) (stop : rest.head?.any isWordChar = false) :
    ofChars? (run ++ rest) = (ofChars? rest).map (ofWord (String.ofList run) :: ·) := by
  obtain ⟨first, others, rfl⟩ := List.exists_cons_of_ne_nil nonempty
  obtain ⟨firstInside, othersInside⟩ := List.forall_mem_cons.mp inside
  rw [List.cons_append, ofChars?_word firstInside,
    Text.takeWhile_append_stop othersInside stop, Text.dropWhile_append_stop othersInside stop]

theorem ofWord_eq_word {text : String} (operand : text ∉ operators) :
    ofWord text = .word text := by
  simp only [operators, List.mem_cons, List.not_mem_nil, or_false, not_or] at operand
  simp only [ofWord, operand, if_false]

theorem isBlank_eq_not_isWordChar {c : Char} (plain : c.isAlpha = true ∨ isSpace c = true) :
    Text.isBlank c = !isWordChar c := by
  rcases plain with letter | space
  · have alphanum : c.isAlphanum = true := by rw [Char.isAlphanum, letter, Bool.true_or]
    rw [Sql.Token.isBlank_of_isWordChar (Sql.Token.isWordChar_of_isAlphanum alphanum), isWordChar,
      alphanum]
    rfl
  · simp only [isSpace, Bool.or_eq_true, beq_iff_eq] at space
    obtain ((rfl | rfl) | rfl) | rfl := space <;> decide

/-- Among letters and spaces a word ends where the next blank stands. -/
theorem cut_of_plain {text : List Char} (plain : ∀ c ∈ text, c.isAlpha = true ∨ isSpace c = true) :
    (text.takeWhile fun c => !Text.isBlank c) = text.takeWhile isWordChar ∧
      (text.dropWhile fun c => !Text.isBlank c) = text.dropWhile isWordChar := by
  induction text with
  | nil => exact ⟨rfl, rfl⟩
  | cons c text inductionHypothesis =>
      obtain ⟨first, others⟩ := List.forall_mem_cons.mp plain
      have same : (!Text.isBlank c) = isWordChar c := by
        rw [isBlank_eq_not_isWordChar first, Bool.not_not]
      obtain ⟨taken, left⟩ := inductionHypothesis others
      rw [List.takeWhile_cons, List.takeWhile_cons, List.dropWhile_cons, List.dropWhile_cons, same,
        taken, left]
      exact ⟨rfl, rfl⟩

/-- A text of letters and spaces is read as its words. -/
theorem ofChars?_words {text : List Char} (plain : ∀ c ∈ text, c.isAlpha = true ∨ isSpace c = true)
    (operands : ∀ word ∈ words text, String.ofList word ∉ operators) :
    ofChars? text = some ((words text).map fun word => .word (String.ofList word)) := by
  fun_induction words text with
  | case1 => exact ofChars?_nil
  | case2 c rest blank inductionHypothesis =>
      obtain ⟨first, others⟩ := List.forall_mem_cons.mp plain
      have noWord := isBlank_eq_not_isWordChar first
      rw [blank, Bool.true_eq, Bool.not_eq_true'] at noWord
      have space : isSpace c = true := first.resolve_left fun letter => by
        simp [isWordChar, Char.isAlphanum, letter] at noWord
      rw [ofChars?_space space, inductionHypothesis others operands]
  | case3 c rest visible inductionHypothesis =>
      obtain ⟨first, others⟩ := List.forall_mem_cons.mp plain
      obtain ⟨operand, further⟩ := List.forall_mem_cons.mp operands
      have inside : isWordChar c = true := by
        simpa [isBlank_eq_not_isWordChar first] using visible
      have left := (List.dropWhile_suffix (l := rest) fun d => !Text.isBlank d).subset
      have readRest := inductionHypothesis (fun d member => others d (left member)) further
      obtain ⟨run, behind⟩ := cut_of_plain others
      rw [ofChars?_word inside, ← run, ← behind, ofWord_eq_word operand, readRest]
      rfl

/-! ### Tokens of a filter -/

/-- The tokens of a filter. -/
def front (columns : List String) : List Token :=
  .leftBrace :: (columns.map .word ++ [.rightBrace, .colon])

theorem isWordChar_of_isBare {name : String} (bare : Sql.isBare name = true) :
    ∀ c ∈ name.toList, isWordChar c = true := by
  have low {c : Char} (plain : c.isAlphanum = true ∨ (c == '_') = true) : isWordChar c = true := by
    rcases plain with plain | low <;> simp [isWordChar, *]
  obtain ⟨first, others, split, start, further⟩ := Sql.Token.exists_toList_of_isBare bare
  rw [split]
  refine List.forall_mem_cons.mpr ⟨low ?_, fun c member => low ?_⟩
  · refine (Bool.or_eq_true_iff.mp start).imp_left fun letter => ?_
    rw [Char.isAlphanum, letter, Bool.true_or]
  · exact Bool.or_eq_true_iff.mp (further c member)

theorem ofChars?_bare {name : String} (bare : Sql.isBare name = true) (operand : name ∉ operators)
    {rest : List Char} (stop : rest.head?.any isWordChar = false) :
    ofChars? (name.toList ++ rest) = (ofChars? rest).map (.word name :: ·) := by
  obtain ⟨first, others, split, -⟩ := Sql.Token.exists_toList_of_isBare bare
  rw [ofChars?_run (by simp [split]) (isWordChar_of_isBare bare) stop, String.ofList_toList,
    ofWord_eq_word operand]

theorem ofChars?_joined {rest : List Char} (stop : rest.head?.any isWordChar = false) :
    ∀ {columns : List String}, columns ≠ [] →
      (∀ column ∈ columns, Sql.isBare column = true ∧ column ∉ operators) →
        ofChars? ((Text.joined " " columns).toList ++ rest) =
          (ofChars? rest).map (columns.map .word ++ ·)
  | [], nonempty, _ => (nonempty rfl).elim
  | [column], _, names => by
      obtain ⟨bare, operand⟩ := names column (List.mem_singleton_self column)
      exact ofChars?_bare bare operand stop
  | column :: next :: columns, _, names => by
      obtain ⟨⟨bare, operand⟩, others⟩ := List.forall_mem_cons.mp names
      have further := ofChars?_joined stop (List.cons_ne_nil next columns) others
      rw [Text.joined, String.toList_append, String.toList_append, List.append_assoc,
        List.append_assoc, ofChars?_bare bare operand (by rfl)]
      change (ofChars? (' ' :: ((Text.joined " " (next :: columns)).toList ++ rest))).map _ = _
      rw [ofChars?_space (by decide), further, Option.map_map]
      rfl

/-- A filter is read as its tokens. -/
theorem ofChars?_columnFilter {columns : List String} (nonempty : columns ≠ [])
    (names : ∀ column ∈ columns, Sql.isBare column = true ∧ column ∉ operators)
    (rest : List Char) :
    ofChars? ((Request.columnFilter columns).toList ++ rest) =
      (ofChars? rest).map (front columns ++ ·) := by
  have written : (Request.columnFilter columns).toList ++ rest =
      '\x7b' :: ((Text.joined " " columns).toList ++ '\x7d' :: ' ' :: ':' :: ' ' :: rest) := by
    simp [Request.columnFilter]
  rw [written, ofChars?_sign (by decide) rfl, ofChars?_joined (by rfl) nonempty names,
    ofChars?_sign (by decide) rfl, ofChars?_space (by decide), ofChars?_sign (by decide) rfl,
    ofChars?_space (by decide), Option.map_map, Option.map_map, Option.map_map]
  congr 1
  funext tokens
  simp [front]

end Token

/-! ### Readings of bare words -/

section

variable {body item expression : MatchExpression} {tokens further : List Token}
  {names texts columns : List String} {column : String}

/-- No token of some words is another than a word. -/
theorem not_mem_of_words (same : tokens ++ further = texts.map .word) (token : Token)
    (other : ∀ text, token ≠ .word text) : token ∉ tokens := fun member => by
  have taken : token ∈ texts.map .word := same ▸ List.mem_append_left further member
  obtain ⟨text, _, rfl⟩ := List.mem_map.mp taken
  exact other text rfl

/-- A phrase at the beginning of some words is the first word. -/
theorem Phrase.of_words (phrase : Phrase names tokens)
    (same : tokens ++ further = texts.map .word) :
    ∃ text others, texts = text :: others ∧ names = [text] ∧ further = others.map .word := by
  cases phrase with
  | single term =>
      obtain ⟨text, others, rfl, rfl, rfl⟩ := List.map_eq_cons_iff.mp same.symm
      cases term
      exact ⟨_, others, rfl, rfl, rfl⟩
  | begun term => simpa using not_mem_of_words same .star nofun
  | joined first more => simpa using not_mem_of_words same .plus nofun

theorem Group.of_words (group : Group body tokens)
    (same : tokens ++ further = texts.map .word) :
    ∃ text others, texts = text :: others ∧ body = .phrase [text] ∧
      further = others.map .word := by
  cases group with
  | phrase phrase =>
      obtain ⟨text, others, rfl, rfl, rfl⟩ := phrase.of_words same
      exact ⟨text, others, rfl, rfl, rfl⟩
  | initial phrase => simpa using not_mem_of_words same .caret nofun
  | near members apart => simpa using not_mem_of_words same .leftParen nofun

theorem Filter.colon_mem {change : MatchExpression → MatchExpression}
    (filter : Filter change tokens) : .colon ∈ tokens := by
  cases filter <;> simp

/-- An item at the beginning of some words is the first word. -/
theorem Item.of_words (read : Item item tokens) (same : tokens ++ further = texts.map .word) :
    ∃ text others, texts = text :: others ∧ item = .phrase [text] ∧
      further = others.map .word := by
  cases read with
  | everywhere group => exact group.of_words same
  | filtered filter group =>
      simpa [filter.colon_mem] using not_mem_of_words same .colon nofun

/-- Words that follow one another are looked for in every column. -/
theorem Items.of_words (read : Items expression tokens) (same : tokens = texts.map .word) :
    expression.wordsIn column = texts := by
  induction read generalizing texts with
  | one first =>
      obtain ⟨text, others, rfl, rfl, rest⟩ :=
        first.of_words  (by rw [List.append_nil, same])
      rw [List.map_eq_nil_iff.mp rest.symm]
      rfl
  | more first rest inductionHypothesis =>
      obtain ⟨text, others, rfl, rfl, rest⟩ := first.of_words same
      rw [wordsIn, inductionHypothesis rest]
      rfl

theorem exists_items (text : String) (others : List String) :
    ∃ expression, Items expression ((text :: others).map .word) := by
  have first (text : String) : Item (.phrase [text]) [.word text] :=
    .everywhere (.phrase (.single .word))
  induction others generalizing text with
  | nil => exact ⟨_, .one (first text)⟩
  | cons next others inductionHypothesis =>
      obtain ⟨rest, read⟩ := inductionHypothesis next
      exact ⟨_, .more (first text) read⟩

/-! ### Readings of bare words behind a filter -/

theorem Phrase.exists_head (phrase : Phrase names tokens) :
    ∃ token rest, tokens = token :: rest ∧ token ≠ .leftBrace := by
  induction phrase with
  | single term => cases term <;> exact ⟨_, _, rfl, nofun⟩
  | begun term => cases term <;> exact ⟨_, _, rfl, nofun⟩
  | joined first more inductionHypothesis _ =>
      obtain ⟨token, rest, rfl, other⟩ := inductionHypothesis
      exact ⟨token, _, rfl, other⟩

theorem Group.exists_head (group : Group body tokens) :
    ∃ token rest, tokens = token :: rest ∧ token ≠ .leftBrace := by
  cases group with
  | phrase phrase => exact phrase.exists_head
  | initial phrase => exact ⟨_, _, rfl, nofun⟩
  | near members apart => exact ⟨_, _, rfl, nofun⟩

theorem Terms.eq_of_words (terms : Terms names tokens) (same : tokens = texts.map .word) :
    names = texts := by
  induction terms generalizing texts with
  | one term =>
      obtain ⟨text, rfl, rfl⟩ := List.map_eq_singleton_iff.mp same.symm
      cases term
      rfl
  | more term others inductionHypothesis =>
      obtain ⟨text, rest, rfl, rfl, rfl⟩ := List.map_eq_cons_iff.mp same.symm
      cases term
      rw [inductionHypothesis rfl]

/-- The tokens of a filter are read in one way. -/
theorem Filter.of_front {change : MatchExpression → MatchExpression}
    (filter : Filter change tokens) {left : List String}
    (same : tokens ++ further = Token.front columns ++ left.map .word) :
    change = .within columns ∧ further = left.map .word := by
  cases filter with
  | outside names => simp [Token.front] at same
  | within names =>
      cases names with
      | single term => cases term <;> simp [Token.front] at same
      | braced terms =>
          simp only [Token.front, List.cons_append, List.append_assoc, List.nil_append,
            List.cons.injEq, true_and] at same
          -- The brace that closes the names is the only one.
          obtain ⟨named, -, rest⟩ :=
            (List.append_cons_inj_of_notMem (by simp) (by simp)).mp same.symm
          rw [terms.eq_of_words named.symm]
          exact ⟨rfl, (List.cons.inj rest).2.symm⟩

/-- The first item of some words behind a filter is the first word, in the filter's columns. -/
theorem Item.of_front (read : Item item tokens)
    (same : tokens ++ further = Token.front columns ++ texts.map .word) :
    ∃ text others, texts = text :: others ∧ item = .within columns (.phrase [text]) ∧
      further = others.map .word := by
  cases read with
  | everywhere group =>
      obtain ⟨token, rest, rfl, other⟩ := group.exists_head
      exact (other (List.cons.inj same).1).elim
  | filtered filter group =>
      rw [List.append_assoc] at same
      obtain ⟨rfl, rest⟩ := filter.of_front same
      obtain ⟨text, others, rfl, rfl, rfl⟩ := group.of_words rest
      exact ⟨text, others, rfl, rfl, rfl⟩

/-- In columns that are not the filter's, all but the first word are looked for. -/
theorem Items.of_front (read : Items expression tokens)
    (same : tokens = Token.front columns ++ texts.map .word) :
    ∃ text others, texts = text :: others ∧ ∀ column, expression.wordsIn column =
      if isListed column columns then text :: others else others := by
  cases read with
  | one first =>
      obtain ⟨text, others, rfl, rfl, rest⟩ :=
        first.of_front (by rw [List.append_nil, same])
      refine ⟨text, others, rfl, fun column => ?_⟩
      rw [List.map_eq_nil_iff.mp rest.symm]
      rfl
  | more first rest =>
      obtain ⟨text, others, rfl, rfl, further⟩ := first.of_front same
      refine ⟨text, others, rfl, fun column => ?_⟩
      rw [wordsIn, rest.of_words further, wordsIn]
      split <;> rfl

theorem Derives.items_of_front (derives : Derives expression tokens)
    (same : tokens = Token.front columns ++ texts.map .word) : Items expression tokens := by
  cases derives with
  | items items => exact items
  | grouped inside => simp [Token.front] at same
  | filtered filter inside =>
      obtain ⟨-, rest⟩ := filter.of_front same
      simpa using congrArg (.leftParen ∈ ·) rest
  | both first second => simpa [Token.front] using congrArg (.and ∈ ·) same
  | either first second => simpa [Token.front] using congrArg (.or ∈ ·) same
  | without first second => simpa [Token.front] using congrArg (.not ∈ ·) same

theorem Terms.of_words (text : String) (others : List String) :
    Terms (text :: others) ((text :: others).map .word) := by
  induction others generalizing text with
  | nil => exact .one .word
  | cons next others inductionHypothesis => exact .more .word (inductionHypothesis next)

/-- Some words behind a filter have a reading. -/
theorem exists_derives (nonempty : columns ≠ []) (text : String) (others : List String) :
    ∃ expression, Derives expression (Token.front columns ++ (text :: others).map .word) := by
  obtain ⟨name, names, rfl⟩ := List.exists_cons_of_ne_nil nonempty
  have filter := Filter.within (Columns.braced (Terms.of_words name names))
  have first := Item.filtered filter (.phrase (.single (Term.word : Term text _)))
  have written : Token.front (name :: names) ++ [.word text] =
      (.leftBrace :: ((name :: names).map .word ++ [.rightBrace])) ++ [.colon] ++ [.word text] := by
    simp [Token.front]
  rw [← written] at first
  cases others with
  | nil => exact ⟨_, .items (.one first)⟩
  | cons next others =>
      obtain ⟨rest, read⟩ := exists_items next others
      have whole := Items.more first read
      rw [List.append_assoc] at whole
      exact ⟨_, .items whole⟩

end

end MatchExpression

/-! ### Requests -/

open MatchExpression (isListed Reads)
open MatchExpression.Token (front isSpace operators scan?)

namespace Request

/-- The words of a request. -/
def words (request : Request) : List String :=
  (Text.words (sanitize request.query).toList).map String.ofList

/-- The words of a request are written with letters and none of them is an operator. -/
structure HasPlainWords (request : Request) : Prop where
  letters : ∀ c ∈ (sanitize request.query).toList, c.isAlpha = true ∨ isSpace c = true
  operands : ∀ word ∈ request.words, word ∉ operators

section

variable {request : Request} {columns : List String} {expression : String}

theorem words_ne_nil (visible : sanitize request.query ≠ "") : request.words ≠ [] := by
  have text : (sanitize request.query).toList = Text.trim (settle request.query.toList) :=
    String.toList_ofList
  rw [words, text, ne_eq, List.map_eq_nil_iff]
  refine Text.words_trim_ne_nil fun empty => visible ?_
  rw [sanitize, empty]

/-- An accepted filter names columns, and an accepted request has words. -/
theorem of_matchText (filtered : request.columns = some columns)
    (found : request.matchText = .ok expression) :
    request.words ≠ [] ∧ columns ≠ [] ∧ (∀ column ∈ columns, Sql.isBare column = true) ∧
      expression = columnFilter columns ++ sanitize request.query := by
  have whole := eq_expression_of_matchText found
  simp only [Request.expression, filtered, ← columnFilter_eq] at whole
  unfold matchText at found
  split at found
  · contradiction
  · dsimp only at found
    split at found
    · contradiction
    · next visible =>
        rw [filtered] at found
        refine ⟨words_ne_nil visible, ?_, ?_, whole⟩
        · rintro rfl
          contradiction
        · split at found
          · contradiction
          · contradiction
          · next listed =>
              cases listed
              split at found
              · contradiction
              · next none =>
                  simpa using List.find?_eq_none.mp none

theorem scan?_expression (filtered : request.columns = some columns)
    (found : request.matchText = .ok expression) (names : ∀ column ∈ columns, column ∉ operators)
    (plain : request.HasPlainWords) :
    scan? expression = some (front columns ++ request.words.map .word) := by
  obtain ⟨-, some, bare, rfl⟩ := of_matchText filtered found
  have operands : ∀ word ∈ Text.words (sanitize request.query).toList,
      String.ofList word ∉ operators := fun word member =>
    plain.operands _ (List.mem_map_of_mem member)
  rw [scan?, String.toList_append, MatchExpression.Token.ofChars?_columnFilter some
    fun column member => ⟨bare column member, names column member⟩,
    MatchExpression.Token.ofChars?_words plain.letters operands, words, List.map_map]
  rfl

theorem isListed_empty (bare : ∀ column ∈ columns, Sql.isBare column = true) :
    isListed "" columns = false := by
  refine List.any_eq_false.mpr fun column member same => ?_
  obtain ⟨first, others, split, -⟩ := Sql.Token.exists_toList_of_isBare (bare column member)
  simp [Text.sameLetters, split] at same

/-- A filter governs the first word. -/
theorem filter_governs_first (filtered : request.columns = some columns)
    (found : request.matchText = .ok expression) (names : ∀ column ∈ columns, column ∉ operators)
    (plain : request.HasPlainWords) :
    ∃ first others, request.words = first :: others ∧
      (∃ reading, Reads expression reading) ∧
      ∀ reading, Reads expression reading →
        (reading.RestrictedTo columns ↔ others = []) ∧
        ∀ column, reading.wordsIn column =
          if isListed column columns then first :: others else others := by
  obtain ⟨visible, nonempty, bare, -⟩ := of_matchText filtered found
  have scanned := scan?_expression filtered found names plain
  obtain ⟨first, others, split⟩ := List.exists_cons_of_ne_nil visible
  rw [split] at scanned
  obtain ⟨reading, derives⟩ := MatchExpression.exists_derives nonempty first others
  refine ⟨first, others, split, ⟨reading, _, scanned, derives⟩, ?_⟩
  rintro reading ⟨tokens, read, derives⟩
  cases scanned.symm.trans read
  obtain ⟨text, rest, same, governed⟩ := (derives.items_of_front rfl).of_front rfl
  cases same
  refine ⟨⟨fun restricted => ?_, fun single column other => ?_⟩, governed⟩
  · have unlisted := isListed_empty bare
    have leaked := governed ""
    rw [unlisted, restricted "" unlisted] at leaked
    exact leaked.symm
  · rw [governed, other, single]
    rfl

end

/-- Two words, looked for in one column. -/
def pair : Request := { Request.new "x y" with columns := some ["a"] }

theorem sanitize_pair : sanitize pair.query = "x y" := by decide +kernel

theorem words_pair : pair.words = ["x", "y"] := by decide +kernel

theorem plain_pair : pair.HasPlainWords where
  letters := by
    rw [sanitize_pair]
    simp [isSpace]
  operands := by
    rw [words_pair]
    decide

theorem matchText_pair : pair.matchText = .ok "\x7ba\x7d : x y" := by
  have bare : Sql.isBare "a" = true := by decide
  have kept : sanitize "x y" = "x y" := sanitize_pair
  simp [matchText, pair, Request.new, standardLimit, kept, bare, columnFilter, Text.joined]

theorem filter_governs_first_pair :
    pair.columns = some ["a"] ∧ pair.matchText = .ok "\x7ba\x7d : x y" ∧
      (∀ column ∈ ["a"], column ∉ operators) ∧ pair.HasPlainWords ∧
      ∃ reading, Reads "\x7ba\x7d : x y" reading ∧ reading.wordsIn "b" = ["y"] := by
  obtain ⟨first, others, split, ⟨reading, read⟩, governed⟩ :=
    filter_governs_first rfl matchText_pair (by decide) plain_pair
  refine ⟨rfl, matchText_pair, by decide, plain_pair, reading, read, ?_⟩
  cases words_pair.symm.trans split
  exact (governed reading read).2 "b"

/-- The second of two words behind a filter is looked for in every column. -/
theorem not_filter_governs_all :
    ¬ ∀ (request : Request) (columns : List String) (expression : String)
        (reading : MatchExpression), request.columns = some columns →
      request.matchText = .ok expression → (∀ column ∈ columns, column ∉ operators) →
      request.HasPlainWords → "NEAR" ∉ request.words → Reads expression reading →
      reading.RestrictedTo columns := by
  intro all
  have scanned := scan?_expression rfl matchText_pair (by decide) plain_pair
  rw [words_pair] at scanned
  have filter : MatchExpression.Filter (.within ["a"]) (front ["a"]) :=
    .within (.braced (.one .word))
  have derives : MatchExpression.Derives (.both (.within ["a"] (.phrase ["x"])) (.phrase ["y"]))
      (front ["a"] ++ [.word "x"] ++ [.word "y"]) :=
    .items (.more (.filtered filter (.phrase (.single .word)))
      (.one (.everywhere (.phrase (.single .word)))))
  have restricted := all pair ["a"] _ _ rfl matchText_pair (by decide)
    plain_pair (by rw [words_pair]; decide) ⟨_, scanned, derives⟩ "b" (by decide)
  simp [MatchExpression.wordsIn, isListed, Text.sameLetters] at restricted

end Request

end SearchIndex.Search
