import SearchIndex.Proofs.Sql.Source

/-!
Contract: every spelling of a token is read as that token.

Owns: `Token.Spelling`, the characters that a token can be written with; `Token.Gap`, the blanks and
comments that may stand between tokens, and `Token.Separates`, those that begin with a blank;
`Token.Spaced`, a text of spelled tokens with a separating gap between any two; and `scan_spaced`,
by which such a text has exactly these tokens.

A token is read up to the first character that cannot go on with it. The blank at the beginning of a
gap ends every kind of token, and it is also what keeps a dash and a slash from beginning a comment
with what follows them. What stands inside of quotes and comments is arbitrary otherwise.
-/

namespace SearchIndex.Sql.Token

open Text (Ends)

/-! ### Comments -/

/-- A comment is closed by the first closing mark, also where a star stands in front of that. -/
theorem afterBlockComment_append {body : List Char} (unclosed : ¬ ['*', '/'] <:+: body)
    (rest : List Char) : afterBlockComment (body ++ '*' :: '/' :: rest) = rest := by
  induction body with
  | nil => rfl
  | cons c body inductionHypothesis =>
      rw [List.infix_cons_iff, not_or] at unclosed
      -- A star at the end of the body is followed by the star of the closing mark.
      have goesOn : ∀ tail, c = '*' → body ++ '*' :: '/' :: rest = '/' :: tail → False := by
        rintro tail rfl slash
        cases body with
        | nil => exact absurd (List.cons.inj slash).1 (by decide)
        | cons d body =>
            obtain ⟨rfl, _⟩ := List.cons.inj slash
            exact unclosed.1 (List.prefix_append ['*', '/'] body)
      rw [List.cons_append, afterBlockComment.eq_3 _ _ goesOn]
      exact inductionHypothesis unclosed.2

theorem afterComment?_line {body : List Char} (unclosed : '\n' ∉ body) (rest : List Char) :
    afterComment? '-' ('-' :: (body ++ '\n' :: rest)) = some rest := by
  have inside : ∀ c ∈ body, (c != '\n') = true :=
    fun c member => bne_iff_ne.mpr fun same => unclosed (same ▸ member)
  have line : (body ++ '\n' :: rest).dropWhile (· != '\n') = '\n' :: rest :=
    Text.dropWhile_append_stop inside rfl
  rw [afterComment?, line, List.drop_one, List.tail_cons]

theorem afterComment?_block {body : List Char} (unclosed : ¬ ['*', '/'] <:+: body)
    (rest : List Char) :
    afterComment? '/' ('*' :: (body ++ '*' :: '/' :: rest)) = some rest := by
  rw [afterComment?, afterBlockComment_append unclosed]

/-- Neither a dash nor a slash begins a comment in front of a blank. -/
theorem afterComment?_of_ends {rest : List Char} (ends : Ends rest) (c : Char) :
    afterComment? c rest = none := by
  have noDash : '-' ∉ rest.head? := ends.not_mem (by decide)
  have noStar : '*' ∉ rest.head? := ends.not_mem (by decide)
  unfold afterComment?
  split
  · exact absurd rfl noDash
  · exact absurd rfl noStar
  · rfl

/-! ### Gaps -/

/-- Blanks and comments, in any order and number. -/
inductive Gap : List Char → Prop where
  | nil : Gap []
  | blank {c : Char} {others : List Char} (blank : Text.isBlank c = true) (gap : Gap others) :
      Gap (c :: others)
  /-- A comment up to the end of its line. -/
  | line {body others : List Char} (unclosed : '\n' ∉ body) (gap : Gap others) :
      Gap ('-' :: '-' :: (body ++ '\n' :: others))
  /-- A comment between marks of its own. -/
  | block {body others : List Char} (unclosed : ¬ ['*', '/'] <:+: body) (gap : Gap others) :
      Gap ('/' :: '*' :: (body ++ '*' :: '/' :: others))

/-- A gap that begins with a blank. -/
inductive Separates : List Char → Prop where
  | intro {c : Char} {others : List Char} (blank : Text.isBlank c = true) (gap : Gap others) :
      Separates (c :: others)

/-- A gap leaves no token. -/
theorem Gap.scans {gap : List Char} (filled : Gap gap) (rest : List Char) :
    Scans (gap ++ rest) [] rest := by
  induction filled with
  | nil => exact .stop rest
  | blank blank _ inductionHypothesis => exact .blank blank inductionHypothesis
  | @line body others unclosed _ inductionHypothesis =>
      rw [List.cons_append, List.cons_append, List.append_assoc]
      exact .comment (by decide) (afterComment?_line unclosed (others ++ rest)) inductionHypothesis
  | @block body others unclosed _ inductionHypothesis =>
      rw [List.cons_append, List.cons_append, List.append_assoc]
      exact .comment (by decide) (afterComment?_block unclosed (others ++ rest)) inductionHypothesis

theorem Separates.ends {gap : List Char} (separates : Separates gap) (rest : List Char) :
    Ends (gap ++ rest) := by
  obtain ⟨blank, _⟩ := separates
  exact blank

theorem Separates.scans {gap : List Char} (separates : Separates gap) (rest : List Char) :
    Scans (gap ++ rest) [] rest := by
  obtain ⟨blank, gap⟩ := separates
  exact .blank blank (gap.scans rest)

/-! ### Spellings -/

/-- The signs that have a token of their own. -/
def signs : List (Char × Token) :=
  [('(', .leftParen), (')', .rightParen), (',', .comma), ('=', .equals), ('.', .dot),
    (';', .semicolon)]

/-- Whether a character is none of those that begin a longer token, and no sign. -/
def isOther (c : Char) : Bool :=
  !Text.isBlank c && !isWordChar c && !(['\'', '"', '\x60', '['].contains c) &&
    !((signs.map Prod.fst).contains c)

/-- The characters that a token can be written with. -/
inductive Spelling : Token → List Char → Prop where
  | word {text : String} (starts : text.toList.head?.any (fun c => !c.isDigit) = true)
      (inside : ∀ c ∈ text.toList, isWordChar c = true) : Spelling (.word text) text.toList
  | number {text : String} (starts : text.toList.head?.any Char.isDigit = true)
      (inside : ∀ c ∈ text.toList, isNumberChar c = true) : Spelling (.number text) text.toList
  | string (text : String) : Spelling (.string text) (Sql.quoted '\'' text).toList
  | quoted {quote : Char} (quotes : quote = '"' ∨ quote = '\x60') (name : String) :
      Spelling (.quoted name) (Sql.quoted quote name).toList
  | bracketed {name : String} (unclosed : ']' ∉ name.toList) :
      Spelling (.quoted name) ('[' :: (name.toList ++ [']']))
  | sign {c : Char} {token : Token} (listed : (c, token) ∈ signs) : Spelling token [c]
  | other {c : Char} (alone : isOther c = true) : Spelling (.other c) [c]

theorem isBlank_of_isNumberChar {c : Char} (number : isNumberChar c = true) :
    Text.isBlank c = false := by
  rcases Bool.or_eq_true_iff.mp number with plain | dot
  · exact isBlank_of_isWordChar (isWordChar_of_isAlphanum plain)
  · rw [beq_iff_eq.mp dot]
    decide

section Stands

variable {rest : List Char} (ends : Ends rest)
include ends

/-- A run of visible characters goes on up to the blank behind it. -/
theorem head?_any_of_ends {p : Char → Bool} (visible : ∀ c, p c = true → Text.isBlank c = false) :
    rest.head?.any p = false := by
  cases rest with
  | nil => rfl
  | cons c rest =>
      have blank : Text.isBlank c = true := ends
      refine Bool.eq_false_iff.mpr fun inside => ?_
      rw [visible c inside] at blank
      contradiction

/-- A run is one token, which ends in front of the blank behind it. -/
theorem stands_run {text : String} {first : Char} {others : List Char} {goesOn : Char → Bool}
    {token : String → Token} (split : text.toList = first :: others)
    (word : isWordChar first = true) (inside : ∀ c ∈ others, goesOn c = true)
    (visible : ∀ c, goesOn c = true → Text.isBlank c = false)
    (reads : ∀ following, lexeme first following =
      (token (String.ofList (first :: following.takeWhile goesOn)), following.dropWhile goesOn)) :
    Stands (token text) text.toList rest := by
  have stop := head?_any_of_ends ends visible
  rw [split]
  refine .read (isBlank_of_isWordChar word) (afterComment?_of_isWordChar word _) ?_
  rw [reads, Text.takeWhile_append_stop inside stop, Text.dropWhile_append_stop inside stop,
    ← split, String.ofList_toList]

theorem stands_word {text : String} (starts : text.toList.head?.any (fun c => !c.isDigit) = true)
    (inside : ∀ c ∈ text.toList, isWordChar c = true) : Stands (.word text) text.toList rest := by
  obtain ⟨first, others, split⟩ : ∃ first others, text.toList = first :: others :=
    List.exists_cons_of_ne_nil fun empty => by simp [empty] at starts
  have letter : ¬ first.isDigit = true := by simpa [split] using starts
  rw [split] at inside
  obtain ⟨firstInside, othersInside⟩ := List.forall_mem_cons.mp inside
  refine stands_run ends split firstInside othersInside (fun _ => isBlank_of_isWordChar) ?_
  intro following
  rw [lexeme_run firstInside, if_neg letter]

theorem stands_number {text : String} (starts : text.toList.head?.any Char.isDigit = true)
    (inside : ∀ c ∈ text.toList, isNumberChar c = true) :
    Stands (.number text) text.toList rest := by
  obtain ⟨first, others, split⟩ : ∃ first others, text.toList = first :: others :=
    List.exists_cons_of_ne_nil fun empty => by simp [empty] at starts
  have digit : first.isDigit = true := by simpa [split] using starts
  rw [split] at inside
  have word := isWordChar_of_isDigit digit
  have othersInside := (List.forall_mem_cons.mp inside).2
  refine stands_run ends split word othersInside (fun _ => isBlank_of_isNumberChar) ?_
  intro following
  rw [lexeme_run word, if_pos digit]

/-- A quoted text is one token, whatever it holds. -/
theorem stands_quoted {quote : Char} {token : String → Token} (visible : Text.isBlank quote = false)
    (dash : quote ≠ '-') (slash : quote ≠ '/')
    (reads : ∀ following, lexeme quote following =
      (token (String.ofList (readQuoted quote following).1), (readQuoted quote following).2))
    (text : String) : Stands (token text) (Sql.quoted quote text).toList rest := by
  rw [toList_quoted]
  refine .read visible (afterComment?_eq_none dash slash _) ?_
  rw [List.append_assoc, List.singleton_append, reads,
    readQuoted_doubled quote text.toList (ends.not_mem visible), String.ofList_toList]

end Stands

theorem stands_bracketed {name : String} (unclosed : ']' ∉ name.toList) (rest : List Char) :
    Stands (.quoted name) ('[' :: (name.toList ++ [']'])) rest := by
  have inside : ∀ c ∈ name.toList, (c != ']') = true :=
    fun c member => bne_iff_ne.mpr fun same => unclosed (same ▸ member)
  have read : readBracketed (name.toList ++ ']' :: rest) = (name.toList, rest) := by
    rw [readBracketed, Text.takeWhile_append_stop inside rfl, Text.dropWhile_append_stop inside rfl]
    rfl
  refine .read (by decide) (afterComment?_eq_none (by decide) (by decide) _) ?_
  rw [List.append_assoc, List.singleton_append]
  change (Token.quoted (String.ofList (readBracketed (name.toList ++ ']' :: rest)).1),
    (readBracketed (name.toList ++ ']' :: rest)).2) = _
  rw [read, String.ofList_toList]

theorem stands_sign {c : Char} {token : Token} (listed : (c, token) ∈ signs) (rest : List Char) :
    Stands token [c] rest := by
  have visible : ∀ sign ∈ signs, Text.isBlank sign.1 = false ∧ sign.1 ≠ '-' ∧ sign.1 ≠ '/' := by
    decide
  obtain ⟨noBlank, dash, slash⟩ := visible _ listed
  refine .read noBlank (afterComment?_eq_none dash slash _) ?_
  simp only [signs, List.mem_cons, Prod.mk.injEq, List.not_mem_nil, or_false] at listed
  rcases listed with ⟨rfl, rfl⟩ | ⟨rfl, rfl⟩ | ⟨rfl, rfl⟩ | ⟨rfl, rfl⟩ | ⟨rfl, rfl⟩ | ⟨rfl, rfl⟩ <;>
    rfl

theorem stands_other {c : Char} (alone : isOther c = true) {rest : List Char} (ends : Ends rest) :
    Stands (.other c) [c] rest := by
  simp only [isOther, Bool.and_eq_true, Bool.not_eq_true'] at alone
  obtain ⟨⟨⟨visible, word⟩, opens⟩, sign⟩ := alone
  have digit : c.isDigit = false :=
    Bool.eq_false_iff.mpr fun digit => by simp [isWordChar_of_isDigit digit] at word
  refine .read visible (afterComment?_of_ends ends c) ?_
  unfold lexeme
  split
  all_goals first
    | contradiction
    | simp [digit, word]

/-- Every spelling of a token is read as it in front of a blank or at the end of a text. -/
theorem Spelling.stands {token : Token} {source : List Char} (spelling : Spelling token source)
    {rest : List Char} (ends : Ends rest) : Stands token source rest := by
  cases spelling with
  | word starts inside => exact stands_word ends starts inside
  | number starts inside => exact stands_number ends starts inside
  | string text =>
      exact stands_quoted ends (by decide) (by decide) (by decide) (fun _ => rfl) text
  | quoted quotes name =>
      rcases quotes with rfl | rfl
      · exact stands_quoted ends (by decide) (by decide) (by decide) (fun _ => rfl) name
      · exact stands_quoted ends (by decide) (by decide) (by decide) (fun _ => rfl) name
  | bracketed unclosed => exact stands_bracketed unclosed rest
  | sign listed => exact stands_sign listed rest
  | other alone => exact stands_other alone ends

theorem Stands.scans {token : Token} {source rest : List Char} (stands : Stands token source rest) :
    Scans (source ++ rest) [token] rest := by
  cases stands with
  | @read c others _ _ visible noComment read =>
      have scans : Scans (c :: (others ++ rest)) _ _ :=
        .token visible noComment (.stop (lexeme c (others ++ rest)).2)
      rwa [read] at scans

/-! ### Whole texts -/

/-- Spelled tokens, with a gap between any two of them that begins with a blank. -/
inductive Spaced : List Token → List Char → Prop where
  | nil : Spaced [] []
  | single {token : Token} {source : List Char} (spelling : Spelling token source) :
      Spaced [token] source
  | cons {token next : Token} {tokens : List Token} {source gap text : List Char}
      (spelling : Spelling token source) (separates : Separates gap)
      (others : Spaced (next :: tokens) text) :
      Spaced (token :: next :: tokens) (source ++ (gap ++ text))

theorem Spaced.scans {tokens : List Token} {text : List Char} (spaced : Spaced tokens text) :
    Scans text tokens [] := by
  induction spaced with
  | nil => exact .stop []
  | @single token source spelling =>
      have scans := (spelling.stands Text.ends_nil).scans
      rwa [List.append_nil] at scans
  | @cons token next tokens source gap text spelling separates _ inductionHypothesis =>
      have first := (spelling.stands (separates.ends text)).scans
      exact first.trans ((separates.scans text).trans inductionHypothesis)

/-- A text of spelled tokens, with a gap between any two of them that begins with a blank, has
exactly these tokens. -/
theorem scan_spaced {tokens : List Token} {sql : String} (spaced : Spaced tokens sql.toList) :
    scan sql = tokens := by
  have read := ofChars_eq_append_iff.mpr ⟨[], spaced.scans, ofChars_nil⟩
  rwa [List.append_nil] at read

/-- Quotes in comments, marks of comments in quotes, and a star in front of a closing mark. -/
def entangled : String :=
  "x$ /*/ ' **/'--it''s'\n-- */ \"\n\x60\x60\x60\x60 [/*]\t1.e9 - / -- [\n)"

def entangledTokens : List Token :=
  [.word "x$", .string "--it's", .quoted "\x60", .quoted "/*", .number "1.e9", .other '-',
    .other '/', .rightParen]

theorem scan_spaced_entangled :
    Spaced entangledTokens entangled.toList ∧ scan entangled = entangledTokens := by
  have space : Separates [' '] := .intro (by decide) .nil
  have tab : Separates ['\t'] := .intro (by decide) .nil
  have block : Separates " /*/ ' **/".toList :=
    .intro (by decide) (@Gap.block "/ ' *".toList [] (by decide) .nil)
  have lines : Separates "\n-- */ \"\n".toList :=
    .intro (by decide) (@Gap.line " */ \"".toList [] (by decide) .nil)
  have bracket : Separates " -- [\n".toList :=
    .intro (by decide) (@Gap.line " [".toList [] (by decide) .nil)
  have word : Spelling (.word "x$") "x$".toList :=
    .word (by decide) (List.all_eq_true.mp (by decide))
  have name : Spelling (.quoted "/*") "[/*]".toList := @Spelling.bracketed "/*" (by decide)
  have number : Spelling (.number "1.e9") "1.e9".toList :=
    .number (by decide) (List.all_eq_true.mp (by decide))
  have dash : Spelling (.other '-') ['-'] := .other (by decide)
  have slash : Spelling (.other '/') ['/'] := .other (by decide)
  have closing : Spelling .rightParen [')'] := .sign (by decide)
  have spaced : Spaced entangledTokens entangled.toList :=
    .cons word block <| .cons (.string "--it's") lines <| .cons (.quoted (.inr rfl) "\x60") space <|
      .cons name tab <| .cons number space <| .cons dash space <| .cons slash bracket <|
        .single closing
  exact ⟨spaced, scan_spaced spaced⟩

end SearchIndex.Sql.Token
