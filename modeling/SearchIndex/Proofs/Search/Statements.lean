import SearchIndex.Proofs.Result
import SearchIndex.Proofs.Sql.Reading
import SearchIndex.Search.Query

/-!
Contract: the tokens of the statements that answer a search.

Owns: the tokens of the page query and of the count query, in which the name of the index, the words
to look for, the columns to look in and the texts of excerpts are one token each; and that both
queries look for the same expression.

The numbers of a ranking are the only parts that stand without quotes and are not whole. They are
checked before they are written, so that what is written has digits.
-/

namespace SearchIndex.Search.Request

open Decimal (Literal)
open Sql Sql.Token

/-! ### What is looked for -/

/-- The sanitized words, behind the names of the columns in braces if only some are searched. -/
def expression (request : Request) : String :=
  match request.columns with
  | none => sanitize request.query
  | some columns => "\x7b" ++ " ".intercalate columns ++ "\x7d : " ++ sanitize request.query

theorem columnFilter_eq (columns : List String) :
    columnFilter columns = "\x7b" ++ " ".intercalate columns ++ "\x7d : " := by
  rw [columnFilter, Text.joined_eq_intercalate]

theorem eq_expression_of_matchText {request : Request} {text : String}
    (found : request.matchText = .ok text) : text = request.expression := by
  unfold matchText at found
  unfold expression
  split at found
  · contradiction
  · dsimp only at found
    split at found
    · contradiction
    · split at found
      · next all =>
          cases found
          rw [all]
      · contradiction
      · next columns _ some =>
          split at found
          · contradiction
          · cases found
            rw [some, columnFilter_eq]

def conditionTokens (table expression : String) : List Token :=
  [.quoted table, .word "MATCH", .string expression]

theorem ofChars_condition (table expression : String) {rest : List Char}
    (closes : '\'' ∉ rest.head?) :
    ofChars ((condition table expression).toList ++ rest) =
      conditionTokens table expression ++ ofChars rest := by
  unfold condition conditionTokens
  simp [ofChars_identifier, ofChars_literal, closes, ofChars_wordChar, isWordChar,
    Text.isAlphanumeric, Char.isDigit]

/-! ### Ranking -/

/-- Whether literals are those of a request's ranking, which has some only if it is custom. -/
def RanksBy (request : Request) : Option (Literal × Literal) → Prop
  | none => request.ranking = .standard
  | some (k1, b) =>
    request.ranking = .custom ∧
      k1.text = sqlRealFormat.render (request.k1.getD 1.2) ∧
      b.text = sqlRealFormat.render (request.b.getD 0.75)

def rankTokens (table : String) (parameters : Option (Literal × Literal)) : List Token :=
  [.word "bm25", .leftParen, .quoted table] ++
    (match parameters with
      | none => []
      | some (k1, b) => .comma :: realTokens k1 ++ .comma :: realTokens b) ++
    [.rightParen]

/-- A number in the range of the second parameter is finite. -/
theorem isFinite_of_range {b : Float} (range : (0 ≤ b && b ≤ 1) = true) :
    Decimal.isFinite b = true := by
  rw [Bool.and_eq_true, decide_eq_true_eq, decide_eq_true_eq] at range
  exact Decimal.isFinite_of_between Decimal.isFinite_zero Decimal.isFinite_one range.1 range.2

theorem exists_rankTokens {request : Request} {table rank : String}
    (ranked : request.rankText table = .ok rank) :
    ∃ parameters, request.RanksBy parameters ∧
      ∀ rest, ofChars (rank.toList ++ rest) = rankTokens table parameters ++ ofChars rest := by
  unfold rankText at ranked
  split at ranked
  · next standard =>
      cases ranked
      refine ⟨none, standard, fun rest => ?_⟩
      unfold rankTokens
      simp [ofChars_identifier, ofChars_wordChar, isWordChar, Text.isAlphanumeric, Char.isDigit]
  · next custom =>
      dsimp only at ranked
      split at ranked
      · contradiction
      · next k1Range =>
          split at ranked
          · next bRange =>
              cases ranked
              have k1Finite : Decimal.isFinite (request.k1.getD standardK1) = true := by
                simp only [Bool.or_eq_true, not_or, Bool.not_eq_true', Bool.not_eq_false] at k1Range
                exact k1Range.1
              obtain ⟨k1, k1Text⟩ := Decimal.exists_render sqlRealFormat k1Finite
              obtain ⟨b, bText⟩ :=
                Decimal.exists_render sqlRealFormat (isFinite_of_range bRange)
              refine ⟨some (k1, b), ⟨custom, k1Text, bText⟩, fun rest => ?_⟩
              rw [← k1Text, ← bText]
              unfold rankTokens
              simp [ofChars_identifier, ofChars_real, isNumberChar, ofChars_wordChar, isWordChar,
                Text.isAlphanumeric, Char.isDigit]
          · contradiction

/-! ### Excerpts -/

/-- The arguments of an excerpt. What the request leaves open of its form is the usual one. -/
def snippetOperands (request : Request) (table : String) : List Token :=
  let startMark := (request.snippetOptions.bind (·.startMark)).getD "<mark>"
  let endMark := (request.snippetOptions.bind (·.endMark)).getD "</mark>"
  let ellipsis := (request.snippetOptions.bind (·.ellipsis)).getD "..."
  let tokenCount := (request.snippetOptions.bind (·.tokenCount)).getD 32
  [.quoted table, .comma, .other '-', .number "1", .comma, .string startMark, .comma,
    .string endMark, .comma, .string ellipsis, .comma, .number (toString tokenCount.toNat)]

/-- The excerpt of a row, as a further result column if it is asked for. -/
def snippetTokens (request : Request) (table : String) : List Token :=
  if request.includeSnippet then
    [.comma, .word "snippet", .leftParen] ++ request.snippetOperands table ++
      [.rightParen, .word "AS", .word "snippet"]
  else []

theorem snippetStyle_eq (request : Request) :
    request.snippetStyle =
      ⟨(request.snippetOptions.bind (·.startMark)).getD "<mark>",
        (request.snippetOptions.bind (·.endMark)).getD "</mark>",
        (request.snippetOptions.bind (·.ellipsis)).getD "...",
        (request.snippetOptions.bind (·.tokenCount)).getD 32⟩ := by
  unfold snippetStyle
  cases request.snippetOptions <;> rfl

theorem ofChars_snippetColumn {request : Request} {table snippet : String}
    (found : request.snippetColumn table = .ok snippet) {rest : List Char} (stops : Stops rest) :
    ofChars (snippet.toList ++ rest) = request.snippetTokens table ++ ofChars rest := by
  have ends : rest.head?.any isWordChar = false := stops.fails (by decide)
  unfold snippetColumn at found
  unfold snippetTokens
  split at found
  · next absent =>
      cases found
      rw [if_neg (by simpa using absent)]
      rfl
  · next asked =>
      split at found
      · contradiction
      · cases found
        rw [if_pos (by simpa using asked), snippetStyle_eq]
        unfold snippetText snippetOperands
        simp [← Decimal.natural_eq_repr, ofChars_identifier, ofChars_literal, ofChars_natural,
          ofChars_dash, isNumberChar, ofChars_digit, ofChars_wordChar, isWordChar,
          Text.isAlphanumeric, Char.isDigit, Text.takeWhile_stop ends, Text.dropWhile_stop ends]

/-- An excerpt begins with a comma, so that a word before it ends there. -/
theorem stops_snippetColumn {request : Request} {table snippet : String}
    (found : request.snippetColumn table = .ok snippet) {rest : List Char} (stops : Stops rest) :
    Stops (snippet.toList ++ rest) := by
  unfold snippetColumn at found
  split at found
  · cases found
    exact stops
  · split at found
    · contradiction
    · cases found
      simp [isStop]

/-! ### Statements -/

/-- The statement that selects a page of ranked rows. -/
def queryTokens (request : Request) (table : String) (parameters : Option (Literal × Literal)) :
    List Token :=
  [.word "SELECT", .other '*', .comma] ++ rankTokens table parameters ++
    [.word "AS", .word "rank"] ++ request.snippetTokens table ++
    [.word "FROM", .quoted table, .word "WHERE"] ++ conditionTokens table request.expression ++
    [.word "ORDER", .word "BY", .word "rank", .word "LIMIT",
      .number (toString request.limit.toNat), .word "OFFSET",
      .number (toString request.offset.toNat), .semicolon]

/-- The statement that counts the rows that match. -/
def countTokens (request : Request) (table : String) : List Token :=
  [.word "SELECT", .word "COUNT", .leftParen, .other '*', .rightParen, .word "AS", .word "total",
    .word "FROM", .quoted table, .word "WHERE"] ++ conditionTokens table request.expression ++
    [.semicolon]

/-- A page query is written only if its three parts are. -/
theorem exists_of_statement {request : Request} {table sql : String}
    (written : request.statement table = .ok sql) :
    ∃ text rank snippet, request.matchText = .ok text ∧ request.rankText table = .ok rank ∧
      request.snippetColumn table = .ok snippet ∧
      sql = "SELECT *, " ++ rank ++ " AS rank" ++ snippet ++ " FROM " ++ identifier table ++
        " WHERE " ++ condition table text ++ " ORDER BY rank LIMIT " ++
        Decimal.natural request.limit.toNat ++ " OFFSET " ++
        Decimal.natural request.offset.toNat ++ ";" := by
  obtain ⟨text, found, written⟩ := bind_eq_ok_iff.mp written
  obtain ⟨rank, ranked, written⟩ := bind_eq_ok_iff.mp written
  obtain ⟨snippet, excerpt, ⟨⟩⟩ := bind_eq_ok_iff.mp written
  exact ⟨text, rank, snippet, found, ranked, excerpt, rfl⟩

theorem countStatement_eq (request : Request) (table : String) :
    request.countStatement table = request.matchText.map fun text =>
      "SELECT COUNT(*) AS total FROM " ++ identifier table ++ " WHERE " ++
        condition table text ++ ";" := by
  unfold countStatement
  cases request.matchText <;> rfl

theorem scan_statement {request : Request} {table sql : String}
    (written : request.statement table = .ok sql) :
    ∃ parameters, request.RanksBy parameters ∧
      Token.scan sql = request.queryTokens table parameters := by
  obtain ⟨text, rank, snippet, found, ranked, excerpt, rfl⟩ := exists_of_statement written
  obtain ⟨parameters, ranks, readRank⟩ := exists_rankTokens ranked
  have blank (rest : List Char) : Stops (' ' :: rest) := stops_cons.mpr rfl
  have readSnippet (rest : List Char) := ofChars_snippetColumn excerpt (blank rest)
  -- The word before the excerpt ends whether or not there is one.
  have ends (rest : List Char) : (snippet.toList ++ ' ' :: rest).head?.any isWordChar = false :=
    (stops_snippetColumn excerpt (blank rest)).fails (by decide)
  refine ⟨parameters, ranks, ?_⟩
  rw [eq_expression_of_matchText found]
  unfold Token.scan queryTokens
  simp [readRank, readSnippet, Text.takeWhile_stop (ends _), Text.dropWhile_stop (ends _),
    ← Decimal.natural_eq_repr, ofChars_condition, ofChars_identifier, ofChars_natural,
    isNumberChar, ofChars_wordChar, isWordChar, Text.isAlphanumeric, Char.isDigit]

theorem scan_countStatement {request : Request} {table sql : String}
    (written : request.countStatement table = .ok sql) :
    Token.scan sql = request.countTokens table := by
  rw [countStatement_eq] at written
  cases found : request.matchText with
  | error fault =>
      rw [found] at written
      contradiction
  | ok text =>
      rw [found] at written
      cases written
      rw [eq_expression_of_matchText found]
      unfold Token.scan countTokens
      simp [ofChars_condition, ofChars_identifier, ofChars_wordChar, isWordChar,
        Text.isAlphanumeric, Char.isDigit]

/-- Where a page can be selected, the rows can be counted. -/
theorem exists_countStatement {request : Request} {table sql : String}
    (written : request.statement table = .ok sql) :
    ∃ count, request.countStatement table = .ok count := by
  obtain ⟨text, _, _, found, _⟩ := exists_of_statement written
  exact ⟨_, by rw [countStatement_eq, found]; rfl⟩

/-- For every index and every request, what is written reads as the fixed statements, with one token
for the name of the index, the expression and each text of an excerpt. -/
theorem statements_read (request : Request) (table : String) :
    (∀ sql, request.statement table = .ok sql →
      (∃ parameters, request.RanksBy parameters ∧
        Token.scan sql = request.queryTokens table parameters) ∧
      ∃ count, request.countStatement table = .ok count) ∧
    ∀ sql, request.countStatement table = .ok sql →
      Token.scan sql = request.countTokens table :=
  ⟨fun _ written => ⟨scan_statement written, exists_countStatement written⟩,
    fun _ => scan_countStatement⟩

/-- A request whose texts hold quotes and signs of comments. -/
def hostile : Request :=
  { Request.new "a\"; DROP--b'" with
    columns := some ["title", "body"]
    ranking := .custom
    k1 := some 0.0000012
    includeSnippet := true
    snippetOptions := some { SnippetOptions.unset with ellipsis := some "'); --" } }

theorem statements_read_hostile :
    hostile.expression = "\x7btitle body\x7d : a\" b'" ∧ ∃ sql count parameters,
      hostile.statement "no\"tes'; --" = .ok sql ∧
      hostile.countStatement "no\"tes'; --" = .ok count ∧
      hostile.RanksBy parameters ∧
      Token.scan sql = hostile.queryTokens "no\"tes'; --" parameters ∧
      Token.scan count = hostile.countTokens "no\"tes'; --" := by
  have succeeds : (hostile.statement "no\"tes'; --").toBool = true := by decide +kernel
  refine ⟨by decide +kernel, ?_⟩
  obtain ⟨page, counted⟩ := statements_read hostile "no\"tes'; --"
  cases written : hostile.statement "no\"tes'; --" with
  | error fault =>
      rw [written] at succeeds
      contradiction
  | ok sql =>
      obtain ⟨⟨parameters, ranks, read⟩, count, writtenCount⟩ := page sql written
      exact ⟨sql, count, parameters, rfl, writtenCount, ranks, read, counted count writtenCount⟩

end SearchIndex.Search.Request
