import SearchIndex.Proofs.Search.Sanitize
import SearchIndex.Proofs.Search.Statements

/-!
Contract: the count that goes with a page is the count of the rows that the page is cut from.

Owns: `matchText_congr`, by which the expression to look for depends on the sanitized words and the
columns alone, once the limit is not zero; and `count_matches_page`, by which the two statements
have one condition and are refused together as far as they are checked alike.
-/

namespace SearchIndex.Search.Request

open Sql (identifier)

/-- A request whose words are sanitized beforehand. -/
def sanitized (request : Request) : Request := { request with query := sanitize request.query }

section Expression

variable {request other : Request}

/-- What is looked for depends on the sanitized words, on the columns, and on whether the limit is
zero. -/
theorem matchText_congr (words : sanitize other.query = sanitize request.query)
    (columns : other.columns = request.columns) (limits : other.limit = 0 ↔ request.limit = 0) :
    other.matchText = request.matchText := by
  unfold matchText
  rw [words, columns]
  by_cases zero : request.limit = 0
  · rw [if_pos zero, if_pos (limits.mpr zero)]
  · rw [if_neg zero, if_neg (mt limits.mp zero)]

theorem matchText_sanitized (request : Request) :
    request.sanitized.matchText = request.matchText :=
  matchText_congr (sanitize_sanitize request.query) rfl Iff.rfl

end Expression

section Statements

variable {request other : Request} {table : String}

theorem countStatement_congr (found : other.matchText = request.matchText) :
    other.countStatement table = request.countStatement table := by
  rw [countStatement_eq, countStatement_eq, found]

/-- Sanitizing the words beforehand changes neither what is looked for nor how it is ranked, shown
and paged. -/
theorem statement_sanitized (request : Request) (table : String) :
    request.sanitized.statement table = request.statement table := by
  have ranked : request.sanitized.rankText table = request.rankText table := rfl
  have excerpt : request.sanitized.snippetColumn table = request.snippetColumn table := rfl
  unfold statement
  rw [matchText_sanitized, ranked, excerpt]
  rfl

/-- The expression is built before all that only a page has, so that its error comes first. -/
theorem statement_of_countStatement {error : RequestError}
    (refused : request.countStatement table = .error error) :
    request.statement table = .error error := by
  rw [countStatement_eq] at refused
  cases found : request.matchText with
  | ok text =>
      rw [found] at refused
      contradiction
  | error fault =>
      rw [found] at refused
      cases refused
      rw [statement, found]
      rfl

/-- The condition of a page is that of its count. -/
theorem exists_condition {sql : String} (written : request.statement table = .ok sql) :
    ∃ shown,
      sql = "SELECT *, " ++ shown ++ " FROM " ++ identifier table ++ " WHERE " ++
        (identifier table ++ " MATCH " ++ Sql.literal request.expression) ++
        " ORDER BY rank LIMIT " ++ Decimal.natural request.limit.toNat ++ " OFFSET " ++
        Decimal.natural request.offset.toNat ++ ";" ∧
      request.countStatement table = .ok ("SELECT COUNT(*) AS total FROM " ++ identifier table ++
        " WHERE " ++ (identifier table ++ " MATCH " ++ Sql.literal request.expression) ++ ";") := by
  obtain ⟨text, rank, snippet, found, _, _, rfl⟩ := exists_of_statement written
  refine ⟨rank ++ " AS rank" ++ snippet, ?_, ?_⟩
  · rw [eq_expression_of_matchText found]
    simp only [condition, String.append_assoc]
  · rw [countStatement_eq, found, eq_expression_of_matchText found]
    rfl

/-- For every index and request: a page that can be selected can be counted, by the same condition;
what refuses the count refuses the page, with the same error; paging, ranking and excerpts do not
enter the count; and neither statement changes if the words are sanitized beforehand. -/
theorem count_matches_page (request : Request) (table : String) :
    (∀ sql, request.statement table = .ok sql → ∃ shown,
      sql = "SELECT *, " ++ shown ++ " FROM " ++ identifier table ++ " WHERE " ++
        (identifier table ++ " MATCH " ++ Sql.literal request.expression) ++
        " ORDER BY rank LIMIT " ++ Decimal.natural request.limit.toNat ++ " OFFSET " ++
        Decimal.natural request.offset.toNat ++ ";" ∧
      request.countStatement table = .ok ("SELECT COUNT(*) AS total FROM " ++ identifier table ++
        " WHERE " ++ (identifier table ++ " MATCH " ++ Sql.literal request.expression) ++ ";")) ∧
    (∀ error, request.countStatement table = .error error →
      request.statement table = .error error) ∧
    (∀ other : Request, other.query = request.query → other.columns = request.columns →
      request.limit ≠ 0 → other.limit ≠ 0 →
        other.countStatement table = request.countStatement table) ∧
    request.sanitized.statement table = request.statement table ∧
    request.sanitized.countStatement table = request.countStatement table := by
  refine ⟨fun sql => exists_condition, fun error => statement_of_countStatement, ?_,
    statement_sanitized request table, countStatement_congr request.matchText_sanitized⟩
  intro other query columns paged otherPaged
  have limits : other.limit = 0 ↔ request.limit = 0 :=
    ⟨fun zero => (otherPaged zero).elim, fun zero => (paged zero).elim⟩
  exact countStatement_congr (matchText_congr (by rw [query]) columns limits)

end Statements

end SearchIndex.Search.Request
