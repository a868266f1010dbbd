import SearchIndex.Proofs.Definition.Validity
import SearchIndex.Proofs.Index.Searching
import SearchIndex.Proofs.Sql.SelectList

/-!
Contract: which values of its columns a search gives back.

Owns: `Request.aliases`, the names that a search gives to what it computes;
`resultNames?_queryTokens`, the names of the columns that it selects; `ofCells_found`, the row of
what it finds; and `own_values_kept`, by which a declared column keeps its value exactly if none of
the aliases is its name.

The check of a definition knows no aliases. A column that has one of them for its name is
overwritten in the row by what the search computes, and is then taken out with it.
-/

namespace SearchIndex

open Database
open Sql Sql.Token Sql.Segment

/-! ### The selected columns -/

namespace Search.Request

/-- The names that a search gives to its rank, and to its excerpt if it asks for one. -/
def aliases (request : Request) : List String :=
  "rank" :: if request.includeSnippet then ["snippet"] else []

theorem mem_aliases_iff {request : Request} {name : String} :
    name ∈ request.aliases ↔ name = "rank" ∨ request.includeSnippet = true ∧ name = "snippet" := by
  cases asked : request.includeSnippet <;> simp [aliases, asked]

theorem nodup_aliases (request : Request) : request.aliases.Nodup := by
  cases asked : request.includeSnippet <;> simp [aliases, asked]

/-- The arguments of the rank. -/
def rankOperands (table : String) (parameters : Option (Decimal.Literal × Decimal.Literal)) :
    List Token :=
  .quoted table :: match parameters with
    | none => []
    | some (k1, b) => .comma :: realTokens k1 ++ .comma :: realTokens b

section Selected

variable {request : Request} {table : String}
  {parameters : Option (Decimal.Literal × Decimal.Literal)}

theorem isOperand_of_mem_realTokens {literal : Decimal.Literal} :
    ∀ token ∈ realTokens literal, isOperand token = true := by
  obtain ⟨negative, whole, fraction, exponent⟩ := literal
  rcases exponent with _ | ⟨below, digits⟩
  · cases negative <;> simp [realTokens, magnitudeTokens, isOperand]
  · cases negative <;> cases below <;> simp [realTokens, magnitudeTokens, isOperand]

theorem isOperand_rankOperands :
    ∀ token ∈ rankOperands table parameters, isOperand token = true := by
  have real (literal : Decimal.Literal) := @isOperand_of_mem_realTokens literal
  cases parameters with
  | none => simp [rankOperands, isOperand]
  | some parameters =>
      obtain ⟨k1, b⟩ := parameters
      intro token member
      simp only [rankOperands, List.mem_cons, List.mem_append, List.cons_append] at member
      rcases member with rfl | rfl | first | rfl | second
      · rfl
      · rfl
      · exact real k1 token first
      · rfl
      · exact real b token second

theorem isOperand_snippetOperands :
    ∀ token ∈ request.snippetOperands table, isOperand token = true := by
  simp [snippetOperands, isOperand]

/-- What a search selects. -/
def selected (request : Request) (table : String)
    (parameters : Option (Decimal.Literal × Decimal.Literal)) : List Token :=
  .other '*' :: .comma :: (named "bm25" (rankOperands table parameters) "rank" ++
    if request.includeSnippet then
      .comma :: named "snippet" (request.snippetOperands table) "snippet"
    else [])

theorem exists_queryTokens_eq :
    ∃ rest, request.queryTokens table parameters =
      .word "SELECT" :: (request.selected table parameters ++ .word "FROM" :: rest) := by
  refine ⟨.quoted table :: .word "WHERE" :: (conditionTokens table request.expression ++
    [.word "ORDER", .word "BY", .word "rank", .word "LIMIT",
      .number (toString request.limit.toNat), .word "OFFSET",
      .number (toString request.offset.toNat), .semicolon]), ?_⟩
  unfold queryTokens rankTokens snippetTokens selected named call rankOperands
  cases parameters <;> cases request.includeSnippet <;> simp

theorem not_from_of_mem_selected :
    ∀ token ∈ request.selected table parameters, token.isKeyword "FROM" = false := by
  have rank := @not_from_of_mem_named "bm25" "rank" _ (@isOperand_rankOperands table parameters)
    (by decide)
  have snippet := @not_from_of_mem_named "snippet" "snippet" _
    (@isOperand_snippetOperands request table) (by decide)
  simp only [selected, List.forall_mem_cons, List.forall_mem_append]
  refine ⟨rfl, rfl, rank, ?_⟩
  split
  · exact List.forall_mem_cons.mpr ⟨rfl, snippet⟩
  · simp

/-- A search selects the columns of its index, and what it computes under its aliases. -/
theorem resultNames?_queryTokens (columns : List String) :
    resultNames? columns (request.queryTokens table parameters) =
      some (columns ++ request.aliases) := by
  obtain ⟨rest, tokens⟩ := @exists_queryTokens_eq request table parameters
  have rank := closed_named "bm25" "rank" (@isOperand_rankOperands table parameters)
  have snippet := closed_named "snippet" "snippet" (@isOperand_snippetOperands request table)
  have star (others : List Token) :
      all (.other '*' :: .comma :: others) = ⟨[.other '*'], some .comma⟩ :: all others :=
    (@closed_of_plain [.other '*'] (by simp [isPlain])).all_comma others
  rw [resultNames?, tokens, selectList_append not_from_of_mem_selected, selected, star, aliases]
  split
  · rw [rank.all_comma, snippet.all_eq]
    simp [itemNames?_star, itemNames?_named]
  · rw [List.append_nil, rank.all_eq]
    simp [itemNames?_star, itemNames?_named]

end Selected

/-- The result columns of a search are named apart exactly if no column of the index has an
alias for its name. -/
theorem nodup_append_aliases_iff {request : Request} {columns : List String}
    (distinct : columns.Nodup) :
    (columns ++ request.aliases).Nodup ↔ ∀ column ∈ columns, column ∉ request.aliases := by
  rw [List.nodup_append', and_iff_right distinct, and_iff_right request.nodup_aliases]
  exact List.disjoint_left

end Search.Request

namespace Index

/-! ### The values of a row -/

/-- The document of a cell, where its text is proper. -/
def document (cell : Cell) : Json := cell.toJson.toOption.getD .null

theorem ofCells_eq {cells : List (String × Cell)}
    (proper : ∀ cell ∈ cells, ∃ value, cell.2.toJson = .ok value) :
    Row.ofCells cells = .ok (.ofList (cells.map fun cell => (cell.1, document cell.2))) := by
  unfold Row.ofCells NameMap.ofList
  generalize (NameMap.empty : Row) = row
  induction cells generalizing row with
  | nil => rfl
  | cons cell cells inductionHypothesis =>
      obtain ⟨⟨value, read⟩, others⟩ := List.forall_mem_cons.mp proper
      have added : Row.addCell row cell = .ok (row.insert cell.1 (document cell.2)) := by
        rw [Row.addCell, document, read]
        rfl
      rw [List.foldlM_cons, added, List.map_cons, List.foldl_cons]
      exact inductionHypothesis others _

section Values

variable {request : Search.Request} {columns : List String} {own : List Cell} {rank : Float}
  {excerpt : Cell}

/-- What a search computes for a row: its rank, and its excerpt if it asks for one. -/
def computed (request : Search.Request) (rank : Float) (excerpt : Cell) : List Cell :=
  .real rank :: if request.includeSnippet then [excerpt] else []

/-- The entry of a cell in a row. -/
def entry (cell : String × Cell) : String × Json := (cell.1, document cell.2)

/-- The entries of the declared columns. -/
def ownEntries (columns : List String) (own : List Cell) : List (String × Json) :=
  (columns.zip own).map entry

/-- The entries under the aliases. -/
def computedEntries (request : Search.Request) (rank : Float) (excerpt : Cell) :
    List (String × Json) :=
  (request.aliases.zip (computed request rank excerpt)).map entry

theorem names_ownEntries (lengths : own.length = columns.length) :
    (ownEntries columns own).map Prod.fst = columns := by
  have names : Prod.fst ∘ entry = Prod.fst := rfl
  rw [ownEntries, List.map_map, names, List.map_fst_zip lengths.ge]

theorem names_computedEntries :
    (computedEntries request rank excerpt).map Prod.fst = request.aliases := by
  unfold computedEntries computed Search.Request.aliases
  cases request.includeSnippet <;> rfl

theorem proper_of_mem_computed (proper : ∃ value, excerpt.toJson = .ok value) :
    ∀ cell ∈ computed request rank excerpt, ∃ value, cell.toJson = .ok value := by
  unfold computed
  refine List.forall_mem_cons.mpr ⟨⟨_, rfl⟩, ?_⟩
  split
  · exact List.forall_mem_singleton.mpr proper
  · simp

/-- A row of a search holds the entries of the columns under those of the aliases. -/
theorem ofCells_found (lengths : own.length = columns.length)
    (proper : ∀ cell ∈ excerpt :: own, ∃ value, cell.toJson = .ok value) :
    Row.ofCells ((columns ++ request.aliases).zip (own ++ computed request rank excerpt)) =
      .ok (.ofList (ownEntries columns own ++ computedEntries request rank excerpt)) := by
  obtain ⟨excerptProper, ownProper⟩ := List.forall_mem_cons.mp proper
  have values : ∀ cell ∈ own ++ computed request rank excerpt, ∃ value, cell.toJson = .ok value :=
    List.forall_mem_append.mpr ⟨ownProper, proper_of_mem_computed excerptProper⟩
  rw [ofCells_eq fun cell member => values cell.2 (List.of_mem_zip member).2,
    List.zip_append lengths.symm, List.map_append]
  rfl

/-- The row of a search, with each column's own value unless an alias is its name. -/
theorem get?_found (distinct : columns.Nodup) (lengths : own.length = columns.length)
    {column : String} {cell : Cell} (member : (column, cell) ∈ columns.zip own)
    (apart : column ∉ request.aliases) :
    (NameMap.ofList (ownEntries columns own ++ computedEntries request rank excerpt)).get? column =
      some (document cell) := by
  -- The computed entries come later, so that they are the first to be asked for the name.
  have missing : column ∉ (computedEntries request rank excerpt).map Prod.fst := by
    rwa [names_computedEntries]
  have ownDistinct : ((ownEntries columns own).map Prod.fst).Nodup := by
    rwa [names_ownEntries lengths]
  rw [NameMap.get?_ofList_append, NameMap.get?_ofList_eq_none missing, Option.none_or,
    NameMap.get?_ofList_eq_some_iff ownDistinct]
  exact List.mem_map_of_mem member

theorem number?_found (finite : Decimal.isFinite rank = true) :
    Row.number? (.ofList (ownEntries columns own ++ computedEntries request rank excerpt)) "rank" =
      some rank := by
  have distinct : ((computedEntries request rank excerpt).map Prod.fst).Nodup := by
    rw [names_computedEntries]
    exact request.nodup_aliases
  have held : entry ("rank", .real rank) ∈ computedEntries request rank excerpt := by
    unfold computedEntries computed Search.Request.aliases
    exact List.mem_cons_self
  have read : entry ("rank", .real rank) = ("rank", .real rank) := by
    simp [entry, document, Cell.toJson, finite, Except.toOption]
  rw [read, ← NameMap.get?_ofList_eq_some_iff distinct] at held
  rw [Row.number?, NameMap.get?_ofList_append, held]
  rfl

theorem exists_hitOf {includeSnippet : Bool} {row : Row} (ranked : row.number? "rank" = some rank) :
    ∃ hit, hitOf includeSnippet row = .ok hit := by
  unfold hitOf
  rw [ranked]
  exact ⟨_, rfl⟩

end Values

/-! ### The values of a hit -/

/-- For every accepted definition and every search of its index: the selected columns are those of
the definition and those under the aliases of the search. They are named apart exactly if no column
has an alias for its name; and a hit has, whatever values are found, each column's own value under
its name if that is no alias, and else nothing. -/
theorem own_values_kept {definition : Definition} {request : Search.Request} {sql : String}
    (accepted : definition.validate = .ok ())
    (written : request.statement definition.name = .ok sql) :
    let names := definition.columns ++ request.aliases
    resultNames? definition.columns (Token.scan sql) = some names ∧
      (names.Nodup ↔ ∀ column ∈ definition.columns, column ∉ request.aliases) ∧
      ∀ (own : List Cell) (rank : Float) (excerpt : Cell),
        own.length = definition.columns.length → Decimal.isFinite rank = true →
          (∀ cell ∈ excerpt :: own, ∃ value, cell.toJson = .ok value) →
            ∃ row hit, Row.ofCells (names.zip (own ++ computed request rank excerpt)) = .ok row ∧
              hitOf request.includeSnippet row = .ok hit ∧ hit.rank = rank ∧
              ∀ column cell, (column, cell) ∈ definition.columns.zip own →
                hit.row.get? column =
                  if column ∈ request.aliases then none else cell.toJson.toOption := by
  intro names
  have distinct := (Definition.validate_eq_ok.mp accepted).nodup_columns
  refine ⟨?_, Search.Request.nodup_append_aliases_iff distinct, ?_⟩
  · obtain ⟨parameters, _, tokens⟩ := Search.Request.scan_statement written
    rw [tokens]
    exact Search.Request.resultNames?_queryTokens definition.columns
  · intro own rank excerpt lengths finite proper
    have ranked := @number?_found request definition.columns own rank excerpt finite
    obtain ⟨hit, taken⟩ := @exists_hitOf rank request.includeSnippet _ ranked
    have isHit := isHit_of_hitOf taken
    refine ⟨_, hit, ofCells_found lengths proper, taken,
      Option.some.inj ((isRank_iff.mp isHit.rank).symm.trans ranked), fun column cell member => ?_⟩
    rw [isHit.columns]
    by_cases taken : column ∈ request.aliases
    · rw [if_pos taken, if_pos (Search.Request.mem_aliases_iff.mp taken)]
    · obtain ⟨value, read⟩ := proper cell (List.mem_cons_of_mem _ (List.of_mem_zip member).2)
      rw [if_neg taken, if_neg (mt Search.Request.mem_aliases_iff.mpr taken),
        get?_found distinct lengths member taken, document, read]
      rfl

/-- An index with a column that is named like an excerpt. -/
def shadowed : Definition := .new "notes" ["title", "snippet"]

/-- A search with excerpts. -/
def excerpted : Search.Request := (Search.Request.new "x").withSnippet

theorem own_values_kept_shadowed :
    shadowed.validate = .ok () ∧ ∃ sql row hit,
      excerpted.statement shadowed.name = .ok sql ∧
      resultNames? shadowed.columns (Token.scan sql) =
        some ["title", "snippet", "rank", "snippet"] ∧
      Row.ofCells (["title", "snippet", "rank", "snippet"].zip
        [.integer 1, .integer 2, .real 1, .integer 3]) = .ok row ∧
      hitOf true row = .ok hit ∧ hit.row.get? "title" = some (.integer 1) ∧
      hit.row.get? "snippet" = none := by
  have accepted : shadowed.validate = .ok () := by decide +kernel
  have succeeds : (excerpted.statement shadowed.name).toBool = true := by decide +kernel
  cases written : excerpted.statement shadowed.name with
  | error fault =>
      rw [written] at succeeds
      contradiction
  | ok sql =>
      obtain ⟨names, _, kept⟩ := own_values_kept accepted written
      obtain ⟨row, hit, found, taken, _, own⟩ := kept [.integer 1, .integer 2] 1 (.integer 3) rfl
        Decimal.isFinite_one (by simp [Cell.toJson])
      refine ⟨accepted, sql, row, hit, rfl, names, found, taken, ?_, ?_⟩
      · exact own "title" (.integer 1) List.mem_cons_self
      · exact own "snippet" (.integer 2) (List.mem_cons_of_mem _ List.mem_cons_self)

/-- A column can be named like an excerpt that is selected beside it. -/
theorem not_named_apart :
    ¬ ∀ (definition : Definition) (request : Search.Request) (sql : String) (names : List String),
      definition.validate = .ok () → request.statement definition.name = .ok sql →
        resultNames? definition.columns (Token.scan sql) = some names → names.Nodup := by
  intro apart
  have succeeds : (excerpted.statement shadowed.name).toBool = true := by decide +kernel
  cases written : excerpted.statement shadowed.name with
  | error fault =>
      rw [written] at succeeds
      contradiction
  | ok sql =>
      obtain ⟨parameters, _, tokens⟩ := Search.Request.scan_statement written
      have names := @Search.Request.resultNames?_queryTokens excerpted shadowed.name parameters
        shadowed.columns
      rw [← tokens] at names
      exact absurd (apart shadowed excerpted sql _ (by decide +kernel) written names) (by decide)

end Index

end SearchIndex
