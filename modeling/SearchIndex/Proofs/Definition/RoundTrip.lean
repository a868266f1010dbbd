import SearchIndex.Definition.Recovery
import SearchIndex.Definition.Statement
import SearchIndex.Proofs.Definition.Validity
import SearchIndex.Proofs.Sql.ArgumentList
import SearchIndex.Proofs.Tokenizer.RoundTrip

/-!
Contract: a definition is recovered from its statement.

Owns: `canonical`, a definition as its statement tells it; `exists_recovered`, by which that is what
the statement of a valid definition is read as; and `Valid.canonical` and `render_canonical`, by
which the canonical form is valid and has the same statement.

What is recovered differs from what was written in what no statement can tell: the order of the
columns that are not indexed, a disabled index over beginnings, and parameters that the kind of
tokenizer makes no use of.
-/

namespace SearchIndex.Definition

open Sql (ModuleArgument)

/-! ### The canonical form -/

/-- The definition as its statement tells it. -/
def canonical (definition : Definition) : Definition where
  name := definition.name
  columns := definition.columns
  tokenizer := definition.tokenizer.reduced
  prefixIndex := definition.prefixLengths?.map .ofLengths
  contentTable := definition.contentTable
  contentRowId := definition.contentRowId
  unindexed := definition.columns.filter definition.isUnindexed

theorem isUnindexed_canonical (definition : Definition) {column : String}
    (member : column ∈ definition.columns) :
    definition.canonical.isUnindexed column = definition.isUnindexed column := by
  rw [isUnindexed, canonical, Bool.eq_iff_iff, List.contains_iff_mem, List.mem_filter]
  exact and_iff_right member

theorem isEmpty_of_prefixLengths? {definition : Definition} {lengths : List UInt32}
    (present : definition.prefixLengths? = some lengths) : lengths.isEmpty = false := by
  unfold prefixLengths? at present
  split at present
  · split at present
    · next index _ enabled =>
        cases present
        simpa using (Bool.and_eq_true_iff.mp enabled).2
    · contradiction
  · contradiction

theorem prefixLengths?_canonical (definition : Definition) :
    definition.canonical.prefixLengths? = definition.prefixLengths? := by
  cases present : definition.prefixLengths? with
  | none => rw [prefixLengths?, canonical, present]; rfl
  | some lengths =>
      have nonempty := isEmpty_of_prefixLengths? present
      rw [prefixLengths?, canonical, present]
      simp [PrefixIndex.ofLengths, nonempty]

theorem arguments_canonical (definition : Definition) :
    definition.canonical.arguments = definition.arguments := by
  have columns : definition.canonical.columns.map definition.canonical.columnText =
      definition.columns.map definition.columnText := by
    refine List.map_congr_left fun column member => ?_
    rw [columnText, columnText, isUnindexed_canonical definition member]
  have tokenizer : definition.canonical.tokenizer.encode = definition.tokenizer.encode :=
    definition.tokenizer.encode_reduced
  unfold arguments
  rw [columns, tokenizer, prefixLengths?_canonical]
  rfl

theorem render_canonical (definition : Definition) :
    definition.canonical.render = definition.render := by
  unfold render
  rw [arguments_canonical]
  rfl

/-- Leaving out parameters leaves nothing out of range. -/
theorem validate_reduced {tokenizer : Tokenizer} (valid : tokenizer.validate = .ok ()) :
    tokenizer.reduced.validate = .ok () := by
  obtain ⟨removeDiacritics, caseSensitive⟩ := Tokenizer.validate_eq_ok.mp valid
  rw [Tokenizer.validate_eq_ok, Tokenizer.reduced_eq, Tokenizer.Parameters.getD_nonEmpty?]
  generalize tokenizer.parameters.getD .none = parameters at *
  have cleared {value : UInt8} {goal : Prop} (set : none = some value) : goal :=
    (Option.some_ne_none value set.symm).elim
  cases kind : tokenizer.kind with
  | trigram => exact ⟨fun _ => cleared, fun value set => ⟨rfl, (caseSensitive value set).2⟩⟩
  | unicode61 => exact ⟨removeDiacritics, fun _ => cleared⟩
  | porter => exact ⟨removeDiacritics, fun _ => cleared⟩
  | ascii => exact ⟨removeDiacritics, fun _ => cleared⟩

theorem Valid.canonical {definition : Definition} (valid : definition.Valid) :
    definition.canonical.Valid where
  tokenizer := validate_reduced valid.tokenizer
  name := valid.name
  columns := valid.columns
  columnNames := valid.columnNames
  unindexed := List.filter_sublist.subset
  content := valid.content
  lengths := by
    rw [prefixLengths?_canonical]
    exact valid.lengths

/-! ### Lengths of beginnings -/

theorem lengthsOf_lengthsText (lengths : List UInt32) :
    lengthsOf (lengthsText lengths) = lengths := by
  have readBlank (rest : List Char) :
      Text.words ((" " : String).toList ++ rest) = [] ++ Text.words rest :=
    Text.words_space rest
  have readLength (length : UInt32) (rest : List Char) (ends : Text.Ends rest) :
      Text.words ((Decimal.natural length.toNat).toList ++ rest) =
        [(Decimal.natural length.toNat).toList] ++ Text.words rest :=
    Text.words_append (Decimal.natural_ne_nil _)
      (fun _ member => Decimal.isBlank_of_isDigit (Decimal.isDigit_of_mem_natural member)) ends
  have read := Text.read_joined Text.Ends " " readBlank Text.ends_space
    (fun length (_ : length ∈ lengths) => readLength length) Text.ends_nil
  rw [List.append_nil, Text.words_nil, List.append_nil, Text.nil_intercalate,
    ← List.flatMap_def, ← List.map_eq_flatMap] at read
  have known :
      (fun word => Decimal.word? (String.ofList word)) ∘
        (fun length : UInt32 => (Decimal.natural length.toNat).toList) = some := by
    funext length
    rw [Function.comp_apply, String.ofList_toList, Decimal.word?_natural]
  rw [lengthsOf, lengthsText, read, List.filterMap_map, known, List.filterMap_some]

/-! ### Arguments of the module -/

def moduleArguments (definition : Definition) : List ModuleArgument :=
  definition.columns.map (fun column => .column column (definition.isUnindexed column)) ++
    [.option "tokenize" definition.tokenizer.encode] ++
    definition.prefixLengths?.toList.map (fun lengths => .option "prefix" (lengthsText lengths)) ++
    match definition.contentTable with
    | none => []
    | some table =>
      .option "content" table :: definition.contentRowId.toList.map (.option "content_rowid")

theorem arguments_eq (definition : Definition) :
    definition.arguments = definition.moduleArguments.map ModuleArgument.text := by
  unfold arguments moduleArguments contentOptions
  cases definition.contentTable <;> simp only [List.map_append, List.map_map, List.map_cons] <;> rfl

theorem render_eq (definition : Definition) :
    definition.render =
      Sql.VirtualTable.written definition.name definition.moduleArguments ++ ";" := by
  have ending : (");" : String) = ")" ++ ";" := rfl
  unfold render Sql.VirtualTable.written
  rw [arguments_eq, ending, ← String.append_assoc]

/-- The columns of a valid definition and the keys of the options stand without quotes. -/
theorem Valid.isWritable {definition : Definition} (valid : definition.Valid) :
    ∀ argument ∈ definition.moduleArguments, argument.IsWritable := by
  intro argument member
  unfold moduleArguments at member
  simp only [List.mem_append, List.mem_map, List.mem_singleton] at member
  rcases member with ((⟨column, member, rfl⟩ | rfl) | ⟨lengths, _, rfl⟩) | content
  · exact valid.isBare_of_mem_columns member
  · exact (by decide : Sql.isBare "tokenize" = true)
  · exact (by decide : Sql.isBare "prefix" = true)
  · cases table : definition.contentTable with
    | none =>
        rw [table] at content
        contradiction
    | some source =>
        rw [table] at content
        rcases List.mem_cons.mp content with rfl | rowId
        · exact (by decide : Sql.isBare "content" = true)
        · obtain ⟨_, _, rfl⟩ := List.mem_map.mp rowId
          exact (by decide : Sql.isBare "content_rowid" = true)

/-! ### What the arguments tell -/

/-- Columns are added in order, the marked ones to the columns that are not indexed as well. -/
theorem foldl_add_columns (marked : String → Bool) (columns : List String) (facts : ArgumentFacts) :
    (columns.map fun column => ModuleArgument.column column (marked column)).foldl
        ArgumentFacts.add facts =
      { facts with
        columns := facts.columns ++ columns
        unindexed := facts.unindexed ++ columns.filter marked } := by
  induction columns generalizing facts with
  | nil => simp
  | cons column columns inductionHypothesis =>
      rw [List.map_cons, List.foldl_cons, inductionHypothesis]
      cases mark : marked column <;> simp [ArgumentFacts.add, mark]

section Options

variable (facts : ArgumentFacts) (value : String)

theorem add_tokenize :
    facts.add (.option "tokenize" value) = { facts with tokenizer := some (.decode value) } :=
  rfl

theorem add_prefix :
    facts.add (.option "prefix" value) =
      { facts with lengths := facts.lengths ++ lengthsOf value } :=
  rfl

theorem add_content :
    facts.add (.option "content" value) = { facts with contentTable := some value } :=
  rfl

theorem add_contentRowId :
    facts.add (.option "content_rowid" value) = { facts with contentRowId := some value } :=
  rfl

end Options

/-- The arguments of a valid definition tell its canonical form. -/
theorem ofArguments_moduleArguments {definition : Definition} (valid : definition.Valid) :
    ArgumentFacts.ofArguments definition.moduleArguments =
      { columns := definition.columns
        unindexed := definition.columns.filter definition.isUnindexed
        tokenizer := some definition.tokenizer.reduced
        lengths := definition.prefixLengths?.getD []
        contentTable := definition.contentTable
        contentRowId := definition.contentRowId } := by
  unfold ArgumentFacts.ofArguments moduleArguments
  simp only [List.foldl_append, foldl_add_columns, List.foldl_cons, List.foldl_nil, add_tokenize,
    Tokenizer.decode_encode]
  -- The row number is written behind the content table only, and a valid definition names it only
  -- where there is one.
  cases table : definition.contentTable with
  | none =>
      rw [valid.rowId_of_content table]
      cases definition.prefixLengths? <;>
        simp [ArgumentFacts.none, add_prefix, lengthsOf_lengthsText]
  | some source =>
      cases definition.contentRowId <;> cases definition.prefixLengths? <;>
        simp [ArgumentFacts.none, add_prefix, add_content, add_contentRowId,
          lengthsOf_lengthsText]

/-! ### Recovery -/

/-- The statement as far as its closing parenthesis. -/
def stem (definition : Definition) : String :=
  Sql.VirtualTable.written definition.name definition.moduleArguments

theorem isIndexStatement_stem (definition : Definition) (ending : String) :
    isIndexStatement (definition.stem ++ ending) = true := by
  have opening : (" USING fts5(" : String) = " " ++ ("USING fts5" ++ "(") := rfl
  have small : "USING fts5".toList.map Char.toLower = "using fts5".toList := by decide
  unfold isIndexStatement stem Sql.VirtualTable.written
  simp only [opening, String.toList_append, List.map_append, List.append_assoc, small]
  -- What stands before the name of the module is arbitrary, and so is what follows it.
  rw [← List.append_assoc, ← List.append_assoc]
  exact Text.occurs_append _ _ _

theorem nonEmpty?_eq_some {α : Type} {list : List α} (nonempty : list.isEmpty = false) :
    nonEmpty? list = some list := by
  rw [nonEmpty?, nonempty]
  rfl

theorem getD_nonEmpty? {α : Type} (list : List α) : (nonEmpty? list).getD [] = list := by
  cases list <;> rfl

theorem nonEmpty?_prefixLengths? (definition : Definition) :
    nonEmpty? (definition.prefixLengths?.getD []) = definition.prefixLengths? := by
  cases present : definition.prefixLengths? with
  | none => rfl
  | some lengths => exact nonEmpty?_eq_some (isEmpty_of_prefixLengths? present)

theorem complete?_ofFacts {definition : Definition} (valid : definition.Valid) :
    (Recovered.ofFacts (some definition.name)
      (.ofArguments definition.moduleArguments)).complete? = some definition.canonical := by
  rw [ofArguments_moduleArguments valid]
  simp only [Recovered.ofFacts, Recovered.complete?, nonEmpty?_eq_some valid.columns,
    nonEmpty?_prefixLengths?, getD_nonEmpty?, Option.getD_some]
  rfl

/-- The statement of a valid definition is read as its canonical form, whatever follows it. -/
theorem exists_recovered {definition : Definition} (valid : definition.Valid) (ending : String) :
    ∃ recovered, Recovered.ofStatement? (definition.stem ++ ending) = some recovered ∧
      recovered.complete? = some definition.canonical := by
  have parsed : Sql.VirtualTable.parse (definition.stem ++ ending) =
      ⟨.ok ⟨false, none, definition.name, "fts5"⟩, .ok definition.moduleArguments⟩ :=
    Sql.VirtualTable.parse_written _ valid.isWritable ending
  refine ⟨_, ?_, complete?_ofFacts valid⟩
  rw [Recovered.ofStatement?, isIndexStatement_stem, if_pos rfl, parsed]
  rfl

theorem statement_of_validate {definition : Definition} (accepted : definition.validate = .ok ()) :
    definition.statement = .ok (definition.stem ++ ";") := by
  rw [statement, accepted, render_eq]
  rfl

/-- The statement of every accepted definition, with and without its semicolon, is read as the
canonical form, which is accepted as well and has the same statement. -/
theorem statement_recovered {definition : Definition} (accepted : definition.validate = .ok ()) :
    ∃ stem, definition.statement = .ok (stem ++ ";") ∧
      (∀ sql ∈ [stem ++ ";", stem], ∃ recovered,
        Recovered.ofStatement? sql = some recovered ∧
          recovered.complete? = some definition.canonical) ∧
      definition.canonical.unindexed.Nodup ∧
      definition.canonical.validate = .ok () ∧
      definition.canonical.statement = .ok (stem ++ ";") := by
  have valid := validate_eq_ok.mp accepted
  have canonicalAccepted := validate_eq_ok.mpr valid.canonical
  refine ⟨definition.stem, statement_of_validate accepted, ?_, ?_, canonicalAccepted, ?_⟩
  · have semicolon := exists_recovered valid ";"
    have nothing := exists_recovered valid ""
    rw [String.append_empty] at nothing
    exact List.forall_mem_cons.mpr ⟨semicolon, List.forall_mem_singleton.mpr nothing⟩
  · exact valid.nodup_columns.filter _
  · rw [statement, canonicalAccepted, render_canonical, render_eq]
    rfl

/-- A definition whose name and separators hold quotes, commas and parentheses. -/
def hostile : Definition where
  name := "a\"), --; using fts5("
  columns := ["title", "unindexed", "tokenize"]
  tokenizer := ⟨.porter, some
    { Tokenizer.Parameters.none with
      removeDiacritics := some 2
      separators := some "', prefix='1" }⟩
  prefixIndex := some ⟨true, [2, 3]⟩
  contentTable := some "pages"
  contentRowId := some "id"
  unindexed := ["tokenize", "unindexed", "tokenize"]

theorem statement_recovered_hostile :
    hostile.validate = .ok () ∧ ∃ stem, hostile.statement = .ok (stem ++ ";") ∧
      ∃ recovered, Recovered.ofStatement? stem = some recovered ∧
        recovered.complete? = some { hostile with unindexed := ["unindexed", "tokenize"] } := by
  have accepted : hostile.validate = .ok () := by rfl
  obtain ⟨stem, written, read, _⟩ := statement_recovered accepted
  obtain ⟨recovered, parsed, complete⟩ := read stem (by simp)
  exact ⟨accepted, stem, written, recovered, parsed, complete⟩

end SearchIndex.Definition
