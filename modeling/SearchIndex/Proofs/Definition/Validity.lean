import SearchIndex.Definition.Validity

/-!
Contract: what the check of a definition accepts.

Owns: `Valid`, the conditions of the check by name; and `validate_eq_ok`, by which the check accepts
the definitions that meet all of them.
-/

namespace SearchIndex

/-! ### Checks in sequence -/

section Checks

variable {ε : Type}

theorem require_eq_ok {condition : Bool} {error : ε} :
    require condition error = .ok () ↔ condition = true := by
  cases condition <;> simp [require]

/-- Two checks accept where each of them does. -/
theorem checks_eq_ok {first : Except ε Unit} {next : Unit → Except ε Unit} :
    (first >>= next) = .ok () ↔ first = .ok () ∧ next () = .ok () := by
  cases first with
  | error fault => simp [bind, Except.bind]
  | ok value => simp [bind, Except.bind]

end Checks

/-! ### Tokenizers -/

/-- The numbers among the parameters are in range, and the rule for letter case stands only where
runs of three characters are terms. -/
theorem Tokenizer.validate_eq_ok {tokenizer : Tokenizer} :
    tokenizer.validate = .ok () ↔
      (∀ value, (tokenizer.parameters.getD .none).removeDiacritics = some value → value ≤ 2) ∧
        ∀ value, (tokenizer.parameters.getD .none).caseSensitive = some value →
          tokenizer.kind = .trigram ∧ value ≤ 1 := by
  unfold validate
  dsimp only
  generalize tokenizer.parameters.getD .none = parameters
  cases parameters.removeDiacritics with
  | none =>
      cases parameters.caseSensitive with
      | none => simp [checks_eq_ok]
      | some value => simp [checks_eq_ok, require_eq_ok]
  | some folding =>
      cases parameters.caseSensitive with
      | none => simp [checks_eq_ok, require_eq_ok]
      | some value => simp [checks_eq_ok, require_eq_ok]

namespace Definition

/-! ### Definitions -/

/-- The columns stand without quotes, and none is repeated or was seen before. -/
theorem validateColumns_eq_ok {seen columns : List String} :
    validateColumns seen columns = .ok () ↔
      (∀ column ∈ columns, Sql.isBare column = true ∧ column ∉ seen) ∧ columns.Nodup := by
  induction columns generalizing seen with
  | nil => simp [validateColumns]
  | cons column columns inductionHypothesis =>
      rw [validateColumns, checks_eq_ok, checks_eq_ok, require_eq_ok, require_eq_ok,
        inductionHypothesis, List.forall_mem_cons, List.nodup_cons]
      simp only [Bool.not_eq_true', ← Bool.not_eq_true, List.contains_iff_mem, List.mem_cons,
        not_or]
      constructor
      · rintro ⟨bare, unseen, others, nodup⟩
        exact ⟨⟨⟨bare, unseen⟩, fun other member =>
          ⟨(others other member).1, (others other member).2.2⟩⟩,
          fun member => (others column member).2.1 rfl, nodup⟩
      · rintro ⟨⟨⟨bare, unseen⟩, others⟩, fresh, nodup⟩
        exact ⟨bare, unseen, fun other member =>
          ⟨(others other member).1, fun same => fresh (same ▸ member), (others other member).2⟩,
          nodup⟩

theorem validateUnindexed_eq_ok {columns unindexed : List String} :
    validateUnindexed columns unindexed = .ok () ↔ unindexed ⊆ columns := by
  induction unindexed with
  | nil => simp [validateUnindexed]
  | cons column unindexed inductionHypothesis =>
      rw [validateUnindexed, checks_eq_ok, require_eq_ok, inductionHypothesis,
        List.contains_iff_mem, List.cons_subset]

/-- The conditions of the check. -/
structure Valid (definition : Definition) : Prop where
  tokenizer : definition.tokenizer.validate = .ok ()
  name : (Text.trim definition.name.toList).isEmpty = false
  columns : definition.columns.isEmpty = false
  columnNames : validateColumns [] definition.columns = .ok ()
  unindexed : definition.unindexed ⊆ definition.columns
  content : definition.validateContent = .ok ()
  lengths : validateLengths (definition.prefixLengths?.getD []) = .ok ()

theorem validate_eq_ok {definition : Definition} :
    definition.validate = .ok () ↔ definition.Valid := by
  unfold validate
  simp only [checks_eq_ok, require_eq_ok, validateUnindexed_eq_ok, Bool.not_eq_true']
  constructor
  · rintro ⟨tokenizer, name, columns, columnNames, unindexed, content, lengths⟩
    exact ⟨tokenizer, name, columns, columnNames, unindexed, content, lengths⟩
  · rintro ⟨tokenizer, name, columns, columnNames, unindexed, content, lengths⟩
    exact ⟨tokenizer, name, columns, columnNames, unindexed, content, lengths⟩

theorem Valid.nodup_columns {definition : Definition} (valid : definition.Valid) :
    definition.columns.Nodup :=
  (validateColumns_eq_ok.mp valid.columnNames).2

theorem Valid.isBare_of_mem_columns {definition : Definition} (valid : definition.Valid)
    {column : String} (member : column ∈ definition.columns) : Sql.isBare column = true :=
  ((validateColumns_eq_ok.mp valid.columnNames).1 column member).1

/-- A row number has a name only where there is a content table. -/
theorem Valid.rowId_of_content {definition : Definition} (valid : definition.Valid)
    (absent : definition.contentTable = none) : definition.contentRowId = none := by
  have content := valid.content
  unfold validateContent at content
  rw [checks_eq_ok, require_eq_ok, absent] at content
  simpa using content.1

end Definition

end SearchIndex
