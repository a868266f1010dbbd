import SearchIndex.Definition.Statement
import SearchIndex.Proofs.Definition.Validity
import SearchIndex.Proofs.Result
import SearchIndex.Proofs.Sql.Quotation
import SearchIndex.Proofs.Text.Trim
import SearchIndex.Synchronization

/-!
Contract: the check of a definition reports the first rule that is broken.

Owns: `Rule`, the rules in the order of the check; `Rule.Holds`, when a definition keeps a rule, and
`Rule.Blames`, what is reported of one that does not; and `first_broken_rule`, by which the check
accepts a definition that keeps all rules and otherwise reports the first that it breaks, and every
statement of the definition is refused for the same reason.

A rule about several items blames the first of them that is at fault. Each column is held to both
rules for columns before the next one is looked at.
-/

namespace SearchIndex

/-! ### Checks -/

section Checks

variable {α ε : Type} {check : α → Except ε Unit} {items : List α} {fault : ε}

theorem require_eq_error {condition : Bool} {error : ε} :
    require condition error = .error fault ↔ condition = false ∧ fault = error := by
  cases condition <;> simp [require, eq_comm]

/-- Of two checks the first that fails is reported. -/
theorem checks_eq_error {first : Except ε Unit} {next : Unit → Except ε Unit} :
    (first >>= next) = .error fault ↔
      first = .error fault ∨ first = .ok () ∧ next () = .error fault := by
  rw [bind_eq_error_iff]
  exact or_congr_right ⟨fun ⟨_, further⟩ => further, fun further => ⟨(), further⟩⟩

section Require

variable {test : α → Bool} {error : α → ε}

theorem forM_require_eq_ok :
    (forM items fun item => require (test item) (error item)) = .ok () ↔
      ∀ item ∈ items, test item = true := by
  simp only [forM_eq_ok, require_eq_ok]

theorem forM_require_eq_error :
    (forM items fun item => require (test item) (error item)) = .error fault ↔
      ∃ item, FirstFailing (test · = true) items item ∧ fault = error item := by
  simp only [forM_eq_error, require_eq_ok, require_eq_error]
  exact exists_congr fun item => and_congr_right fun first =>
    and_iff_right (Bool.not_eq_true _ ▸ first.fails)

end Require

/-- A check of a value where there is one. -/
def whereGiven (value : Option α) (check : α → Except ε Unit) : Except ε Unit :=
  match value with
  | some value => check value
  | none => .ok ()

section Given

variable {given : Option α} {test : α → Bool} {error : α → ε}

theorem whereGiven_eq_ok :
    whereGiven given check = .ok () ↔ ∀ value, given = some value → check value = .ok () := by
  cases given <;> simp [whereGiven]

theorem whereGiven_eq_error :
    whereGiven given check = .error fault ↔
      ∃ value, given = some value ∧ check value = .error fault := by
  cases given <;> simp [whereGiven]

theorem whereGiven_require_eq_ok :
    (whereGiven given fun value => require (test value) (error value)) = .ok () ↔
      ∀ value, given = some value → test value = true := by
  simp only [whereGiven_eq_ok, require_eq_ok]

theorem whereGiven_require_eq_error :
    (whereGiven given fun value => require (test value) (error value)) = .error fault ↔
      ∃ value, given = some value ∧ test value = false ∧ fault = error value := by
  simp only [whereGiven_eq_error, require_eq_error]

end Given

end Checks

namespace Definition

/-! ### Rules -/

/-- The rules for a definition. -/
inductive Rule where
  | folding
  | letterCaseKind
  | letterCase
  | name
  | someColumn
  | columns
  | unindexed
  | rowIdOfContent
  | contentName
  | rowIdName
  | prefixLengths
deriving DecidableEq, Repr

/-- The parameters of a definition's tokenizer, none of them set if there are none. -/
def parameters (definition : Definition) : Tokenizer.Parameters :=
  definition.tokenizer.parameters.getD .none

namespace Rule

/-- The rules in the order in which they are checked. -/
def all : List Rule :=
  [.folding, .letterCaseKind, .letterCase, .name, .someColumn, .columns, .unindexed,
    .rowIdOfContent, .contentName, .rowIdName, .prefixLengths]

/-- Whether columns have bare names, none of them twice. -/
def DistinctBare (columns : List String) : Prop :=
  (∀ column ∈ columns, Sql.IsIdentifier column) ∧ columns.Nodup

/-- Whether a definition keeps a rule. -/
def Holds (definition : Definition) : Rule → Prop
  | .folding => ∀ value, definition.parameters.removeDiacritics = some value → value ≤ 2
  | .letterCaseKind =>
    ∀ value, definition.parameters.caseSensitive = some value → definition.tokenizer.kind = .trigram
  | .letterCase => ∀ value, definition.parameters.caseSensitive = some value → value ≤ 1
  | .name => ∃ c ∈ definition.name.toList, c.toNat ∉ Text.whiteSpace
  | .someColumn => definition.columns ≠ []
  | .columns => DistinctBare definition.columns
  | .unindexed => definition.unindexed ⊆ definition.columns
  | .rowIdOfContent => definition.contentTable = none → definition.contentRowId = none
  | .contentName => ∀ name, definition.contentTable = some name → Sql.IsIdentifier name
  | .rowIdName => ∀ name, definition.contentRowId = some name → Sql.IsIdentifier name
  | .prefixLengths =>
    ∀ index, definition.prefixIndex = some index → index.enabled = true →
      ∀ length ∈ index.lengths, 1 ≤ length ∧ length ≤ 999

/-- What is reported of a definition that breaks a rule. -/
inductive Blames (definition : Definition) : Rule → DefinitionError → Prop where
  | folding {value : UInt8} (given : definition.parameters.removeDiacritics = some value)
      (high : 2 < value) : Blames definition .folding (.removeDiacriticsRange value)
  | letterCaseKind {value : UInt8} (given : definition.parameters.caseSensitive = some value)
      (other : definition.tokenizer.kind ≠ .trigram) :
      Blames definition .letterCaseKind .caseSensitiveNeedsTrigram
  | letterCase {value : UInt8} (given : definition.parameters.caseSensitive = some value)
      (high : 1 < value) : Blames definition .letterCase (.caseSensitiveRange value)
  | name (blank : ∀ c ∈ definition.name.toList, c.toNat ∈ Text.whiteSpace) :
      Blames definition .name .emptyName
  | someColumn (none : definition.columns = []) : Blames definition .someColumn .noColumns
  /-- The columns before the blamed one are distinct bare names. -/
  | columnName {before after : List String} {column : String}
      (split : definition.columns = before ++ column :: after) (passed : DistinctBare before)
      (quoted : ¬ Sql.IsIdentifier column) : Blames definition .columns (.columnName column)
  | duplicateColumn {before after : List String} {column : String}
      (split : definition.columns = before ++ column :: after) (passed : DistinctBare before)
      (bare : Sql.IsIdentifier column) (seen : column ∈ before) :
      Blames definition .columns (.duplicateColumn column)
  | unindexed {column : String}
      (first : FirstFailing (· ∈ definition.columns) definition.unindexed column) :
      Blames definition .unindexed (.unindexedNotAColumn column)
  | rowIdOfContent {rowId : String} (given : definition.contentRowId = some rowId)
      (alone : definition.contentTable = none) :
      Blames definition .rowIdOfContent .rowIdWithoutContent
  | contentName {name : String} (given : definition.contentTable = some name)
      (quoted : ¬ Sql.IsIdentifier name) : Blames definition .contentName (.identifierName name)
  | rowIdName {name : String} (given : definition.contentRowId = some name)
      (quoted : ¬ Sql.IsIdentifier name) : Blames definition .rowIdName (.identifierName name)
  | prefixLengths {index : PrefixIndex} {length : UInt32}
      (given : definition.prefixIndex = some index) (enabled : index.enabled = true)
      (first : FirstFailing (fun length => 1 ≤ length ∧ length ≤ 999) index.lengths length) :
      Blames definition .prefixLengths (.prefixLengthRange length)

end Rule

/-! ### One rule -/

/-- The check of one rule. -/
def check (definition : Definition) : Rule → Except DefinitionError Unit
  | .folding =>
    whereGiven definition.parameters.removeDiacritics fun value =>
      require (value ≤ 2) (.removeDiacriticsRange value)
  | .letterCaseKind =>
    whereGiven definition.parameters.caseSensitive fun _ =>
      require (definition.tokenizer.kind = .trigram) .caseSensitiveNeedsTrigram
  | .letterCase =>
    whereGiven definition.parameters.caseSensitive fun value =>
      require (value ≤ 1) (.caseSensitiveRange value)
  | .name => require (!(Text.trim definition.name.toList).isEmpty) .emptyName
  | .someColumn => require (!definition.columns.isEmpty) .noColumns
  | .columns => validateColumns [] definition.columns
  | .unindexed => validateUnindexed definition.columns definition.unindexed
  | .rowIdOfContent =>
    whereGiven definition.contentRowId fun _ =>
      require definition.contentTable.isSome .rowIdWithoutContent
  | .contentName =>
    whereGiven definition.contentTable fun name => require (Sql.isBare name) (.identifierName name)
  | .rowIdName =>
    whereGiven definition.contentRowId fun name => require (Sql.isBare name) (.identifierName name)
  | .prefixLengths =>
    whereGiven definition.prefixIndex fun index =>
      if index.enabled then validateLengths index.lengths else .ok ()

section Columns

variable {seen columns unindexed : List String} {fault : DefinitionError}

/-- The columns before the blamed one pass. -/
theorem validateColumns_eq_error : validateColumns seen columns = .error fault ↔
    ∃ before column after, columns = before ++ column :: after ∧
      validateColumns seen before = .ok () ∧
      (Sql.isBare column = false ∧ fault = .columnName column ∨
        Sql.isBare column = true ∧ (column ∈ seen ∨ column ∈ before) ∧
          fault = .duplicateColumn column) := by
  induction columns generalizing seen with
  | nil => simp [validateColumns]
  | cons first columns inductionHypothesis =>
      -- A column that passed is seen from then on.
      have moved (before : List String) (column : String) :
          (column ∈ first :: seen ∨ column ∈ before) ↔
            (column ∈ seen ∨ column ∈ first :: before) := by
        rw [List.mem_cons, List.mem_cons, or_assoc, or_left_comm]
      rw [validateColumns, checks_eq_error, checks_eq_error, require_eq_ok, require_eq_ok,
        require_eq_error, require_eq_error, inductionHypothesis, Bool.not_eq_false',
        List.contains_iff_mem]
      constructor
      · rintro (quoted | ⟨bare, repeated | ⟨fresh, before, column, after, rfl, passed, reason⟩⟩)
        · exact ⟨[], first, columns, rfl, rfl, .inl quoted⟩
        · exact ⟨[], first, columns, rfl, rfl, .inr ⟨bare, .inl repeated.1, repeated.2⟩⟩
        · refine ⟨first :: before, column, after, rfl, ?_, by rwa [← moved]⟩
          rw [validateColumns, checks_eq_ok, checks_eq_ok, require_eq_ok, require_eq_ok]
          exact ⟨bare, fresh, passed⟩
      · rintro ⟨before, column, after, split, passed, reason⟩
        cases before with
        | nil =>
            obtain ⟨rfl, rfl⟩ := List.cons.inj split
            rcases reason with quoted | ⟨bare, repeated | none, blamed⟩
            · exact .inl quoted
            · exact .inr ⟨bare, .inl ⟨repeated, blamed⟩⟩
            · contradiction
        | cons head before =>
            obtain ⟨rfl, rfl⟩ := List.cons.inj split
            rw [validateColumns, checks_eq_ok, checks_eq_ok, require_eq_ok, require_eq_ok] at passed
            obtain ⟨bare, fresh, others⟩ := passed
            exact .inr ⟨bare, .inr ⟨fresh, before, column, after, rfl, others, by rwa [moved]⟩⟩

theorem validateColumns_nil_eq_ok : validateColumns [] columns = .ok () ↔
    Rule.DistinctBare columns := by
  rw [validateColumns_eq_ok, Rule.DistinctBare]
  simp [Sql.isBare_iff]

theorem validateUnindexed_eq_forM (columns unindexed : List String) :
    validateUnindexed columns unindexed = forM unindexed fun column =>
      require (columns.contains column) (.unindexedNotAColumn column) := by
  induction unindexed with
  | nil => rfl
  | cons column unindexed inductionHypothesis =>
      rw [validateUnindexed, List.forM_cons, inductionHypothesis]

end Columns

section Lengths

theorem validateLengths_eq_forM (lengths : List UInt32) :
    validateLengths lengths = forM lengths fun length =>
      require (1 ≤ length && length ≤ 999) (.prefixLengthRange length) := by
  induction lengths with
  | nil => rfl
  | cons length lengths inductionHypothesis =>
      rw [validateLengths, List.forM_cons, inductionHypothesis]

/-- The lengths of an index over beginnings count where it is enabled. -/
theorem validateLengths_prefixLengths? (definition : Definition) :
    validateLengths (definition.prefixLengths?.getD []) = definition.check .prefixLengths := by
  rw [prefixLengths?, check]
  cases definition.prefixIndex with
  | none => rfl
  | some index =>
      cases index with
      | mk enabled lengths => cases enabled <;> cases lengths <;> rfl

end Lengths

/-- The check of a definition goes through the rules in their order. -/
theorem validate_eq_forM (definition : Definition) :
    definition.validate = forM Rule.all definition.check := by
  have tokenizer : definition.tokenizer.validate =
      definition.check .folding >>= fun _ =>
        definition.check .letterCaseKind >>= fun _ => definition.check .letterCase := by
    simp only [Tokenizer.validate, check, parameters]
    cases (definition.tokenizer.parameters.getD .none).removeDiacritics <;>
      cases (definition.tokenizer.parameters.getD .none).caseSensitive <;> rfl
  have content : definition.validateContent =
      definition.check .rowIdOfContent >>= fun _ =>
        definition.check .contentName >>= fun _ => definition.check .rowIdName := by
    simp only [validateContent, check]
    cases definition.contentTable <;> cases definition.contentRowId <;> rfl
  rw [validate, tokenizer, content, validateLengths_prefixLengths?]
  simp only [Rule.all, List.forM_cons, List.forM_nil, bind_assoc, bind_pure_unit]
  rfl

section

variable {definition : Definition} {rule : Rule} {fault : DefinitionError}

/-- The check of a rule accepts what keeps it. -/
theorem check_eq_ok : definition.check rule = .ok () ↔ rule.Holds definition := by
  cases rule with
  | folding => simp only [check, whereGiven_require_eq_ok, Rule.Holds, decide_eq_true_eq]
  | letterCaseKind => simp only [check, whereGiven_require_eq_ok, Rule.Holds, decide_eq_true_eq]
  | letterCase => simp only [check, whereGiven_require_eq_ok, Rule.Holds, decide_eq_true_eq]
  | name =>
      rw [check, require_eq_ok, Bool.not_eq_true', ← Bool.not_eq_true, List.isEmpty_iff,
        Text.trim_eq_nil_iff, Rule.Holds]
      simp only [not_forall, Text.isBlank_iff, exists_prop]
  | someColumn =>
      rw [check, require_eq_ok, Bool.not_eq_true', ← Bool.not_eq_true, List.isEmpty_iff, Rule.Holds]
  | columns => exact validateColumns_nil_eq_ok
  | unindexed => exact validateUnindexed_eq_ok
  | rowIdOfContent =>
      rw [check, whereGiven_require_eq_ok, Rule.Holds]
      cases definition.contentTable <;> cases definition.contentRowId <;> simp
  | contentName => simp only [check, whereGiven_require_eq_ok, Rule.Holds, Sql.isBare_iff]
  | rowIdName => simp only [check, whereGiven_require_eq_ok, Rule.Holds, Sql.isBare_iff]
  | prefixLengths =>
      rw [check, whereGiven_eq_ok, Rule.Holds]
      refine forall_congr' fun index => imp_congr_right fun _ => ?_
      cases enabled : index.enabled with
      | false => simp
      | true => simp [validateLengths_eq_forM, forM_require_eq_ok]

/-- The check of a rule reports what is to blame. -/
theorem blames_of_check (failed : definition.check rule = .error fault) :
    rule.Blames definition fault := by
  cases rule with
  | folding =>
      obtain ⟨value, given, high, rfl⟩ := whereGiven_require_eq_error.mp failed
      exact .folding given (by simpa using high)
  | letterCaseKind =>
      obtain ⟨value, given, other, rfl⟩ := whereGiven_require_eq_error.mp failed
      exact .letterCaseKind given (by simpa using other)
  | letterCase =>
      obtain ⟨value, given, high, rfl⟩ := whereGiven_require_eq_error.mp failed
      exact .letterCase given (by simpa using high)
  | name =>
      obtain ⟨blank, rfl⟩ := require_eq_error.mp failed
      rw [Bool.not_eq_false', List.isEmpty_iff, Text.trim_eq_nil_iff] at blank
      exact .name fun c member => Text.isBlank_iff.mp (blank c member)
  | someColumn =>
      obtain ⟨none, rfl⟩ := require_eq_error.mp failed
      exact .someColumn (by simpa using none)
  | columns =>
      obtain ⟨before, column, after, split, passed, reason⟩ := validateColumns_eq_error.mp failed
      have distinct := validateColumns_nil_eq_ok.mp passed
      rcases reason with ⟨quoted, rfl⟩ | ⟨bare, none | seen, rfl⟩
      · exact .columnName split distinct (Sql.isBare_eq_false_iff.mp quoted)
      · contradiction
      · exact .duplicateColumn split distinct (Sql.isBare_iff.mp bare) seen
  | unindexed =>
      rw [check, validateUnindexed_eq_forM] at failed
      obtain ⟨column, first, rfl⟩ := forM_require_eq_error.mp failed
      exact .unindexed (by simpa only [List.contains_iff_mem] using first)
  | rowIdOfContent =>
      obtain ⟨rowId, given, alone, rfl⟩ := whereGiven_require_eq_error.mp failed
      exact .rowIdOfContent given (by simpa using alone)
  | contentName =>
      obtain ⟨name, given, quoted, rfl⟩ := whereGiven_require_eq_error.mp failed
      exact .contentName given (Sql.isBare_eq_false_iff.mp quoted)
  | rowIdName =>
      obtain ⟨name, given, quoted, rfl⟩ := whereGiven_require_eq_error.mp failed
      exact .rowIdName given (Sql.isBare_eq_false_iff.mp quoted)
  | prefixLengths =>
      obtain ⟨index, given, out⟩ := whereGiven_eq_error.mp failed
      split at out
      · next enabled =>
          rw [validateLengths_eq_forM] at out
          obtain ⟨length, first, rfl⟩ := forM_require_eq_error.mp out
          exact .prefixLengths given enabled
            (by simpa only [Bool.and_eq_true, decide_eq_true_eq] using first)
      · contradiction

theorem check_of_blames (blames : rule.Blames definition fault) :
    definition.check rule = .error fault := by
  cases blames with
  | folding given high =>
      exact whereGiven_require_eq_error.mpr ⟨_, given, by simpa using high, rfl⟩
  | letterCaseKind given other =>
      exact whereGiven_require_eq_error.mpr ⟨_, given, by simpa using other, rfl⟩
  | letterCase given high =>
      exact whereGiven_require_eq_error.mpr ⟨_, given, by simpa using high, rfl⟩
  | name blank =>
      refine require_eq_error.mpr ⟨?_, rfl⟩
      rw [Bool.not_eq_false', List.isEmpty_iff]
      exact Text.trim_eq_nil_iff.mpr fun c member => Text.isBlank_iff.mpr (blank c member)
  | someColumn none => exact require_eq_error.mpr ⟨by simpa using none, rfl⟩
  | columnName split passed quoted =>
      exact validateColumns_eq_error.mpr
        ⟨_, _, _, split, validateColumns_nil_eq_ok.mpr passed,
          .inl ⟨Sql.isBare_eq_false_iff.mpr quoted, rfl⟩⟩
  | duplicateColumn split passed bare seen =>
      exact validateColumns_eq_error.mpr
        ⟨_, _, _, split, validateColumns_nil_eq_ok.mpr passed,
          .inr ⟨Sql.isBare_iff.mpr bare, .inr seen, rfl⟩⟩
  | unindexed first =>
      rw [check, validateUnindexed_eq_forM]
      exact forM_require_eq_error.mpr
        ⟨_, by simpa only [List.contains_iff_mem] using first, rfl⟩
  | rowIdOfContent given alone =>
      exact whereGiven_require_eq_error.mpr ⟨_, given, by simpa using alone, rfl⟩
  | contentName given quoted =>
      exact whereGiven_require_eq_error.mpr ⟨_, given, Sql.isBare_eq_false_iff.mpr quoted, rfl⟩
  | rowIdName given quoted =>
      exact whereGiven_require_eq_error.mpr ⟨_, given, Sql.isBare_eq_false_iff.mpr quoted, rfl⟩
  | prefixLengths given enabled first =>
      refine whereGiven_eq_error.mpr ⟨_, given, ?_⟩
      rw [if_pos enabled, validateLengths_eq_forM]
      exact forM_require_eq_error.mpr
        ⟨_, by simpa only [Bool.and_eq_true, decide_eq_true_eq] using first, rfl⟩

theorem check_eq_error : definition.check rule = .error fault ↔ rule.Blames definition fault :=
  ⟨blames_of_check, check_of_blames⟩

end

/-! ### All rules -/

section

variable {definition : Definition} {fault : DefinitionError}

theorem Rule.mem_all (rule : Rule) : rule ∈ all := by
  cases rule <;> decide

theorem validate_eq_ok_iff_holds :
    definition.validate = .ok () ↔ ∀ rule : Rule, rule.Holds definition := by
  rw [validate_eq_forM, forM_eq_ok]
  simp only [Rule.mem_all, check_eq_ok, forall_const]

/-- The first rule that is broken is reported. -/
theorem validate_eq_error_iff_blames :
    definition.validate = .error fault ↔
      ∃ rule, FirstFailing (Rule.Holds definition) Rule.all rule ∧
        rule.Blames definition fault := by
  rw [validate_eq_forM, forM_eq_error]
  simp only [check_eq_ok, check_eq_error]

/-- A definition that is not valid has no statement, for the same reason. -/
theorem statement_of_validate_error (refused : definition.validate = .error fault) :
    definition.statement = .error fault := by
  rw [statement, refused]
  rfl

theorem ofDefinition_of_validate_error (refused : definition.validate = .error fault) :
    Synchronization.ofDefinition definition = .error fault := by
  rw [Synchronization.ofDefinition, refused]
  rfl

/-- A valid definition has a link exactly if it has a content table. -/
theorem ofDefinition_of_validate_ok (accepted : definition.validate = .ok ()) :
    Synchronization.ofDefinition definition =
      match definition.contentTable with
      | some source =>
        .ok ⟨source, definition.name, definition.columns, definition.contentRowId⟩
      | none => .error (.noContentTable definition.name) := by
  rw [Synchronization.ofDefinition, accepted]
  rfl

/-- A definition is accepted exactly if it keeps all rules. One that does not is refused for the
first rule that it breaks, and its statement, its link to the content table and its backfill are
refused for the same reason. One that is accepted has a statement, and it has a link and a backfill
exactly if it has a content table. -/
theorem first_broken_rule (definition : Definition) :
    (definition.validate = .ok () ↔ ∀ rule : Rule, rule.Holds definition) ∧
    (∀ fault, definition.validate = .error fault ↔
      ∃ rule, FirstFailing (Rule.Holds definition) Rule.all rule ∧
        rule.Blames definition fault) ∧
    (∀ fault, definition.validate = .error fault →
      definition.statement = .error fault ∧
      Synchronization.ofDefinition definition = .error fault ∧
      (Synchronization.ofDefinition definition).map Synchronization.backfill = .error fault) ∧
    (definition.validate = .ok () →
      definition.statement = .ok definition.render ∧
      (∀ source, definition.contentTable = some source →
        let link : Synchronization :=
          ⟨source, definition.name, definition.columns, definition.contentRowId⟩
        Synchronization.ofDefinition definition = .ok link ∧
        (Synchronization.ofDefinition definition).map Synchronization.backfill =
          .ok link.backfill) ∧
      (definition.contentTable = none →
        Synchronization.ofDefinition definition = .error (.noContentTable definition.name) ∧
        (Synchronization.ofDefinition definition).map Synchronization.backfill =
          .error (.noContentTable definition.name))) := by
  refine ⟨validate_eq_ok_iff_holds, fun fault => validate_eq_error_iff_blames,
    fun fault refused => ?_, fun accepted => ⟨?_, fun source given => ?_, fun absent => ?_⟩⟩
  · have unlinked := ofDefinition_of_validate_error refused
    exact ⟨statement_of_validate_error refused, unlinked, by rw [unlinked]; rfl⟩
  · rw [statement, accepted]
    rfl
  · have linked := ofDefinition_of_validate_ok accepted
    rw [given] at linked
    exact ⟨linked, by rw [linked]; rfl⟩
  · have unlinked := ofDefinition_of_validate_ok accepted
    rw [absent] at unlinked
    exact ⟨unlinked, by rw [unlinked]; rfl⟩

/-- The second of two equal columns comes before the column with a blank. -/
example : (Definition.new "notes" ["a", "a", "a b"]).validate = .error (.duplicateColumn "a") := by
  decide

end

end Definition

end SearchIndex
