import SearchIndex.Proofs.Sql.Reading
import SearchIndex.Synchronization

/-!
Contract: the tokens of the statements that keep an index in step.

Owns: the tokens of the three triggers and of the backfill, for arbitrary names; that all of them
list the columns in one order, each as one token; and which triggers a drop statement names.

An index takes the values of a row by position. A name that came apart into two tokens, or two
lists in different orders, would move every value behind it into another column.
-/

namespace SearchIndex.Synchronization

open Sql Sql.Token

/-! ### Tokens of columns and rows -/

/-- The columns between commas. -/
def columnTokens (link : Synchronization) : List Token :=
  [.comma].intercalate (link.columns.map fun name => [Token.column name])

/-- The row number and the columns of one side of a change, between commas. -/
def valueTokens (link : Synchronization) (side : String) : List Token :=
  [.comma].intercalate ((link.rowId.getD "rowid" :: link.columns).map fun name =>
    [.word side, .dot, Token.column name])

theorem ofChars_columnList (link : Synchronization) {rest : List Char} (stops : Stops rest) :
    ofChars ((columnList link.columns).toList ++ rest) = link.columnTokens ++ ofChars rest := by
  refine ofChars_joined (fun name _ rest stops => ?_) stops
  exact ofChars_column name (stops.fails (by decide)) (stops.not_mem (by decide))

theorem ofChars_rowValues (link : Synchronization) {side : String} (bare : isBare side = true)
    {rest : List Char} (stops : Stops rest) :
    ofChars ((link.rowValues side).toList ++ rest) = link.valueTokens side ++ ofChars rest := by
  refine ofChars_joined (fun name _ rest stops => ?_) stops
  have dot : ("." : String).toList = ['.'] := rfl
  rw [String.toList_append, String.toList_append, List.append_assoc, List.append_assoc, dot,
    List.singleton_append, ofChars_bare bare rfl, ofChars_dot,
    ofChars_column name (stops.fails (by decide)) (stops.not_mem (by decide))]
  rfl

/-! ### Tokens of the triggers -/

def addRowTokens (link : Synchronization) : List Token :=
  [.word "INSERT", .word "INTO", .quoted link.index, .leftParen, .word "rowid", .comma] ++
    link.columnTokens ++ [.rightParen, .word "VALUES", .leftParen] ++
    link.valueTokens "new" ++ [.rightParen, .semicolon]

def removeRowTokens (link : Synchronization) : List Token :=
  [.word "INSERT", .word "INTO", .quoted link.index, .leftParen, .quoted link.index, .comma,
    .word "rowid", .comma] ++
    link.columnTokens ++ [.rightParen, .word "VALUES", .leftParen, .string "delete", .comma] ++
    link.valueTokens "old" ++ [.rightParen, .semicolon]

/-- What a trigger does. -/
def bodyTokens (link : Synchronization) : Event → List Token
  | .insert => link.addRowTokens
  | .delete => link.removeRowTokens
  | .update => link.removeRowTokens ++ link.addRowTokens

/-- A trigger with a name, for a kind of change. -/
def triggerTokens (link : Synchronization) (name keyword : String) (body : List Token) :
    List Token :=
  [.word "CREATE", .word "TRIGGER", .quoted name, .word "AFTER", .word keyword, .word "ON",
    .quoted link.source, .word "BEGIN"] ++ body ++ [.word "END", .semicolon]

theorem ofChars_addRow (link : Synchronization) (rest : List Char) :
    ofChars (link.addRow.toList ++ rest) = link.addRowTokens ++ ofChars rest := by
  have values {rest : List Char} (stops : Stops rest) :=
    link.ofChars_rowValues (by decide : isBare "new" = true) stops
  unfold addRow addRowTokens
  simp [ofChars_identifier, ofChars_columnList, values, isStop, ofChars_wordChar, isWordChar,
    Text.isAlphanumeric, Char.isDigit]

theorem ofChars_removeRow (link : Synchronization) (rest : List Char) :
    ofChars (link.removeRow.toList ++ rest) = link.removeRowTokens ++ ofChars rest := by
  have values {rest : List Char} (stops : Stops rest) :=
    link.ofChars_rowValues (by decide : isBare "old" = true) stops
  unfold removeRow removeRowTokens
  simp [ofChars_identifier, ofChars_columnList, values, isStop, ofChars_wordChar, isWordChar,
    Text.isAlphanumeric, Char.isDigit, ofChars_singleQuote, readQuoted]

theorem ofChars_body (link : Synchronization) (event : Event) (rest : List Char) :
    ofChars ((link.body event).toList ++ rest) = link.bodyTokens event ++ ofChars rest := by
  cases event with
  | insert => exact link.ofChars_addRow rest
  | delete => exact link.ofChars_removeRow rest
  | update =>
      have space : (" " : String).toList = [' '] := rfl
      unfold body bodyTokens
      rw [String.toList_append, String.toList_append, List.append_assoc, List.append_assoc, space,
        ofChars_removeRow, List.singleton_append, ofChars_space, ofChars_addRow,
        List.append_assoc]

/-- A trigger is one statement, whatever the names of the index, the source and the columns. -/
theorem scan_trigger (link : Synchronization) (event : Event) :
    Token.scan (link.trigger event).sql =
      link.triggerTokens (triggerName link.index event) event.keyword (link.bodyTokens event) := by
  have keyword (rest : List Char) :
      ofChars (event.keyword.toList ++ ' ' :: rest) = .word event.keyword :: ofChars rest := by
    rw [ofChars_bare (by cases event <;> decide) rfl, ofChars_space]
  unfold Token.scan trigger triggerTokens
  simp [ofChars_identifier, ofChars_body, keyword, ofChars_wordChar, isWordChar,
    Text.isAlphanumeric, Char.isDigit]

/-! ### The backfill -/

/-- The statement that copies the rows that are there already. -/
def backfillTokens (link : Synchronization) : List Token :=
  [.word "INSERT", .word "INTO", .quoted link.index, .leftParen, .word "rowid", .comma] ++
    link.columnTokens ++
    [.rightParen, .word "SELECT", Token.column (link.rowId.getD "rowid"), .comma] ++
    link.columnTokens ++ [.word "FROM", .quoted link.source, .semicolon]

theorem scan_backfill (link : Synchronization) :
    Token.scan link.backfill = link.backfillTokens := by
  unfold Token.scan backfill copyRows rowColumn rowNumber backfillTokens
  simp [ofChars_identifier, ofChars_columnList, ofChars_column, isStop, ofChars_wordChar,
    isWordChar, Text.isAlphanumeric, Char.isDigit]

theorem eq_of_ofDefinition {definition : Definition} {link : Synchronization}
    (made : ofDefinition definition = .ok link) :
    definition.contentTable = some link.source ∧ link.index = definition.name ∧
      link.columns = definition.columns ∧ link.rowId = definition.contentRowId := by
  unfold ofDefinition at made
  cases valid : definition.validate with
  | error fault =>
      rw [valid] at made
      contradiction
  | ok _ =>
      rw [valid] at made
      cases content : definition.contentTable with
      | none =>
          rw [content] at made
          contradiction
      | some source =>
          rw [content] at made
          cases made
          exact ⟨rfl, rfl, rfl, rfl⟩

/-! ### Names of triggers -/

theorem length_ending (event : Event) : event.ending.toList.length = 3 := by
  cases event <;> rfl

theorem triggerName_inj {index other : String} {event change : Event} :
    triggerName index event = triggerName other change ↔ index = other ∧ event = change := by
  constructor
  · intro same
    have characters := congrArg String.toList same
    unfold triggerName at characters
    rw [String.toList_append, String.toList_append] at characters
    obtain ⟨names, endings⟩ := List.append_inj' characters
      (by rw [length_ending, length_ending])
    refine ⟨String.toList_inj.mp names, ?_⟩
    revert endings
    cases event <;> cases change <;> decide
  · rintro ⟨rfl, rfl⟩
    rfl

theorem scan_dropTrigger (index : String) (event : Event) :
    Token.scan (dropTrigger index event) =
      [.word "DROP", .word "TRIGGER", .word "IF", .word "EXISTS",
        .quoted (triggerName index event), .semicolon] := by
  unfold Token.scan dropTrigger
  simp [ofChars_identifier, ofChars_wordChar, isWordChar, Text.isAlphanumeric, Char.isDigit]

theorem scan_dropIndex (index : String) :
    Token.scan (dropIndex index) =
      [.word "DROP", .word "TABLE", .word "IF", .word "EXISTS", .quoted index, .semicolon] := by
  unfold Token.scan dropIndex
  simp [ofChars_identifier, ofChars_wordChar, isWordChar, Text.isAlphanumeric, Char.isDigit]

/-- A statement that drops a trigger of one index names no trigger of another one. -/
theorem not_mem_scan_dropTriggers {index other statement : String} (different : other ≠ index)
    (member : statement ∈ dropTriggers other) (event : Event) :
    .quoted (triggerName index event) ∉ Token.scan statement := by
  obtain ⟨change, _, rfl⟩ := List.mem_map.mp member
  rw [scan_dropTrigger]
  intro named
  have same : triggerName index event = triggerName other change := by simpa using named
  exact different (triggerName_inj.mp same).1.symm

/-! ### Alignment -/

/-- For arbitrary names of the index, the source, the columns and the row number, the triggers and
the backfill read as their fixed statements, with one token for each name and the same columns in
the same order on both sides. The drop statements of an index name its own triggers and those of no
other index. -/
theorem triggers_aligned (link : Synchronization) :
    link.triggers.map (fun trigger => (trigger.name, Token.scan trigger.sql)) =
        [(link.index ++ "_ai",
            link.triggerTokens (link.index ++ "_ai") "INSERT" link.addRowTokens),
          (link.index ++ "_ad",
            link.triggerTokens (link.index ++ "_ad") "DELETE" link.removeRowTokens),
          (link.index ++ "_au",
            link.triggerTokens (link.index ++ "_au") "UPDATE"
              (link.removeRowTokens ++ link.addRowTokens))] ∧
      (∀ name, (Token.column name).name? = some name) ∧
      (∀ definition, ofDefinition definition = .ok link →
        (ofDefinition definition).map (fun made => Token.scan made.backfill) =
            .ok link.backfillTokens ∧
          definition.contentTable = some link.source ∧ link.index = definition.name ∧
          link.columns = definition.columns ∧ link.rowId = definition.contentRowId) ∧
      (dropTriggers link.index).map Token.scan =
        link.triggers.map (fun trigger =>
          [.word "DROP", .word "TRIGGER", .word "IF", .word "EXISTS", .quoted trigger.name,
            .semicolon]) ∧
      ∀ other, other ≠ link.index → ∀ statement ∈ dropTriggers other,
        ∀ trigger ∈ link.triggers, .quoted trigger.name ∉ Token.scan statement := by
  refine ⟨?_, name?_column, ?_, ?_, ?_⟩
  · simp only [triggers, Event.all, List.map_cons, List.map_nil, scan_trigger]
    rfl
  · intro definition made
    refine ⟨?_, eq_of_ofDefinition made⟩
    rw [made, Except.map, scan_backfill]
  · simp only [dropTriggers, triggers, List.map_map]
    exact List.map_congr_left fun event _ => scan_dropTrigger link.index event
  · intro other different statement member trigger own
    obtain ⟨event, _, rfl⟩ := List.mem_map.mp own
    exact not_mem_scan_dropTriggers different member event

/-- An index whose name would close its quotes and open a comment. -/
def hostileDefinition : Definition where
  name := "notes\"; --"
  columns := ["order", "_x"]
  tokenizer := .standard
  prefixIndex := none
  contentTable := some "pages"
  contentRowId := some "id"
  unindexed := []

theorem triggers_aligned_hostile :
    ∃ link, ofDefinition hostileDefinition = .ok link ∧ "notes" ≠ link.index ∧
      (ofDefinition hostileDefinition).map (fun made => Token.scan made.backfill) =
        .ok link.backfillTokens ∧
      link.columns = ["order", "_x"] ∧ link.rowId = some "id" ∧
      ∀ statement ∈ dropTriggers "notes", ∀ trigger ∈ link.triggers,
        .quoted trigger.name ∉ Token.scan statement := by
  let link : Synchronization := ⟨"pages", "notes\"; --", ["order", "_x"], some "id"⟩
  have made : ofDefinition hostileDefinition = .ok link := rfl
  have different : "notes" ≠ link.index := by decide
  obtain ⟨_, _, parts, _, others⟩ := triggers_aligned link
  obtain ⟨backfill, _, _, columns, rowId⟩ := parts hostileDefinition made
  exact ⟨link, made, different, backfill, columns, rowId, others "notes" different⟩

end SearchIndex.Synchronization
