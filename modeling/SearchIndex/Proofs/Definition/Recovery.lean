import SearchIndex.Definition.Recovery
import SearchIndex.Proofs.Definition.Rules
import SearchIndex.Proofs.Text.Named

/-!
Contract: what is recovered of any statement, and on what it depends.

Owns: `ArgumentFacts.told`, what arguments tell, said by the columns among them and by the values
of each option, with `ofArguments_eq_told`; `SameOrder`, that two lists of arguments have the same
columns and the same values of each option in the same order, and `Moves`, one option moved behind
arguments that are no options with its key; `Recovered.Coherent`; and `recovered_in_order`.

The arguments are read one after another, and each is added to what those before it told. The order
in which an option and a column, or options with different keys, are added makes no difference, as
they are added to different parts.
-/

namespace SearchIndex

namespace Sql.ModuleArgument

/-- The column that an argument writes, and whether it is marked as not indexed. -/
def column? : ModuleArgument → Option (String × Bool)
  | .column name unindexed => some (name, unindexed)
  | .option _ _ => none

/-- The key and the value of an argument that is an option. -/
def option? : ModuleArgument → Option (String × String)
  | .column _ _ => none
  | .option key value => some (key, value)

end Sql.ModuleArgument

namespace Definition

open Sql (ModuleArgument VirtualTable)
open Text (valuesOf)

/-! ### Columns and options in order -/

/-- The columns among some arguments. -/
def columnsIn (arguments : List ModuleArgument) : List (String × Bool) :=
  arguments.filterMap ModuleArgument.column?

/-- The options among some arguments. -/
def optionsIn (arguments : List ModuleArgument) : List (String × String) :=
  arguments.filterMap ModuleArgument.option?

section Order

variable (left right : List ModuleArgument)

@[simp]
theorem columnsIn_nil : columnsIn [] = [] := rfl

@[simp]
theorem optionsIn_nil : optionsIn [] = [] := rfl

@[simp]
theorem columnsIn_append : columnsIn (left ++ right) = columnsIn left ++ columnsIn right :=
  List.filterMap_append

@[simp]
theorem optionsIn_append : optionsIn (left ++ right) = optionsIn left ++ optionsIn right :=
  List.filterMap_append

section Column

variable (name : String) (unindexed : Bool)

@[simp]
theorem columnsIn_column :
    columnsIn (.column name unindexed :: right) = (name, unindexed) :: columnsIn right := rfl

@[simp]
theorem optionsIn_column : optionsIn (.column name unindexed :: right) = optionsIn right := rfl

end Column

section Option

variable (key value : String)

@[simp]
theorem columnsIn_option : columnsIn (.option key value :: right) = columnsIn right := rfl

@[simp]
theorem optionsIn_option :
    optionsIn (.option key value :: right) = (key, value) :: optionsIn right := rfl

end Option

end Order

/-- Two lists of arguments have the same columns, and the same values of the options with each key,
in the same order. -/
structure SameOrder (left right : List ModuleArgument) : Prop where
  columns : columnsIn left = columnsIn right
  values : ∀ key, valuesOf (optionsIn left) key = valuesOf (optionsIn right) key

/-- An option moves behind arguments that are columns or options with other keys. -/
inductive Moves : List ModuleArgument → List ModuleArgument → Prop where
  | intro {before passed after : List ModuleArgument} {key value : String}
      (apart : ∀ option ∈ optionsIn passed, Text.lowered option.1 ≠ Text.lowered key) :
      Moves (before ++ .option key value :: (passed ++ after))
        (before ++ (passed ++ .option key value :: after))

theorem Moves.sameOrder {left right : List ModuleArgument} (moves : Moves left right) :
    SameOrder left right := by
  obtain @⟨before, passed, after, key, value, apart⟩ := moves
  refine ⟨by simp, fun name => ?_⟩
  by_cases same : Text.lowered key = name
  · -- No option with this key is passed.
    have none : valuesOf (optionsIn passed) name = [] :=
      Text.valuesOf_eq_nil name fun option member => same ▸ apart option member
    simp [none]
  · simp [same]

/-! ### What arguments tell -/

namespace ArgumentFacts

/-- What arguments tell: all columns and all lengths of beginnings, and the last value of every
other option. -/
def told (arguments : List ModuleArgument) : ArgumentFacts where
  columns := (columnsIn arguments).map Prod.fst
  unindexed := ((columnsIn arguments).filter Prod.snd).map Prod.fst
  tokenizer := (valuesOf (optionsIn arguments) "tokenize").getLast?.map Tokenizer.decode
  lengths := (valuesOf (optionsIn arguments) "prefix").flatMap lengthsOf
  contentTable := (valuesOf (optionsIn arguments) "content").getLast?
  contentRowId := (valuesOf (optionsIn arguments) "content_rowid").getLast?

section Told

variable (arguments : List ModuleArgument)

theorem add_told_column (name : String) (unindexed : Bool) :
    (told arguments).add (.column name unindexed) =
      told (arguments ++ [.column name unindexed]) := by
  cases unindexed <;> simp [told, add]

/-- An option adds to the part that its key names, and to no other part. -/
theorem add_told_option (key value : String) :
    (told arguments).add (.option key value) = told (arguments ++ [.option key value]) := by
  unfold add addOption
  dsimp only
  split
  · next same => simp [told, same]
  · next same => simp [told, same]
  · next same => simp [told, same]
  · next same => simp [told, same]
  · next tokenize lengths content rowId =>
      simp [told, if_neg tokenize, if_neg lengths, if_neg content, if_neg rowId]

theorem ofArguments_eq_told : ofArguments arguments = told arguments := by
  have further (items : List ModuleArgument) (item : ModuleArgument) :
      (told items).add item = told (items ++ [item]) := by
    cases item with
    | column name unindexed => exact add_told_column items name unindexed
    | option key value => exact add_told_option items key value
  exact Text.foldl_eq_of_append rfl further arguments

end Told

theorem ofArguments_congr {left right : List ModuleArgument} (same : SameOrder left right) :
    ofArguments left = ofArguments right := by
  rw [ofArguments_eq_told, ofArguments_eq_told, told, told, same.columns]
  simp only [same.values]

theorem unindexed_sublist (arguments : List ModuleArgument) :
    (ofArguments arguments).unindexed.Sublist (ofArguments arguments).columns := by
  rw [ofArguments_eq_told]
  exact List.filter_sublist.map Prod.fst

end ArgumentFacts

/-! ### Coherence -/

namespace Recovered

/-- Parts that are known hold something, and the columns that are not indexed are some of the
columns, in their order. -/
structure Coherent (recovered : Recovered) : Prop where
  columns : ∀ columns, recovered.columns = some columns → columns ≠ []
  unindexed : ∀ unindexed, recovered.unindexed = some unindexed →
    unindexed ≠ [] ∧ ∃ columns, recovered.columns = some columns ∧ unindexed.Sublist columns
  prefixIndex : ∀ index, recovered.prefixIndex = some index →
    index.enabled = true ∧ index.lengths ≠ []

theorem nonEmpty?_eq_some_iff {α : Type} {list items : List α} :
    nonEmpty? list = some items ↔ items = list ∧ items ≠ [] := by
  unfold nonEmpty?
  cases list with
  | nil => simp
  | cons first others =>
      constructor
      · rintro ⟨⟩
        simp
      · rintro ⟨rfl, _⟩
        rfl

theorem coherent_ofFacts {facts : ArgumentFacts} (name : Option String)
    (sublist : facts.unindexed.Sublist facts.columns) : (ofFacts name facts).Coherent where
  columns := fun columns known => (nonEmpty?_eq_some_iff.mp known).2
  unindexed := fun unindexed known => by
    obtain ⟨rfl, nonempty⟩ := nonEmpty?_eq_some_iff.mp known
    have some' : facts.columns ≠ [] := fun empty =>
      nonempty (List.sublist_nil.mp (empty ▸ sublist))
    exact ⟨nonempty, facts.columns, nonEmpty?_eq_some_iff.mpr ⟨rfl, some'⟩, sublist⟩
  prefixIndex := fun index known => by
    obtain ⟨lengths, found, rfl⟩ := Option.map_eq_some_iff.mp known
    exact ⟨rfl, (nonEmpty?_eq_some_iff.mp found).2⟩

section Complete

variable {recovered : Recovered} {definition : Definition}

theorem parts_of_complete (complete : recovered.complete? = some definition) :
    recovered.columns = some definition.columns ∧
      definition.unindexed = recovered.unindexed.getD [] := by
  unfold complete? at complete
  split at complete
  · next name columns _ known =>
      obtain rfl := Option.some.inj complete
      exact ⟨known, rfl⟩
  · contradiction

theorem Coherent.holds_someColumn (coherent : recovered.Coherent)
    (complete : recovered.complete? = some definition) : Rule.someColumn.Holds definition :=
  coherent.columns _ (parts_of_complete complete).1

theorem Coherent.holds_unindexed (coherent : recovered.Coherent)
    (complete : recovered.complete? = some definition) : Rule.unindexed.Holds definition := by
  obtain ⟨known, unindexed⟩ := parts_of_complete complete
  rw [Rule.Holds, unindexed]
  cases marked : recovered.unindexed with
  | none => exact List.nil_subset _
  | some names =>
      obtain ⟨_, columns, found, sublist⟩ := coherent.unindexed names marked
      obtain rfl := Option.some.inj (known.symm.trans found)
      exact sublist.subset

end Complete

end Recovered

/-- A rule that is kept is not what a definition is refused for. -/
theorem validate_ne_error {definition : Definition} {rule : Rule} {fault : DefinitionError}
    (holds : rule.Holds definition)
    (only : ∀ other : Rule, other.Blames definition fault → other = rule) :
    definition.validate ≠ .error fault := by
  intro refused
  obtain ⟨other, first, blames⟩ := validate_eq_error_iff_blames.mp refused
  obtain rfl := only other blames
  exact first.fails holds

/-! ### Statements -/

namespace Recovered

theorem eq_of_ofStatement? {sql : String} {recovered : Recovered}
    (read : ofStatement? sql = some recovered) :
    recovered = ofVirtualTable (VirtualTable.parse sql) := by
  unfold ofStatement? at read
  split at read
  · exact (Option.some.inj read).symm
  · contradiction

/-- Of two tables with the same name the same is recovered if their arguments tell the same. -/
theorem ofVirtualTable_congr {left right : VirtualTable}
    {arguments arguments' : List ModuleArgument}
    (name : (ofVirtualTable left).name = (ofVirtualTable right).name)
    (leftArguments : left.arguments = .ok arguments)
    (rightArguments : right.arguments = .ok arguments')
    (same : SameOrder arguments arguments') : ofVirtualTable left = ofVirtualTable right := by
  have names : left.head.toOption.map Sql.Head.name = right.head.toOption.map Sql.Head.name := name
  have facts : ArgumentFacts.ofArguments arguments = .ofArguments arguments' :=
    ArgumentFacts.ofArguments_congr same
  unfold ofVirtualTable
  rw [names, leftArguments, rightArguments]
  exact congrArg (ofFacts _) facts

end Recovered

/-- What is recovered of a statement is coherent, so that a definition of it is never refused for
its number of columns or for a column that is not indexed. It depends on the arguments of the module
by no more than the order of the columns and that of the values of each option: moving an option
behind columns and other options changes nothing. -/
theorem recovered_in_order {sql : String} {recovered : Recovered}
    (read : Recovered.ofStatement? sql = some recovered) :
    recovered.Coherent ∧
    (∀ definition, recovered.complete? = some definition →
      definition.validate ≠ .error .noColumns ∧
      ∀ column, definition.validate ≠ .error (.unindexedNotAColumn column)) ∧
    ∀ (other : String) (recovered' : Recovered) (arguments arguments' : List ModuleArgument),
      Recovered.ofStatement? other = some recovered' → recovered'.name = recovered.name →
        (VirtualTable.parse sql).arguments = .ok arguments →
          (VirtualTable.parse other).arguments = .ok arguments' →
            SameOrder arguments arguments' ∨ Moves arguments arguments' →
              recovered' = recovered := by
  have parts := Recovered.eq_of_ofStatement? read
  have coherent : recovered.Coherent := by
    rw [parts]
    exact Recovered.coherent_ofFacts _ (ArgumentFacts.unindexed_sublist _)
  refine ⟨coherent, fun definition complete => ⟨?_, fun column => ?_⟩, ?_⟩
  · refine validate_ne_error (coherent.holds_someColumn complete) fun other blames => ?_
    cases blames
    rfl
  · refine validate_ne_error (coherent.holds_unindexed complete) fun other blames => ?_
    cases blames
    rfl
  · intro other recovered' arguments arguments' otherRead name written otherWritten order
    have same : SameOrder arguments arguments' := order.elim id Moves.sameOrder
    have otherParts := Recovered.eq_of_ofStatement? otherRead
    rw [parts, otherParts] at name ⊢
    exact (Recovered.ofVirtualTable_congr name.symm written otherWritten same).symm

/-- Repeated columns and options, the options with capital letters among them. -/
def scattered : String :=
  "create virtual table t using fts5(a, Prefix='2 x', b unindexed, " ++
    "content='p', prefix=3, b, CONTENT=q)"

/-- The same with the first option moved behind a column and another option. -/
def gathered : String :=
  "create virtual table t using fts5(a, b unindexed, content='p', " ++
    "Prefix='2 x', prefix=3, b, CONTENT=q)"

def scatteredParts : Recovered where
  name := some "t"
  columns := some ["a", "b", "b"]
  tokenizer := none
  prefixIndex := some ⟨true, [2, 3]⟩
  contentTable := some "q"
  contentRowId := none
  unindexed := some ["b"]

theorem recovered_in_order_scattered :
    Recovered.ofStatement? scattered = some scatteredParts ∧ scatteredParts.Coherent ∧
      (∃ definition, scatteredParts.complete? = some definition ∧
        definition.validate = .error (.duplicateColumn "b") ∧
        definition.validate ≠ .error .noColumns) ∧
      Recovered.ofStatement? gathered = some scatteredParts := by
  have read : Recovered.ofStatement? scattered = some scatteredParts := by decide +kernel
  have named : (Recovered.ofStatement? gathered).map Recovered.name = some (some "t") := by
    decide +kernel
  obtain ⟨coherent, refused, order⟩ := recovered_in_order read
  obtain ⟨recovered, otherRead, name⟩ := Option.map_eq_some_iff.mp named
  refine ⟨read, coherent, ⟨_, rfl, by decide +kernel, (refused _ rfl).1⟩, ?_⟩
  let before : List ModuleArgument := [.column "a" false]
  let passed : List ModuleArgument := [.column "b" true, .option "content" "p"]
  let after : List ModuleArgument :=
    [.option "prefix" "3", .column "b" false, .option "CONTENT" "q"]
  have written : (VirtualTable.parse scattered).arguments =
      .ok (before ++ .option "Prefix" "2 x" :: (passed ++ after)) := by decide +kernel
  have otherWritten : (VirtualTable.parse gathered).arguments =
      .ok (before ++ (passed ++ .option "Prefix" "2 x" :: after)) := by decide +kernel
  have apart : ∀ option ∈ optionsIn passed, Text.lowered option.1 ≠ Text.lowered "Prefix" := by
    decide
  rw [otherRead, order gathered recovered _ _ otherRead name written otherWritten
    (.inr (.intro apart))]

end Definition

end SearchIndex
