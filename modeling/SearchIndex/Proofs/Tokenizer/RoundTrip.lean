import SearchIndex.Proofs.Decimal.Digits
import SearchIndex.Proofs.Sql.Quotation
import SearchIndex.Proofs.Text.Reading
import SearchIndex.Tokenizer.Argument

/-!
Contract: a tokenizer is read back from its line of arguments.

Owns: how the arguments of a line begin, bare or quoted; the settings of a tokenizer, which are the
parameters that its kind makes use of; and `decode_encode`, by which reading a written tokenizer
gives its reduced form.

Values are read by position, two arguments at a time. What keeps the positions is that every value
is one argument: a number stands bare, and a text stands in quotes even where it is empty.
-/

namespace SearchIndex.Tokenizer

open Text (Ends ends_nil ends_space)

/-! ### Arguments of a line -/

/-- Whether a text is one argument without quotes. -/
def IsBareArgument (text : List Char) : Prop :=
  text ≠ [] ∧ text.head?.all (fun c => c ∉ ['\'', '"', '\x60', '[']) = true ∧
    text.all (fun c => !Text.isBlank c) = true

instance (text : List Char) : Decidable (IsBareArgument text) := by
  unfold IsBareArgument
  infer_instance

@[simp]
theorem argumentsOf_nil : argumentsOf [] = [] := by
  rw [argumentsOf.eq_def]

theorem argumentsOf_blank {c : Char} (blank : Text.isBlank c = true) (rest : List Char) :
    argumentsOf (c :: rest) = argumentsOf rest := by
  rw [argumentsOf.eq_def]
  simp only [blank, if_true]

@[simp]
theorem argumentsOf_space (rest : List Char) : argumentsOf (' ' :: rest) = argumentsOf rest :=
  argumentsOf_blank (by decide) rest

theorem argumentsOf_visible {c : Char} (visible : Text.isBlank c = false) (rest : List Char) :
    argumentsOf (c :: rest) =
      String.ofList (readArgument c rest).1 :: argumentsOf (readArgument c rest).2 := by
  rw [argumentsOf.eq_def]
  simp only [visible, Bool.false_eq_true, if_false]

/-- A quoted text is one argument, whatever it holds. -/
theorem argumentsOf_quoteArgument (text : String) {rest : List Char} (closes : '\'' ∉ rest.head?) :
    argumentsOf ((quoteArgument text).toList ++ rest) = text :: argumentsOf rest := by
  have read := Sql.readQuoted_doubled '\'' text.toList closes
  rw [quoteArgument, Sql.literal, Sql.toList_quoted_append, argumentsOf_visible (by decide)]
  simp only [readArgument, read, String.ofList_toList]

theorem argumentsOf_bare {text : String} (bare : IsBareArgument text.toList) {rest : List Char}
    (ends : Ends rest) :
    argumentsOf (text.toList ++ rest) = text :: argumentsOf rest := by
  obtain ⟨nonempty, opens, visible⟩ := bare
  obtain ⟨first, others, split⟩ := List.exists_cons_of_ne_nil nonempty
  rw [split, List.all_cons, Bool.and_eq_true, Bool.not_eq_true'] at visible
  have inside : ∀ c ∈ others, (!Text.isBlank c) = true := List.all_eq_true.mp visible.2
  have stop : rest.head?.any (fun c => !Text.isBlank c) = false := ends.fails
  have whole : readArgument first (others ++ rest) = (first :: others, rest) := by
    rw [split] at opens
    unfold readArgument
    split
    · simp at opens
    · simp at opens
    · simp at opens
    · simp at opens
    · rw [Text.takeWhile_append_stop inside stop, Text.dropWhile_append_stop inside stop]
  rw [split, List.cons_append, argumentsOf_visible visible.1, whole, ← split,
    String.ofList_toList]

theorem isBareArgument_natural (n : Nat) : IsBareArgument (Decimal.natural n).toList := by
  obtain ⟨first, others, split, digit, _⟩ := Decimal.exists_toList_natural n
  refine ⟨Decimal.natural_ne_nil n, ?_, ?_⟩
  · rw [split, List.head?_cons, Option.all_some, decide_eq_true_iff]
    intro opens
    have noDigit : ['\'', '"', '\x60', '['].any Char.isDigit = false := by decide
    exact List.any_eq_false.mp noDigit first opens digit
  · refine List.all_eq_true.mpr fun c member => ?_
    rw [Decimal.isBlank_of_isDigit (Decimal.isDigit_of_mem_natural member)]
    rfl

/-! ### Settings -/

/-- A parameter that is written, with its value. -/
inductive Setting where
  | removeDiacritics (value : UInt8)
  | categories (value : String)
  | tokenChars (value : String)
  | separators (value : String)
  | caseSensitive (value : UInt8)
deriving DecidableEq, Repr

namespace Setting

def name : Setting → String
  | removeDiacritics _ => "remove_diacritics"
  | categories _ => "categories"
  | tokenChars _ => "tokenchars"
  | separators _ => "separators"
  | caseSensitive _ => "case_sensitive"

/-- The value as an argument without quotes. -/
def value : Setting → String
  | removeDiacritics value => Decimal.natural value.toNat
  | categories value => value
  | tokenChars value => value
  | separators value => value
  | caseSensitive value => Decimal.natural value.toNat

/-- The value as it is written: a number bare, and a text in quotes. -/
def writtenValue : Setting → String
  | removeDiacritics value => Decimal.natural value.toNat
  | categories value => quoteArgument value
  | tokenChars value => quoteArgument value
  | separators value => quoteArgument value
  | caseSensitive value => Decimal.natural value.toNat

def written (setting : Setting) : String := setting.name ++ " " ++ setting.writtenValue

def arguments (setting : Setting) : List String := [setting.name, setting.value]

def apply (parameters : Parameters) : Setting → Parameters
  | removeDiacritics value => { parameters with removeDiacritics := some value }
  | categories value => { parameters with categories := some value }
  | tokenChars value => { parameters with tokenChars := some value }
  | separators value => { parameters with separators := some value }
  | caseSensitive value => { parameters with caseSensitive := some value }

def names : List String :=
  ["remove_diacritics", "categories", "tokenchars", "separators", "case_sensitive"]

theorem name_mem_names (setting : Setting) : setting.name ∈ names := by
  cases setting <;> simp [name, names]

theorem isBareArgument_name (setting : Setting) : IsBareArgument setting.name.toList := by
  have bare : ∀ name ∈ names, IsBareArgument name.toList := by decide
  exact bare setting.name setting.name_mem_names

/-- No parameter has the name of a kind. -/
theorem ofName?_name (setting : Setting) : Kind.ofName? setting.name = none := by
  have unknown : ∀ name ∈ names, Kind.ofName? name = none := by decide
  exact unknown setting.name setting.name_mem_names

theorem set_arguments (setting : Setting) (parameters : Parameters) :
    parameters.set (setting.name, setting.value) = setting.apply parameters := by
  have small : ∀ name ∈ names, Text.lowered name = name := by decide
  have same := small setting.name setting.name_mem_names
  cases setting with
  | removeDiacritics n =>
      simp only [name] at same
      simp only [Parameters.set, name, value, same, Decimal.byte?_natural, apply]
  | categories text =>
      simp only [name] at same
      simp only [Parameters.set, name, value, same, apply]
  | tokenChars text =>
      simp only [name] at same
      simp only [Parameters.set, name, value, same, apply]
  | separators text =>
      simp only [name] at same
      simp only [Parameters.set, name, value, same, apply]
  | caseSensitive n =>
      simp only [name] at same
      simp only [Parameters.set, name, value, same, Decimal.byte?_natural, apply]

theorem argumentsOf_writtenValue (setting : Setting) {rest : List Char} (ends : Ends rest) :
    argumentsOf (setting.writtenValue.toList ++ rest) = setting.value :: argumentsOf rest := by
  have number (n : UInt8) :
      argumentsOf ((Decimal.natural n.toNat).toList ++ rest) =
        Decimal.natural n.toNat :: argumentsOf rest :=
    argumentsOf_bare (isBareArgument_natural n.toNat) ends
  have text (value : String) :
      argumentsOf ((quoteArgument value).toList ++ rest) = value :: argumentsOf rest :=
    argumentsOf_quoteArgument value (ends.not_mem (by decide))
  cases setting with
  | removeDiacritics value => exact number value
  | categories value => exact text value
  | tokenChars value => exact text value
  | separators value => exact text value
  | caseSensitive value => exact number value

/-- A written setting is read as its name and its value. -/
theorem argumentsOf_written (setting : Setting) {rest : List Char} (ends : Ends rest) :
    argumentsOf (setting.written.toList ++ rest) = setting.arguments ++ argumentsOf rest := by
  have space : (" " : String).toList = [' '] := rfl
  rw [written, String.toList_append, String.toList_append, List.append_assoc, List.append_assoc,
    space, List.singleton_append, argumentsOf_bare setting.isBareArgument_name (ends_space _),
    argumentsOf_space, argumentsOf_writtenValue setting ends]
  rfl

end Setting

/-- The parameters that a kind makes use of, in their fixed order. -/
def Parameters.settings (kind : Kind) (parameters : Parameters) : List Setting :=
  match kind with
  | .trigram => parameters.caseSensitive.toList.map .caseSensitive
  | _ =>
    parameters.removeDiacritics.toList.map .removeDiacritics ++
      parameters.categories.toList.map .categories ++
      parameters.tokenChars.toList.map .tokenChars ++
      parameters.separators.toList.map .separators

theorem Parameters.arguments_eq (kind : Kind) (parameters : Parameters) :
    parameters.arguments kind = (parameters.settings kind).map Setting.written := by
  unfold arguments settings
  cases kind <;> simp only [List.map_append, List.map_map] <;> rfl

def settings (tokenizer : Tokenizer) : List Setting :=
  (tokenizer.parameters.getD .none).settings tokenizer.kind

theorem encode_eq (tokenizer : Tokenizer) :
    tokenizer.encode =
      Text.joined " " (tokenizer.kind.name :: tokenizer.settings.map Setting.written) := by
  unfold encode settings
  rw [← Parameters.arguments_eq]
  cases tokenizer.parameters with
  | none => cases tokenizer.kind <;> rfl
  | some parameters => rfl

theorem isBareArgument_kind (kind : Kind) : IsBareArgument kind.name.toList := by
  cases kind <;> decide

/-- The parts of a line with the arguments that each is read as. -/
def parts (tokenizer : Tokenizer) : List (String × List String) :=
  (tokenizer.kind.name, [tokenizer.kind.name]) ::
    tokenizer.settings.map fun setting => (setting.written, setting.arguments)

theorem argumentsOf_part (tokenizer : Tokenizer) {part : String × List String}
    (member : part ∈ tokenizer.parts) {rest : List Char} (ends : Ends rest) :
    argumentsOf (part.1.toList ++ rest) = part.2 ++ argumentsOf rest := by
  rcases List.mem_cons.mp member with rfl | member
  · exact argumentsOf_bare (isBareArgument_kind tokenizer.kind) ends
  · obtain ⟨setting, _, rfl⟩ := List.mem_map.mp member
    exact setting.argumentsOf_written ends

/-- A written tokenizer is read as its kind, and the name and value of each setting. -/
theorem splitArguments_encode (tokenizer : Tokenizer) :
    splitArguments tokenizer.encode =
      tokenizer.kind.name :: tokenizer.settings.flatMap Setting.arguments := by
  have written :
      tokenizer.kind.name :: tokenizer.settings.map Setting.written =
        tokenizer.parts.map Prod.fst := by
    rw [parts, List.map_cons, List.map_map]
    rfl
  have readBlank (rest : List Char) :
      argumentsOf ((" " : String).toList ++ rest) = [] ++ argumentsOf rest :=
    argumentsOf_space rest
  have read := Text.read_joined Ends " " readBlank ends_space
    (fun _ member _ ends => argumentsOf_part tokenizer member ends) ends_nil
  rw [List.append_nil, argumentsOf_nil, List.append_nil, Text.nil_intercalate] at read
  rw [splitArguments, encode_eq, written, read, parts, List.map_cons, List.map_map,
    List.flatten_cons, ← List.flatMap_def]
  rfl

theorem pairs_flatMap_arguments (settings : List Setting) :
    pairs (settings.flatMap Setting.arguments) =
      settings.map fun setting => (setting.name, setting.value) := by
  induction settings with
  | nil => rfl
  | cons setting settings inductionHypothesis =>
      rw [List.flatMap_cons, List.map_cons, ← inductionHypothesis]
      rfl

theorem takeKind_name (kind : Kind) (arguments : List String) :
    takeKind (kind.name :: arguments) = (kind, arguments) := by
  have known : Kind.ofName? kind.name = some kind := by cases kind <;> decide
  simp only [takeKind, known]

/-- No setting is taken for the kind whose words are stemmed. -/
theorem dropBase_flatMap_arguments (kind : Kind) (settings : List Setting) :
    dropBase kind (settings.flatMap Setting.arguments) = settings.flatMap Setting.arguments := by
  cases settings with
  | nil => cases kind <;> rfl
  | cons setting settings =>
      have unknown := setting.ofName?_name
      rw [List.flatMap_cons, Setting.arguments]
      unfold dropBase
      cases kind <;> simp [unknown]

/-! ### Reduction to what the kind makes use of -/

/-- The parameters that a kind makes use of, with the others left open. -/
def Parameters.carriedBy (kind : Kind) (parameters : Parameters) : Parameters :=
  match kind with
  | .trigram => ⟨.none, .none, .none, .none, parameters.caseSensitive⟩
  | _ => { parameters with caseSensitive := .none }

/-- The tokenizer with only the parameters that its kind makes use of, and without parameters where
none of them is set. -/
def reduced (tokenizer : Tokenizer) : Tokenizer :=
  let carried := (tokenizer.parameters.getD .none).carriedBy tokenizer.kind
  ⟨tokenizer.kind, if carried = ⟨.none, .none, .none, .none, .none⟩ then none else some carried⟩

theorem Parameters.nonEmpty?_eq (parameters : Parameters) :
    parameters.nonEmpty? =
      if parameters = ⟨.none, .none, .none, .none, .none⟩ then .none else some parameters := by
  obtain ⟨removeDiacritics, categories, tokenChars, separators, caseSensitive⟩ := parameters
  cases removeDiacritics <;> cases categories <;> cases tokenChars <;> cases separators <;>
    cases caseSensitive <;> rfl

theorem reduced_eq (tokenizer : Tokenizer) :
    tokenizer.reduced =
      ⟨tokenizer.kind,
        ((tokenizer.parameters.getD .none).carriedBy tokenizer.kind).nonEmpty?⟩ := by
  rw [Parameters.nonEmpty?_eq]
  rfl

theorem Parameters.foldl_apply_settings (kind : Kind) (parameters : Parameters) :
    (parameters.settings kind).foldl Setting.apply .none = parameters.carriedBy kind := by
  obtain ⟨removeDiacritics, categories, tokenChars, separators, caseSensitive⟩ := parameters
  cases kind <;> cases removeDiacritics <;> cases categories <;> cases tokenChars <;>
    cases separators <;> cases caseSensitive <;> rfl

/-- A written tokenizer is read as its reduced form. -/
theorem decode_encode (tokenizer : Tokenizer) : decode tokenizer.encode = tokenizer.reduced := by
  have folded :
      (pairs (tokenizer.settings.flatMap Setting.arguments)).foldl Parameters.set .none =
        (tokenizer.parameters.getD .none).carriedBy tokenizer.kind := by
    rw [pairs_flatMap_arguments, List.foldl_map, ← Parameters.foldl_apply_settings, settings]
    simp only [Setting.set_arguments]
  rw [decode, splitArguments_encode, ofArguments, takeKind_name]
  simp only [dropBase_flatMap_arguments, folded, reduced_eq]

/-- What is left out is not written either. -/
theorem Parameters.settings_carriedBy (kind : Kind) (parameters : Parameters) :
    (parameters.carriedBy kind).settings kind = parameters.settings kind := by
  cases kind <;> rfl

theorem Parameters.getD_nonEmpty? (parameters : Parameters) :
    parameters.nonEmpty?.getD .none = parameters := by
  rw [nonEmpty?_eq]
  split
  · next empty => exact empty.symm
  · rfl

theorem encode_reduced (tokenizer : Tokenizer) : tokenizer.reduced.encode = tokenizer.encode := by
  have same : tokenizer.reduced.settings = tokenizer.settings := by
    rw [settings, reduced_eq, Parameters.getD_nonEmpty?, Parameters.settings_carriedBy]
    rfl
  rw [encode_eq, encode_eq, same]
  rfl

/-- Reading undoes writing up to what the kind makes no use of, and writing what was read from any
line gives a line that stays the same from then on. -/
theorem codec_normalizes :
    (∀ tokenizer : Tokenizer, decode tokenizer.encode = tokenizer.reduced) ∧
      ∀ line : String, (decode (decode line).encode).encode = (decode line).encode := by
  refine ⟨decode_encode, fun line => ?_⟩
  rw [decode_encode, encode_reduced]

end SearchIndex.Tokenizer
