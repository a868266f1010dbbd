import SearchIndex.DefinitionSet
import SearchIndex.Proofs.Document.Record
import SearchIndex.Proofs.Json.Record

/-!
Contract: which tokenizer a definition gets that names none.

Owns: `Definition.TakenFrom` and `Bundle.TakenFrom`, what is loaded from a document for a default
kind of tokenizer; `Json.reached`, the kind that gets into a document; and `load_iff_takenFrom`, by
which loading takes exactly this from the document of a file.

The default is put into objects only, before they are read. A list that stands for a record has no
member to be added, so the standard kind stays what its record starts from.
-/

namespace SearchIndex

open Json

/-! ### What a document leaves open -/

/-- Whether a document names a tokenizer: as a member, or as the third item of a list. -/
def Json.givesTokenizer : Json → Bool
  | .object members => members.any fun member => member.1 == "tokenizer"
  | .array items => decide (2 < items.length)
  | _ => false

/-- The kind of tokenizer that a default becomes inside a document. -/
def Json.reached (document : Json) (kind : Tokenizer.Kind) : Tokenizer.Kind :=
  match document with
  | .object _ => kind
  | _ => .unicode61

/-- The items of a list. -/
def Json.items : Json → List Json
  | .array items => items
  | _ => []

/-- No two members of an object have one name. -/
def Json.NamesOnce : Json → Prop
  | .object members => (members.map Prod.fst).Nodup
  | _ => True

namespace Definition

/-- A definition with a plain tokenizer of a kind where its document names none. -/
def completed (own : Definition) (document : Json) (kind : Tokenizer.Kind) : Definition :=
  if document.givesTokenizer then own else own.withTokenizer (.plain kind)

/-- A definition is the one that a document gives by itself, but for a tokenizer that the document
does not name, which is a plain one of the default kind. -/
def TakenFrom (definition : Definition) (document : Json) (kind : Tokenizer.Kind) : Prop :=
  ∃ own, ofJson document = .ok own ∧ definition = own.completed document kind

end Definition

namespace Bundle

/-- The documents of the definitions in the document of a bundle. -/
def items : Json → List Json
  | .object members => (((Json.object members).member? "definitions").map Json.items).getD []
  | .array parts => (parts[2]?.map Json.items).getD []
  | _ => []

/-- A bundle is the one that a document gives by itself, but for the tokenizers that its
definitions do not name. -/
def TakenFrom (bundle : Bundle) (document : Json) (kind : Tokenizer.Kind) : Prop :=
  ∃ own, ofJson document = .ok own ∧ bundle.version = own.version ∧
    bundle.generatedAt = own.generatedAt ∧
    List.Forall₂ (fun item definition => definition.TakenFrom item (item.reached kind))
      (items document) bundle.definitions

end Bundle

/-! ### Definitions -/

namespace Definition

variable {definition own : Definition} {document : Json} {kind : Tokenizer.Kind}

/-- Only one field sets the tokenizer, and what the others set does not depend on it. -/
theorem of_other_field {field : Field Json Definition} (member : field ∈ record.fields)
    (other : field.name ≠ "tokenizer") :
    field.Keeps tokenizer ∧ ∀ kind document,
      field.Carries (fun draft => draft.withTokenizer (.plain kind)) document document := by
  simp only [record, List.mem_cons, List.not_mem_nil, or_false] at member
  rcases member with rfl | rfl | rfl | rfl | rfl | rfl | rfl
  case inr.inr.inl => contradiction
  all_goals
    refine ⟨Field.keeps_part fun _ _ => rfl, fun kind document => ?_⟩
    exact Field.carries_self document fun _ _ => rfl

theorem not_mem_of_lacks {members : List (String × Json)}
    (lacks : (Json.object members).givesTokenizer = false) :
    "tokenizer" ∉ members.map Prod.fst := by
  intro inside
  obtain ⟨member, belongs, named⟩ := List.mem_map.mp inside
  have different := List.any_eq_false.mp lacks member belongs
  simp [named] at different

/-- A document that names no tokenizer is read with the standard one. -/
theorem tokenizer_of_ofJson (lacks : document.givesTokenizer = false)
    (read : ofJson document = .ok own) : own.tokenizer = .standard := by
  cases document with
  | object members =>
      refine Record.view_of_readNamed (fun field belongs inside _ => ?_) read
      exact (of_other_field belongs fun named => not_mem_of_lacks lacks (named ▸ inside)).1
  | array items =>
      refine Record.view_of_readPositional (fun field inside => ?_) read
      have short : items.length ≤ 2 := by simpa [givesTokenizer] using lacks
      have early : field ∈ record.fields.take 2 :=
        (List.take_prefix_take_left short).subset inside
      refine (of_other_field (List.mem_of_mem_take early) fun named => ?_).1
      simp only [record, List.take_succ_cons, List.take_zero, List.mem_cons, List.not_mem_nil,
        or_false] at early
      rcases early with rfl | rfl
      · contradiction
      · contradiction
  | _ => contradiction

/-- The standard tokenizer is what a document leaves open by itself. -/
theorem completed_standard (read : ofJson document = .ok own) :
    own.completed document .unicode61 = own := by
  rw [completed]
  split
  · rfl
  · next lacks =>
      have standard := tokenizer_of_ofJson (by simpa using lacks) read
      exact congrArg own.withTokenizer standard.symm

/-- The default reaches an object that names no tokenizer; it changes nothing else. -/
theorem ofJson_withTokenizer (document : Json) (kind : Tokenizer.Kind) :
    ofJson (document.withTokenizer kind) =
      (ofJson document).map fun own => own.completed document (document.reached kind) := by
  cases document with
  | object members =>
      cases gives : (Json.object members).givesTokenizer with
      | true =>
          have same : (Json.object members).withTokenizer kind = .object members := if_pos gives
          rw [same]
          exact (map_eq_self fun own _ => if_pos gives).symm
      | false =>
          have put : (Json.object members).withTokenizer kind =
              .object (NameMap.put "tokenizer" (Tokenizer.plain kind).toJson members) :=
            if_neg (Bool.eq_false_iff.mp gives)
          have change : (fun own : Definition => own.completed (.object members) kind) =
              fun own => own.withTokenizer (.plain kind) :=
            funext fun own => if_neg (Bool.eq_false_iff.mp gives)
          rw [put, reached, change]
          refine Record.readNamed_put rfl (by simp [record]) (fun draft => ?_)
            (fun other belongs different => (of_other_field belongs different).2 kind)
            List.not_mem_nil (not_mem_of_lacks gives)
          cases kind <;> rfl
  | array items => exact (map_eq_self fun own read => completed_standard read).symm
  | _ => rfl

/-- With the default put into its document, a definition is read that is taken from the
document. -/
theorem takenFrom_iff : ofJson (document.withTokenizer kind) = .ok definition ↔
    definition.TakenFrom document (document.reached kind) := by
  rw [ofJson_withTokenizer, TakenFrom]
  cases ofJson document with
  | error fault => simp [Except.map]
  | ok own => simp [Except.map, eq_comm]

end Definition

/-! ### Bundles -/

namespace Bundle

variable {bundle own : Bundle} {document : Json} {members : List (String × Json)}
  {kind : Tokenizer.Kind} {list : List Json} {owns loaded : List Definition}

/-- Definitions with plain tokenizers of a kind where their documents name none. -/
def completed (list : List Json) (kind : Tokenizer.Kind) (owns : List Definition) :
    List Definition :=
  List.zipWith (fun item own => own.completed item (item.reached kind)) list owns

/-- A bundle with its definitions completed. -/
def complete (document : Json) (kind : Tokenizer.Kind) (own : Bundle) : Bundle :=
  { own with definitions := completed (items document) kind own.definitions }

/-- Gives a kind of tokenizer to the items of a list. -/
def giveTokenizers (kind : Tokenizer.Kind) : Json → Json
  | .array list => .array (list.map fun item => item.withTokenizer kind)
  | document => document

/-- Items are completed one by one, whether they become definitions or not. -/
theorem asList_giveTokenizers (document : Json) (kind : Tokenizer.Kind) :
    (giveTokenizers kind document).asList Definition.ofJson =
      (document.asList Definition.ofJson).map (completed document.items kind) := by
  cases document with
  | array list =>
      change (list.map fun item => item.withTokenizer kind).mapM Definition.ofJson =
        (list.mapM Definition.ofJson).map (completed list kind)
      induction list with
      | nil => rfl
      | cons item list inductionHypothesis =>
          rw [List.map_cons, List.mapM_cons, List.mapM_cons, inductionHypothesis,
            Definition.ofJson_withTokenizer]
          cases Definition.ofJson item with
          | error fault => rfl
          | ok own => cases list.mapM Definition.ofJson <;> rfl
  | _ => rfl

/-- Definitions that are taken from a list of documents are those that the documents give by
themselves, completed. -/
theorem forall₂_takenFrom_iff
    (read : List.Forall₂ (fun item own => Definition.ofJson item = .ok own) list owns) :
    List.Forall₂ (fun item definition => definition.TakenFrom item (item.reached kind)) list
        loaded ↔ loaded = completed list kind owns := by
  induction read generalizing loaded with
  | nil => simp [completed]
  | @cons item own list owns first others inductionHypothesis =>
      rw [List.forall₂_cons_left_iff]
      constructor
      · rintro ⟨definition, further, ⟨same, again, rfl⟩, rest, rfl⟩
        obtain rfl := Except.ok.inj (again.symm.trans first)
        rw [inductionHypothesis.mp rest]
        rfl
      · rintro rfl
        exact ⟨_, _, ⟨own, first, rfl⟩, inductionHypothesis.mpr rfl, rfl⟩

theorem completed_standard
    (read : List.Forall₂ (fun item own => Definition.ofJson item = .ok own) list owns) :
    completed list .unicode61 owns = owns := by
  induction read with
  | nil => rfl
  | @cons item own list owns first others inductionHypothesis =>
      have standard : item.reached .unicode61 = .unicode61 := by cases item <;> rfl
      rw [completed, List.zipWith_cons_cons, standard, Definition.completed_standard first]
      exact congrArg (own :: ·) inductionHypothesis

/-- The field that sets the definitions. -/
def listField : Field Json Bundle where
  name := "definitions"
  required := true
  read := fun draft document => do
    .ok { draft with definitions := ← document.asList Definition.ofJson }

theorem fieldOf?_definitions : Record.fieldOf? record.fields "definitions" = some listField := rfl

theorem shows_listField : listField.Shows definitions (Json.asList Definition.ofJson) :=
  Field.shows_part fun _ _ => rfl

/-- What the other fields set does not depend on the definitions. -/
theorem of_other_field {field : Field Json Bundle} (member : field ∈ record.fields)
    (other : field.name ≠ "definitions") :
    field.Keeps definitions ∧ ∀ (change : List Definition → List Definition) (document : Json),
      field.Carries (fun draft => { draft with definitions := change draft.definitions })
        document document := by
  simp only [record, List.mem_cons, List.not_mem_nil, or_false] at member
  rcases member with rfl | rfl | rfl
  case inr.inr => contradiction
  all_goals
    refine ⟨Field.keeps_part fun _ _ => rfl, fun change document => ?_⟩
    exact Field.carries_self document fun _ _ => rfl

theorem items_of_mem (distinct : (members.map Prod.fst).Nodup) {value : Json}
    (member : ("definitions", value) ∈ members) : items (.object members) = value.items := by
  have reversed : (members.reverse.map Prod.fst).Nodup := by
    rw [List.map_reverse]
    exact List.nodup_reverse.mpr distinct
  have found : (Json.object members).member? "definitions" = some value :=
    (NameMap.map_find?_eq_some_iff reversed).mpr (List.mem_reverse.mpr member)
  rw [items, found]
  rfl

theorem forall₂_of_asList {value : Json} (read : value.asList Definition.ofJson = .ok owns) :
    List.Forall₂ (fun item own => Definition.ofJson item = .ok own) value.items owns := by
  cases value with
  | array list => exact mapM_eq_ok_iff.mp read
  | _ => contradiction

/-- The definitions of a bundle are those that its documents give by themselves. -/
theorem forall₂_of_ofJson (distinct : document.NamesOnce) (read : ofJson document = .ok own) :
    List.Forall₂ (fun item own => Definition.ofJson item = .ok own) (items document)
      own.definitions := by
  cases document with
  | object members =>
      obtain ⟨value, member, list⟩ := Record.exists_of_readNamed fieldOf?_definitions rfl
        shows_listField (fun other belongs different => (of_other_field belongs different).1)
        List.not_mem_nil read
      rw [items_of_mem distinct member]
      exact forall₂_of_asList list
  | array parts =>
      have fields : record.fields = record.fields.take 2 ++ [listField] := rfl
      rw [ofJson, Record.read] at read
      obtain ⟨shape, shaped, read⟩ := bind_eq_ok_iff.mp read
      cases shaped
      rw [Record.ofShape, fields] at read
      obtain ⟨item, here, list⟩ := Record.exists_of_readPositional rfl shows_listField
        (List.forall_mem_nil _) read
      have found : parts[2]? = some item := here
      rw [items, found]
      exact forall₂_of_asList list
  | _ => contradiction

theorem withTokenizers_object (members : List (String × Json)) (kind : Tokenizer.Kind) :
    withTokenizers (.object members) kind = .object (members.map fun member =>
      (member.1, if member.1 = "definitions" then giveTokenizers kind member.2 else member.2)) := by
  rw [withTokenizers]
  congr 2
  funext member
  split
  · rfl
  · next unlisted =>
      split
      · next named =>
          obtain ⟨name, value⟩ := member
          subst named
          cases value
          case array => exact absurd rfl (unlisted _)
          all_goals rfl
      · rfl

theorem carries_listField (distinct : (members.map Prod.fst).Nodup) {value : Json}
    (member : ("definitions", value) ∈ members) (kind : Tokenizer.Kind) :
    listField.Carries (complete (.object members) kind) value (giveTokenizers kind value) := by
  have list : complete (.object members) kind = fun own =>
      { own with definitions := completed value.items kind own.definitions } := by
    unfold complete
    rw [items_of_mem distinct member]
  rw [list]
  exact Field.carries_part (asList_giveTokenizers value kind) fun _ _ => rfl

/-- The default reaches the definitions of an object; it changes nothing else. -/
theorem ofJson_withTokenizers (distinct : document.NamesOnce) (kind : Tokenizer.Kind) :
    ofJson (withTokenizers document kind) =
      (ofJson document).map (complete document (document.reached kind)) := by
  cases document with
  | object members =>
      -- A draft starts without definitions, so there is nothing to be completed in it.
      have start : complete (.object members) kind record.start = record.start := by
        simp [complete, completed, record]
      rw [withTokenizers_object]
      refine (congrArg (fun draft => Record.readNamed record.fields [] draft _) start.symm).trans ?_
      refine Record.readNamed_map ?_ (fun _ _ => .rfl) (fun _ _ _ => .rfl)
      rw [List.forall₂_map_right_iff, List.forall₂_same]
      refine fun member inside => ⟨rfl, fun field known => ?_⟩
      obtain ⟨name, value⟩ := member
      by_cases named : name = "definitions"
      · subst named
        obtain rfl := Option.some.inj (fieldOf?_definitions.symm.trans known)
        rw [if_pos rfl]
        exact carries_listField distinct inside kind
      · obtain ⟨belongs, same⟩ := Record.of_fieldOf?_eq_some known
        rw [if_neg named]
        exact (of_other_field belongs (same ▸ named)).2 _ value
  | array parts =>
      -- No default gets into a list, and its definitions have the standard tokenizer already.
      change ofJson (.array parts) =
        (ofJson (.array parts)).map (complete (.array parts) .unicode61)
      refine (map_eq_self fun own read => ?_).symm
      rw [complete, completed_standard (forall₂_of_ofJson distinct read)]
  | _ => rfl

/-- With the default put into its document, a bundle is read that is taken from the document. -/
theorem takenFrom_iff (distinct : document.NamesOnce) :
    ofJson (withTokenizers document kind) = .ok bundle ↔
      bundle.TakenFrom document (document.reached kind) := by
  rw [ofJson_withTokenizers distinct]
  constructor
  · intro loaded
    cases read : ofJson document with
    | error fault =>
        rw [read] at loaded
        contradiction
    | ok own =>
        rw [read] at loaded
        cases loaded
        exact ⟨own, read, rfl, rfl,
          (forall₂_takenFrom_iff (forall₂_of_ofJson distinct read)).mpr rfl⟩
  · rintro ⟨own, read, version, generatedAt, taken⟩
    have definitions := (forall₂_takenFrom_iff (forall₂_of_ofJson distinct read)).mp taken
    have same : bundle = complete document (document.reached kind) own := by
      rw [complete, ← definitions, ← version, ← generatedAt]
    rw [read, same]
    rfl

end Bundle

/-! ### Files -/

/-- The document of a file names no member of an object twice. -/
theorem namesOnce_of_loadDocument {tree : FileTree} {path : String} {document : Json}
    (held : loadDocument tree path = .ok document) : document.NamesOnce := by
  have canonical : ∃ written : Json, written.canonical = document := by
    simp only [loadDocument, bind_eq_ok_iff] at held
    obtain ⟨text, _, held⟩ := held
    split at held
    · obtain ⟨written, _, ended⟩ := bind_eq_ok_iff.mp held
      exact ⟨written, Except.ok.inj ended⟩
    · simp only [bind_eq_ok_iff] at held
      obtain ⟨_, _, written, _, ended⟩ := held
      exact ⟨written, Except.ok.inj ended⟩
  obtain ⟨written, rfl⟩ := canonical
  cases written with
  | object members =>
      exact List.pairwise_map.mpr ((sorted_canonicalMembers members).imp Std.ne_of_lt)
  | _ => trivial

/-- What is loaded from a file is taken from its document: what the document gives is the same for
every default, and what it leaves open is the default, as far as it gets into the document. -/
theorem load_iff_takenFrom (tree : FileTree) (path : String) (kind : Tokenizer.Kind) :
    (∀ definition, Definition.load tree path kind = .ok definition ↔
      ∃ document, loadDocument tree path = .ok document ∧
        definition.TakenFrom document (document.reached kind)) ∧
    ∀ bundle, Bundle.load tree path kind = .ok bundle ↔
      ∃ document, loadDocument tree path = .ok document ∧
        bundle.TakenFrom document (document.reached kind) := by
  refine ⟨fun definition => ?_, fun bundle => ?_⟩
  · simp only [Definition.load, bind_eq_ok_iff, mapError_eq_ok_iff, Definition.takenFrom_iff]
  · rw [Bundle.load, bind_eq_ok_iff]
    refine exists_congr fun document => and_congr_right fun held => ?_
    rw [mapError_eq_ok_iff, Bundle.takenFrom_iff (namesOnce_of_loadDocument held)]

/-- Of three definitions without parameters the first takes the default, the second names its
tokenizer, and the third is a list that names none. -/
example :
    (Bundle.load ⟨[], [(["b.json"], FileTree.textFile ("\x7b\"version\":\"1\",\"definitions\":[" ++
      "\x7b\"tableName\":\"a\",\"columns\":[]\x7d," ++
      "\x7b\"tableName\":\"b\",\"columns\":[],\"tokenizer\":[\"ascii\"]\x7d," ++
      "[\"c\",[]]]\x7d"))]⟩ "b.json" .porter).toOption.map
        (fun bundle => bundle.definitions.map Definition.tokenizer) =
      some [.plain .porter, .plain .ascii, .standard] := by
  decide +kernel

/-- A file whose document is a list that stands for a definition. -/
def listFile : FileTree := ⟨[], [(["d.json"], FileTree.textFile "[\"t\", [\"a\"]]")]⟩

/-- The default does not get into a list. -/
theorem not_reached_list :
    ¬ ∀ (tree : FileTree) (path : String) (kind : Tokenizer.Kind) (document : Json)
      (definition : Definition), loadDocument tree path = .ok document →
        Definition.load tree path kind = .ok definition → document.givesTokenizer = false →
          definition.tokenizer = .plain kind := by
  intro reached
  have lacks : (loadDocument listFile "d.json").toOption.map Json.givesTokenizer = some false := by
    decide +kernel
  have loaded : (Definition.load listFile "d.json" .porter).toOption = some (.new "t" ["a"]) := by
    decide +kernel
  obtain ⟨document, held, lacks⟩ := Option.map_eq_some_iff.mp lacks
  have porter := reached listFile "d.json" .porter document _ (toOption_eq_some_iff.mp held)
    (toOption_eq_some_iff.mp loaded) lacks
  exact absurd porter (by decide)

end SearchIndex
