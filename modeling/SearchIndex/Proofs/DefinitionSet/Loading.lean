import SearchIndex.Proofs.DefinitionSet
import SearchIndex.Proofs.Result

/-!
Contract: which files make a set of valid definitions.

Owns: `Usable`, that files hold valid definitions with names of their own; and
`exists_addFiles_iff`, by which these are the files that can be added to a set without problems.
-/

namespace SearchIndex

/-- Files hold definitions that can become indexes, under names that are neither shared nor
taken. -/
structure Usable (tree : FileTree) (kind : Tokenizer.Kind) (taken : String → Prop)
    (paths : List String) (definitions : List Definition) : Prop where
  held : List.Forall₂ (fun path definition => Definition.load tree path kind = .ok definition)
    paths definitions
  valid : ∀ definition ∈ definitions, definition.validate = .ok ()
  distinct : (definitions.map Definition.name).Nodup
  free : ∀ definition ∈ definitions, ¬ taken definition.name

section Usable

variable {tree : FileTree} {kind : Tokenizer.Kind} {taken : String → Prop} {path : String}
  {paths : List String} {definition : Definition} {definitions : List Definition}

theorem usable_nil : Usable tree kind taken [] [] :=
  ⟨.nil, by simp, .nil, by simp⟩

/-- A file before others is usable if its definition is, and its name is taken from then on. -/
theorem usable_cons_iff :
    Usable tree kind taken (path :: paths) (definition :: definitions) ↔
      Definition.load tree path kind = .ok definition ∧ definition.validate = .ok () ∧
        ¬ taken definition.name ∧
          Usable tree kind (fun name => taken name ∨ name = definition.name) paths definitions := by
  constructor
  · rintro ⟨held, valid, distinct, free⟩
    cases held with
    | cons first others =>
        rw [List.map_cons, List.nodup_cons] at distinct
        obtain ⟨firstValid, othersValid⟩ := List.forall_mem_cons.mp valid
        obtain ⟨firstFree, othersFree⟩ := List.forall_mem_cons.mp free
        refine ⟨first, firstValid, firstFree, others, othersValid, distinct.2, ?_⟩
        rintro other member (clash | same)
        · exact othersFree other member clash
        · exact distinct.1 (same ▸ List.mem_map_of_mem member)
  · rintro ⟨first, firstValid, firstFree, others, othersValid, distinct, free⟩
    have othersFree : ∀ other ∈ definitions, ¬ taken other.name :=
      fun other member clash => free other member (.inl clash)
    refine ⟨.cons first others, List.forall_mem_cons.mpr ⟨firstValid, othersValid⟩, ?_,
      List.forall_mem_cons.mpr ⟨firstFree, othersFree⟩⟩
    rw [List.map_cons, List.nodup_cons]
    refine ⟨fun shared => ?_, distinct⟩
    obtain ⟨other, member, same⟩ := List.mem_map.mp shared
    exact free other member (.inr same)

end Usable

namespace DefinitionSet

variable {set larger : DefinitionSet} {entry : DefinitionEntry}

/-- A set has no problems if each of its definitions is valid. -/
theorem problems_eq_nil_iff : set.problems = [] ↔
    ∀ name definition, set.get? name = some definition → definition.validate = .ok () := by
  rw [problems, List.filterMap_eq_nil_iff]
  constructor
  · intro accepted name definition found
    obtain ⟨entry, present, rfl⟩ := Option.map_eq_some_iff.mp found
    have checked := accepted (name, entry) (NameMap.get?_eq_some_iff.mp present)
    split at checked
    · next valid => exact valid
    · contradiction
  · intro accepted entry member
    have present := NameMap.get?_eq_some_iff.mpr member
    rw [accepted entry.1 entry.2.definition (Option.map_eq_some_iff.mpr ⟨_, present, rfl⟩)]

/-- A definition that was added is the only one of its name. -/
theorem get?_of_insert (inserted : set.insert entry = .ok larger) :
    set.get? entry.definition.name = none ∧ ∀ name, larger.get? name =
      if entry.definition.name = name then some entry.definition else set.get? name := by
  have fresh : set.get? entry.definition.name = none := by
    cases found : set.get? entry.definition.name with
    | none => rfl
    | some other =>
        have taken : set.entries.contains entry.definition.name = true := by
          have contained := set.contains_eq_isSome entry.definition.name
          rwa [found] at contained
        rw [insert, if_pos taken] at inserted
        contradiction
  obtain ⟨grown, again, looked⟩ := exists_insert fresh
  rw [again] at inserted
  cases inserted
  exact ⟨fresh, looked⟩

theorem isSome_get?_of_insert (inserted : set.insert entry = .ok larger) (name : String) :
    (larger.get? name).isSome = true ↔
      (set.get? name).isSome = true ∨ name = entry.definition.name := by
  rw [(get?_of_insert inserted).2]
  split
  · next same => simp [same]
  · next different => simp [Ne.symm different]

/-- A set has no problems after an addition if it had none and the definition is valid. -/
theorem problems_of_insert (inserted : set.insert entry = .ok larger) :
    larger.problems = [] ↔ entry.definition.validate = .ok () ∧ set.problems = [] := by
  obtain ⟨fresh, looked⟩ := get?_of_insert inserted
  rw [problems_eq_nil_iff, problems_eq_nil_iff]
  constructor
  · intro accepted
    refine ⟨accepted entry.definition.name entry.definition (by rw [looked, if_pos rfl]), ?_⟩
    intro name definition found
    have different : entry.definition.name ≠ name := by
      rintro rfl
      rw [fresh] at found
      contradiction
    exact accepted name definition (by rw [looked, if_neg different, found])
  · rintro ⟨valid, accepted⟩ name definition found
    rw [looked] at found
    split at found
    · cases found
      exact valid
    · exact accepted name definition found

section Files

variable {tree : FileTree} {kind : Tokenizer.Kind} {path : String} {paths : List String}

/-- The first file is loaded and added before the others. -/
theorem addFiles_cons_eq_ok_iff : addFiles tree kind set (path :: paths) = .ok larger ↔
    ∃ definition, Definition.load tree path kind = .ok definition ∧
      ∃ grown, set.insert ⟨definition, some path⟩ = .ok grown ∧
        addFiles tree kind grown paths = .ok larger := by
  simp only [addFiles, bind_eq_ok_iff]

/-- Files can be added to a set without problems exactly if they are usable beside it. The
induction takes the names of the set along, which grow with each file. -/
theorem exists_addFiles_iff :
    (∃ larger, addFiles tree kind set paths = .ok larger ∧ larger.problems = []) ↔
      set.problems = [] ∧ ∃ definitions,
        Usable tree kind (fun name => (set.get? name).isSome = true) paths definitions := by
  induction paths generalizing set with
  | nil =>
      constructor
      · rintro ⟨larger, added, flawless⟩
        cases added
        exact ⟨flawless, [], usable_nil⟩
      · rintro ⟨flawless, _⟩
        exact ⟨set, rfl, flawless⟩
  | cons path paths inductionHypothesis =>
      -- The set with the first file decides both about its definition and about the other files.
      have names {definition : Definition} {grown : DefinitionSet}
          (inserted : set.insert ⟨definition, some path⟩ = .ok grown) :
          (fun name => (grown.get? name).isSome = true) =
            fun name => (set.get? name).isSome = true ∨ name = definition.name :=
        funext fun name => propext (isSome_get?_of_insert inserted name)
      constructor
      · rintro ⟨larger, added, flawless⟩
        obtain ⟨definition, loaded, grown, inserted, added⟩ := addFiles_cons_eq_ok_iff.mp added
        obtain ⟨accepted, definitions, usable⟩ :=
          inductionHypothesis.mp ⟨larger, added, flawless⟩
        obtain ⟨valid, before⟩ := (problems_of_insert inserted).mp accepted
        have fresh : ¬ (set.get? definition.name).isSome = true :=
          Option.not_isSome_iff_eq_none.mpr (get?_of_insert inserted).1
        rw [names inserted] at usable
        exact ⟨before, definition :: definitions,
          usable_cons_iff.mpr ⟨loaded, valid, fresh, usable⟩⟩
      · rintro ⟨before, definitions, usable⟩
        cases definitions with
        | nil => cases usable.held
        | cons definition definitions =>
            obtain ⟨loaded, valid, fresh, others⟩ := usable_cons_iff.mp usable
            have absent := Option.not_isSome_iff_eq_none.mp fresh
            obtain ⟨grown, inserted, _⟩ : ∃ grown, set.insert ⟨definition, some path⟩ = .ok grown ∧
              _ := exists_insert absent
            have accepted := (problems_of_insert inserted).mpr ⟨valid, before⟩
            rw [← names inserted] at others
            obtain ⟨larger, added, flawless⟩ :=
              inductionHypothesis.mpr ⟨accepted, definitions, others⟩
            exact ⟨larger,
              addFiles_cons_eq_ok_iff.mpr ⟨definition, loaded, grown, inserted, added⟩, flawless⟩

/-- Files make a set without problems exactly if they are usable. -/
theorem exists_addFiles_empty_iff (source : DefinitionSource) :
    (∃ set, addFiles tree kind (empty source) paths = .ok set ∧ set.problems = []) ↔
      ∃ definitions, Usable tree kind (fun _ => False) paths definitions := by
  have names : (fun name => ((empty source).get? name).isSome = true) = fun _ => False :=
    funext fun name => eq_false Bool.false_ne_true
  have flawless : (empty source).problems = [] := rfl
  rw [exists_addFiles_iff, names]
  exact and_iff_right flawless

end Files

end DefinitionSet

end SearchIndex
