import SearchIndex.DefinitionSet
import SearchIndex.Proofs.NameMap

/-!
Contract: what a set of definitions holds after others are added.

Owns: that the definitions of a set stand in the order of their names and no two of them have one
name; `get?_definitions`, by which a look-up in the set is a search of its definitions; and
`exists_insertAll`, by which definitions with names of their own can be added and are found again.
-/

namespace SearchIndex.DefinitionSet

/-! ### Names -/

/-- The definitions of a set stand in the order of their names. -/
theorem map_name_values (set : DefinitionSet) :
    set.entries.values.map (fun entry => entry.definition.name) = set.names := by
  rw [NameMap.values, List.map_map]
  exact List.map_congr_left fun entry member => (set.named entry member).symm

/-- No two definitions of a set have one name. -/
theorem nodup_names (set : DefinitionSet) :
    (set.entries.values.map fun entry => entry.definition.name).Nodup := by
  rw [set.map_name_values]
  exact NameMap.nodup_names set.entries

/-- A look-up in a set is a search of its definitions. -/
theorem get?_eq_find? (set : DefinitionSet) (name : String) :
    set.get? name = set.definitions.find? fun definition => definition.name == name := by
  have found (entries : List (String × DefinitionEntry))
      (named : ∀ entry ∈ entries, entry.1 = entry.2.definition.name) :
      ((entries.find? fun entry => entry.1 == name).map Prod.snd).map DefinitionEntry.definition =
        ((entries.map Prod.snd).map DefinitionEntry.definition).find? fun definition =>
          definition.name == name := by
    induction entries with
    | nil => rfl
    | cons entry entries inductionHypothesis =>
        obtain ⟨first, others⟩ := List.forall_mem_cons.mp named
        rw [List.map_cons, List.map_cons, List.find?_cons, List.find?_cons, ← first]
        cases entry.1 == name with
        | true => rfl
        | false => exact inductionHypothesis others
  exact found set.entries.entries set.named

theorem contains_eq_isSome (set : DefinitionSet) (name : String) :
    set.contains name = (set.get? name).isSome := by
  rw [contains, get?, Option.isSome_map, NameMap.contains_eq_isSome]

theorem names_eq_of_get? {set other : DefinitionSet}
    (same : ∀ name, set.get? name = other.get? name) : set.names = other.names :=
  NameMap.names_eq_of_contains fun name => by
    have contained := congrArg Option.isSome (same name)
    rwa [← contains_eq_isSome, ← contains_eq_isSome] at contained

/-! ### Additions -/

section

variable {set : DefinitionSet} {entry : DefinitionEntry} {entries : List DefinitionEntry}

/-- A definition with a name of its own can be added. -/
theorem exists_insert (fresh : set.get? entry.definition.name = none) :
    ∃ larger, set.insert entry = .ok larger ∧ ∀ name, larger.get? name =
      if entry.definition.name = name then some entry.definition else set.get? name := by
  have absent : set.entries.contains entry.definition.name = false := by
    have contained := set.contains_eq_isSome entry.definition.name
    rwa [fresh] at contained
  refine ⟨_, by rw [insert, absent]; rfl, fun name => ?_⟩
  rw [get?, NameMap.get?_insert]
  split <;> rfl

/-- Definitions with names of their own can be added and are found again. -/
theorem exists_insertAll (distinct : (entries.map fun entry => entry.definition.name).Nodup)
    (fresh : ∀ entry ∈ entries, set.get? entry.definition.name = none) :
    ∃ larger, set.insertAll entries = .ok larger ∧ ∀ name, larger.get? name =
      ((entries.map DefinitionEntry.definition).find? fun definition =>
        definition.name == name).or (set.get? name) := by
  induction entries generalizing set with
  | nil => exact ⟨set, rfl, fun name => rfl⟩
  | cons entry entries inductionHypothesis =>
      rw [List.map_cons, List.nodup_cons] at distinct
      obtain ⟨firstFresh, othersFresh⟩ := List.forall_mem_cons.mp fresh
      obtain ⟨larger, inserted, found⟩ := exists_insert firstFresh
      have further : ∀ other ∈ entries, larger.get? other.definition.name = none := by
        intro other member
        have different : entry.definition.name ≠ other.definition.name := fun same =>
          distinct.1 (List.mem_map.mpr ⟨other, member, same.symm⟩)
        rw [found, if_neg different]
        exact othersFresh other member
      obtain ⟨final, all, foundAll⟩ := inductionHypothesis distinct.2 further
      refine ⟨final, ?_, fun name => ?_⟩
      · rw [insertAll, List.foldlM_cons, inserted]
        exact all
      · rw [foundAll, found, List.map_cons, List.find?_cons]
        by_cases here : entry.definition.name = name
        · have once : ((entries.map DefinitionEntry.definition).find? fun definition =>
              definition.name == name) = none := by
            rw [List.find?_eq_none]
            rintro _ member same
            obtain ⟨other, otherMember, rfl⟩ := List.mem_map.mp member
            exact distinct.1 (List.mem_map.mpr ⟨other, otherMember, by
              rw [here, beq_iff_eq.mp same]⟩)
          rw [once, if_pos here, beq_iff_eq.mpr here]
          rfl
        · rw [if_neg here, beq_false_of_ne here]

end

end SearchIndex.DefinitionSet
