import Mathlib.Data.List.Sort
import SearchIndex.NameMap

/-!
Contract: what a map from names holds after a change.

Owns: `get?_eq_some_iff`, by which a look-up tells which entries there are; `ext`, by which maps
with the same look-ups are equal; the look-ups after `insert`, `erase` and `ofList`; `sort`, entries
in the order of their names; and `ofList_entries`, by which a map is made again from its entries.
-/

namespace SearchIndex.NameMap

variable {α : Type}

/-! ### Entries -/

theorem sorted_names (map : NameMap α) : map.names.Pairwise (· < ·) :=
  List.pairwise_map.mpr map.sorted

theorem nodup_names (map : NameMap α) : map.names.Nodup :=
  List.pairwise_map.mpr (map.sorted.imp Std.ne_of_lt)

section Search

variable {κ : Type} [BEq κ] [LawfulBEq κ] {entries : List (κ × α)}

/-- Where no name is repeated, a search finds the entry of its name. -/
theorem find?_eq_some (distinct : (entries.map Prod.fst).Nodup) {entry : κ × α}
    (member : entry ∈ entries) : (entries.find? fun other => other.1 == entry.1) = some entry := by
  induction entries with
  | nil => contradiction
  | cons head rest inductionHypothesis =>
      rw [List.map_cons, List.nodup_cons] at distinct
      rcases List.mem_cons.mp member with rfl | tail
      · rw [List.find?_cons, beq_self_eq_true]
      · have different : (head.1 == entry.1) = false :=
          beq_false_of_ne fun same => distinct.1 (same ▸ List.mem_map_of_mem tail)
        rw [List.find?_cons, different]
        exact inductionHypothesis distinct.2 tail

theorem map_find?_eq_some_iff (distinct : (entries.map Prod.fst).Nodup) {name : κ} {value : α} :
    (entries.find? fun entry => entry.1 == name).map Prod.snd = some value ↔
      (name, value) ∈ entries := by
  rw [Option.map_eq_some_iff]
  constructor
  · rintro ⟨⟨found, _⟩, search, rfl⟩
    have same : found = name := by simpa using List.find?_some search
    exact same ▸ List.mem_of_find?_eq_some search
  · intro member
    exact ⟨_, find?_eq_some distinct member, rfl⟩

end Search

theorem get?_eq_some_iff {map : NameMap α} {name : String} {value : α} :
    map.get? name = some value ↔ (name, value) ∈ map.entries :=
  map_find?_eq_some_iff map.nodup_names

theorem contains_eq_isSome (map : NameMap α) (name : String) :
    map.contains name = (map.get? name).isSome := by
  rw [contains, get?, Option.isSome_map, List.isSome_find?]

theorem mem_names_iff {map : NameMap α} {name : String} :
    name ∈ map.names ↔ map.contains name = true := by
  rw [names, contains, List.any_eq_true, List.mem_map]
  simp

/-- Names in increasing order are determined by which there are. -/
theorem eq_of_sorted {names others : List String} (sorted : names.Pairwise (· < ·))
    (otherSorted : others.Pairwise (· < ·)) (same : ∀ name, name ∈ names ↔ name ∈ others) :
    names = others := by
  have permuted := (List.perm_ext_iff_of_nodup (sorted.imp Std.ne_of_lt)
    (otherSorted.imp Std.ne_of_lt)).mpr same
  exact permuted.eq_of_pairwise (fun _ _ _ _ less greater => (String.lt_asymm less greater).elim)
    sorted otherSorted

/-- The names are determined by what is contained. -/
theorem names_eq_of_contains {map other : NameMap α}
    (same : ∀ name, map.contains name = other.contains name) : map.names = other.names :=
  eq_of_sorted map.sorted_names other.sorted_names fun name => by
    rw [mem_names_iff, same, mem_names_iff]

theorem ext {map other : NameMap α} (same : ∀ name, map.get? name = other.get? name) :
    map = other := by
  have entries (entry : String × α) : entry ∈ map.entries ↔ entry ∈ other.entries := by
    rw [← get?_eq_some_iff, same, get?_eq_some_iff]
  have permuted := (List.perm_ext_iff_of_nodup map.nodup_names.of_map
    other.nodup_names.of_map).mpr entries
  have equal : map.entries = other.entries :=
    permuted.eq_of_pairwise (fun _ _ _ _ less greater => (String.lt_asymm less greater).elim)
      map.sorted other.sorted
  cases map
  cases other
  congr

/-! ### Changes -/

theorem find?_put (name other : String) (value : α) (list : List (String × α)) :
    ((put name value list).find? fun entry => entry.1 == other) =
      if name = other then some (name, value) else list.find? fun entry => entry.1 == other := by
  induction list with
  | nil => by_cases same : name = other <;> simp [put, same]
  | cons head rest inductionHypothesis =>
      rw [put]
      split
      · by_cases same : name = other <;> simp [same]
      · split
        · next _ equal =>
            by_cases same : name = other
            · simp [same]
            · have different : (head.1 == other) = false := by simpa [← equal] using same
              simp [same, different]
        · next _ unequal =>
            by_cases same : name = other
            · have different : (head.1 == other) = false := by
                simpa [← same] using Ne.symm unequal
              rw [List.find?_cons, different, inductionHypothesis]
              simp [same]
            · rw [List.find?_cons, inductionHypothesis, if_neg same, if_neg same, List.find?_cons]

theorem get?_insert (map : NameMap α) (name other : String) (value : α) :
    (map.insert name value).get? other = if name = other then some value else map.get? other := by
  unfold get? insert
  rw [find?_put]
  split <;> rfl

theorem get?_erase (map : NameMap α) (name other : String) :
    (map.erase name).get? other = if name = other then none else map.get? other := by
  unfold get? erase
  rw [List.find?_filter]
  split
  · next same =>
      subst same
      simp
  · next different =>
      congr 2
      funext entry
      by_cases found : entry.1 = other
      · simp [found, Ne.symm different]
      · simp [found]

theorem get?_empty (name : String) : (empty : NameMap α).get? name = none := rfl

theorem mem_entries_insert {map : NameMap α} {name : String} {value : α} {entry : String × α}
    (member : entry ∈ (map.insert name value).entries) :
    entry = (name, value) ∨ entry ∈ map.entries := mem_put member

/-! ### Sorted entries -/

section Order

variable {name : String} {value : α} {list : List (String × α)}

theorem perm_put (fresh : name ∉ list.map Prod.fst) :
    (put name value list).Perm ((name, value) :: list) := by
  induction list with
  | nil => exact .refl _
  | cons head rest inductionHypothesis =>
      rw [List.map_cons, List.mem_cons, not_or] at fresh
      rw [put]
      split
      · exact .refl _
      · rw [if_neg fresh.1]
        exact ((inductionHypothesis fresh.2).cons head).trans (.swap _ _ rest)

/-- The entries in the order of their names. -/
def sort (entries : List (String × α)) : List (String × α) :=
  entries.foldr (fun entry sorted => put entry.1 entry.2 sorted) []

theorem sorted_sort (entries : List (String × α)) :
    (sort entries).Pairwise fun left right => left.1 < right.1 := by
  induction entries with
  | nil => exact .nil
  | cons entry entries inductionHypothesis => exact sorted_put _ _ inductionHypothesis

theorem perm_sort {entries : List (String × α)} (distinct : (entries.map Prod.fst).Nodup) :
    (sort entries).Perm entries := by
  induction entries with
  | nil => exact .refl _
  | cons entry entries inductionHypothesis =>
      rw [List.map_cons, List.nodup_cons] at distinct
      have others := inductionHypothesis distinct.2
      have fresh : entry.1 ∉ (sort entries).map Prod.fst := by
        rw [(others.map Prod.fst).mem_iff]
        exact distinct.1
      exact (perm_put fresh).trans (others.cons entry)

end Order

/-! ### Maps from lists -/

theorem get?_foldl_insert (entries : List (String × α)) (map : NameMap α) (name : String) :
    (entries.foldl (fun map entry => map.insert entry.1 entry.2) map).get? name =
      ((entries.reverse.find? fun entry => entry.1 == name).map Prod.snd).or (map.get? name) := by
  induction entries generalizing map with
  | nil => rfl
  | cons entry entries inductionHypothesis =>
      rw [List.foldl_cons, inductionHypothesis, get?_insert, List.reverse_cons, List.find?_append]
      cases entries.reverse.find? fun entry => entry.1 == name with
      | some _ => rfl
      | none => by_cases same : entry.1 = name <;> simp [same]

/-- Of several entries with one name the last one counts. -/
theorem get?_ofList (entries : List (String × α)) (name : String) :
    (ofList entries).get? name =
      (entries.reverse.find? fun entry => entry.1 == name).map Prod.snd := by
  rw [ofList, get?_foldl_insert, get?_empty, Option.or_none]

theorem get?_ofList_append (entries others : List (String × α)) (name : String) :
    (ofList (entries ++ others)).get? name =
      ((ofList others).get? name).or ((ofList entries).get? name) := by
  rw [ofList, List.foldl_append, get?_foldl_insert, get?_ofList]
  rfl

theorem get?_ofList_eq_some_iff {entries : List (String × α)}
    (distinct : (entries.map Prod.fst).Nodup) {name : String} {value : α} :
    (ofList entries).get? name = some value ↔ (name, value) ∈ entries := by
  have reversed : (entries.reverse.map Prod.fst).Nodup := by
    rw [List.map_reverse, List.nodup_reverse]
    exact distinct
  rw [get?_ofList, map_find?_eq_some_iff reversed, List.mem_reverse]

theorem get?_ofList_eq_none {entries : List (String × α)} {name : String}
    (missing : name ∉ entries.map Prod.fst) : (ofList entries).get? name = none := by
  rw [get?_ofList, Option.map_eq_none_iff, List.find?_eq_none]
  intro entry member same
  refine missing (beq_iff_eq.mp same ▸ List.mem_map_of_mem ?_)
  exact List.mem_reverse.mp member

theorem ofList_entries (map : NameMap α) : ofList map.entries = map := by
  refine ext fun name => Option.ext fun value => ?_
  rw [get?_ofList_eq_some_iff map.nodup_names, get?_eq_some_iff]

end SearchIndex.NameMap
