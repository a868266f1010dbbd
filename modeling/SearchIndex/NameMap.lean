/-!
Contract: finite maps from names, listed in increasing order of the name.

A `NameMap` holds each name once, so two maps with the same entries are equal. The order is that
of the characters' numbers, which is also the order of the UTF-8 bytes.
-/

namespace SearchIndex

/-- Entries in strictly increasing order of their names. -/
structure NameMap (α : Type) where
  entries : List (String × α)
  sorted : entries.Pairwise fun left right => left.1 < right.1
deriving DecidableEq

namespace NameMap

variable {α : Type}

/-- Sets one entry of a sorted list. -/
def put (name : String) (value : α) : List (String × α) → List (String × α)
  | [] => [(name, value)]
  | head :: rest =>
    if name < head.1 then (name, value) :: head :: rest
    else if name = head.1 then (name, value) :: rest
    else head :: put name value rest

theorem mem_put {name : String} {value : α} {list : List (String × α)} {entry : String × α}
    (member : entry ∈ put name value list) : entry = (name, value) ∨ entry ∈ list := by
  induction list with
  | nil => simpa [put] using member
  | cons head rest inductionHypothesis =>
    simp only [put] at member
    split at member
    · simpa using member
    · split at member
      · rcases List.mem_cons.1 member with equal | tail
        · exact Or.inl equal
        · exact Or.inr (List.mem_cons_of_mem _ tail)
      · rcases List.mem_cons.1 member with equal | tail
        · exact Or.inr (equal ▸ List.mem_cons_self)
        · rcases inductionHypothesis tail with new | old
          · exact Or.inl new
          · exact Or.inr (List.mem_cons_of_mem _ old)

theorem sorted_put (name : String) (value : α) {list : List (String × α)}
    (sorted : list.Pairwise fun left right => left.1 < right.1) :
    (put name value list).Pairwise fun left right => left.1 < right.1 := by
  induction list with
  | nil => simp [put]
  | cons head rest inductionHypothesis =>
    rcases List.pairwise_cons.1 sorted with ⟨headLess, restSorted⟩
    simp only [put]
    split
    · rename_i less
      refine List.pairwise_cons.2 ⟨fun entry member => ?_, sorted⟩
      rcases List.mem_cons.1 member with equal | tail
      · exact equal ▸ less
      · exact String.lt_trans less (headLess entry tail)
    · split
      · rename_i equal
        exact List.pairwise_cons.2
          ⟨fun entry member => equal ▸ headLess entry member, restSorted⟩
      · rename_i notLess notEqual
        refine List.pairwise_cons.2 ⟨fun entry member => ?_, inductionHypothesis restSorted⟩
        rcases mem_put member with equal | tail
        · subst equal
          exact Std.lt_of_le_of_ne (String.not_lt.1 notLess) (Ne.symm notEqual)
        · exact headLess entry tail

/-- The map without entries. -/
def empty : NameMap α := ⟨[], List.Pairwise.nil⟩

instance : Inhabited (NameMap α) := ⟨empty⟩

/-- The value under a name. -/
def get? (map : NameMap α) (name : String) : Option α :=
  (map.entries.find? fun entry => entry.1 == name).map Prod.snd

def contains (map : NameMap α) (name : String) : Bool :=
  map.entries.any fun entry => entry.1 == name

/-- The map with one entry set. -/
def insert (map : NameMap α) (name : String) (value : α) : NameMap α :=
  ⟨put name value map.entries, sorted_put name value map.sorted⟩

def erase (map : NameMap α) (name : String) : NameMap α :=
  ⟨map.entries.filter fun entry => entry.1 != name, map.sorted.filter _⟩

/-- The map without the entries whose value fails a test. -/
def keep (map : NameMap α) (test : α → Bool) : NameMap α :=
  ⟨map.entries.filter fun entry => test entry.2, map.sorted.filter _⟩

/-- The names in increasing order. -/
def names (map : NameMap α) : List String :=
  map.entries.map Prod.fst

def values (map : NameMap α) : List α :=
  map.entries.map Prod.snd

/-- The number of entries. -/
def size (map : NameMap α) : Nat :=
  map.entries.length

/-- A map from entries in any order, where a later entry replaces an earlier one of its name. -/
def ofList (entries : List (String × α)) : NameMap α :=
  entries.foldl (fun map entry => map.insert entry.1 entry.2) empty

end NameMap

end SearchIndex
