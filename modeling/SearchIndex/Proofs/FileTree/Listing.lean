import SearchIndex.Proofs.FileTree
import SearchIndex.Proofs.NameMap

/-!
Contract: the order in which a tree lists its entries.

Owns: `Reordered`, trees that hold the same entries in another order; and what it changes: nothing
of what a path leads to (`Reordered.lookup`, `Reordered.readText`), and of the names in a directory
their order (`Reordered.names`).
-/

namespace SearchIndex.FileTree

/-- Two trees hold the same entries, each place once, and list them in their own order. -/
structure Reordered (tree other : FileTree) : Prop where
  base : other.base = tree.base
  entries : other.entries.Perm tree.entries
  distinct : (tree.entries.map Prod.fst).Nodup

namespace Reordered

variable {tree other : FileTree}

theorem at? (reordered : Reordered tree other) (place : Place) :
    other.at? place = tree.at? place := by
  have distinct : (other.entries.map Prod.fst).Nodup :=
    (reordered.entries.map Prod.fst).nodup_iff.mpr reordered.distinct
  unfold FileTree.at?
  split
  · rfl
  · refine Option.ext fun entry => ?_
    rw [NameMap.map_find?_eq_some_iff distinct, NameMap.map_find?_eq_some_iff reordered.distinct]
    exact reordered.entries.mem_iff

theorem walk (reordered : Reordered tree other) (place : Place) (parts : List String) :
    other.walk place parts = tree.walk place parts := by
  induction parts generalizing place with
  | nil => rfl
  | cons part parts inductionHypothesis =>
      rw [FileTree.walk, FileTree.walk, reordered.at?]
      split
      · exact inductionHypothesis _
      · rfl
      · rfl

theorem resolve (reordered : Reordered tree other) (path : String) :
    other.resolve path = tree.resolve path := by
  rw [FileTree.resolve, FileTree.resolve, origin, origin, reordered.base, reordered.walk]

theorem lookup (reordered : Reordered tree other) (path : String) :
    other.lookup path = tree.lookup path := by
  unfold FileTree.lookup
  rw [reordered.resolve]
  congr 1
  funext place
  rw [reordered.at?]

theorem readText (reordered : Reordered tree other) (path : String) :
    other.readText path = tree.readText path := by
  unfold FileTree.readText
  rw [reordered.lookup]

/-- The names in a directory are listed in another order, or for the same reason not at all. -/
theorem names (reordered : Reordered tree other) (path : String) :
    (∃ fault, tree.names path = .error fault ∧ other.names path = .error fault) ∨
      ∃ names others, tree.names path = .ok names ∧ other.names path = .ok others ∧
        others.Perm names := by
  unfold FileTree.names
  rw [reordered.resolve]
  cases tree.resolve path with
  | error fault => exact .inl ⟨fault, rfl, rfl⟩
  | ok place =>
      simp only [bind, Except.bind]
      rw [reordered.at?]
      split
      · exact .inr ⟨_, _, rfl, rfl, reordered.entries.filterMap _⟩
      · exact .inl ⟨_, rfl, rfl⟩
      · exact .inl ⟨_, rfl, rfl⟩

end Reordered

end SearchIndex.FileTree
