import SearchIndex.Proofs.Manifest.History

/-!
Contract: what the difference of two manifests tells.

Owns: `mem_added_iff`, `mem_removed_iff` and `mem_changed_iff`, which names are listed where, and
that they are listed in order; `difference_swap`, the difference in the other direction;
`isEmpty_difference_iff`, when there is none; and `exists_of_lists`, by which every name that is
listed was changed on the way from one manifest to the other.
-/

namespace SearchIndex.Manifest

section

variable {older newer : Manifest} {name : String}

/-! ### Names -/

theorem mem_added_iff : name ∈ (older.difference newer).added ↔
    older.contains name = false ∧ newer.contains name = true := by
  rw [difference, List.mem_filter, NameMap.mem_names_iff, and_comm, Bool.not_eq_true']
  rfl

theorem mem_removed_iff : name ∈ (older.difference newer).removed ↔
    older.contains name = true ∧ newer.contains name = false := by
  rw [difference, List.mem_filter, NameMap.mem_names_iff, Bool.not_eq_true']
  rfl

theorem mem_changed_iff : name ∈ (older.difference newer).changed ↔
    ∃ before after, older.get? name = some before ∧ newer.get? name = some after ∧
      before.checksum ≠ after.checksum := by
  rw [difference, List.mem_map]
  constructor
  · rintro ⟨⟨name, before⟩, member, rfl⟩
    obtain ⟨present, differs⟩ := List.mem_filter.mp member
    obtain ⟨after, found, different⟩ := (Option.any_eq_true _ _).mp differs
    exact ⟨before, after, NameMap.get?_eq_some_iff.mpr present, found,
      Ne.symm (bne_iff_ne.mp different)⟩
  · rintro ⟨before, after, present, found, different⟩
    have differs := (Option.any_eq_true (fun record => record.checksum != before.checksum) _).mpr
      ⟨after, found, bne_iff_ne.mpr (Ne.symm different)⟩
    exact ⟨(name, before),
      List.mem_filter.mpr ⟨NameMap.get?_eq_some_iff.mp present, differs⟩, rfl⟩

theorem sorted_added : (older.difference newer).added.Pairwise (· < ·) :=
  newer.indexes.sorted_names.filter _

theorem sorted_removed : (older.difference newer).removed.Pairwise (· < ·) :=
  older.indexes.sorted_names.filter _

theorem sorted_changed : (older.difference newer).changed.Pairwise (· < ·) :=
  List.pairwise_map.mpr (older.indexes.sorted.filter _)

/-! ### Both directions -/

/-- In the other direction what was added is removed, and what has changed is the same. -/
theorem difference_swap (older newer : Manifest) :
    newer.difference older =
      ⟨(older.difference newer).removed, (older.difference newer).added,
        (older.difference newer).changed⟩ := by
  have changed : (newer.difference older).changed = (older.difference newer).changed := by
    refine NameMap.eq_of_sorted sorted_changed sorted_changed fun name => ?_
    rw [mem_changed_iff, mem_changed_iff]
    constructor
    · rintro ⟨after, before, found, present, different⟩
      exact ⟨before, after, present, found, Ne.symm different⟩
    · rintro ⟨before, after, present, found, different⟩
      exact ⟨after, before, found, present, Ne.symm different⟩
  rw [← changed]
  rfl

/-! ### Equal records -/

/-- A name is listed in a difference. -/
def Difference.Lists (difference : Difference) (name : String) : Prop :=
  name ∈ difference.added ∨ name ∈ difference.removed ∨ name ∈ difference.changed

/-- A name is listed exactly if its checksums differ, where a missing record has none. -/
theorem lists_iff : (older.difference newer).Lists name ↔
    (older.get? name).map IndexRecord.checksum ≠ (newer.get? name).map IndexRecord.checksum := by
  rw [Difference.Lists, mem_added_iff, mem_removed_iff, mem_changed_iff, contains_eq_isSome,
    contains_eq_isSome]
  cases older.get? name with
  | none =>
      cases newer.get? name with
      | none => simp
      | some after => simp
  | some before =>
      cases newer.get? name with
      | none => simp
      | some after => simp

theorem isEmpty_difference_iff : (older.difference newer).isEmpty = true ↔
    ∀ name, (older.get? name).map IndexRecord.checksum =
      (newer.get? name).map IndexRecord.checksum := by
  have unlisted : (older.difference newer).isEmpty = true ↔
      ∀ name, ¬ (older.difference newer).Lists name := by
    simp [Difference.isEmpty, Difference.Lists, List.eq_nil_iff_forall_not_mem, forall_and,
      and_assoc]
  rw [unlisted]
  exact forall_congr' fun name => (not_congr lists_iff).trans not_not

/-! ### Histories -/

/-- A name that is listed was changed on the way. -/
theorem exists_of_lists {history : List Operation}
    (listed : (older.difference (older.run history)).Lists name) :
    ∃ operation ∈ history, operation.name = name := by
  by_contra absent
  have untouched : Untouched name history := fun operation member same =>
    absent ⟨operation, member, same⟩
  exact lists_iff.mp listed (by rw [get?_run_of_untouched untouched])

/-! ### Outcome -/

/-- For any two manifests the names of the newer one only, of the older one only, and those with
another checksum are listed in order, no name twice; nothing is listed exactly if both record the
same checksums under the same names; the other direction swaps what was added and removed; and
whatever history leads from one manifest to the other, it names all that is listed. -/
theorem difference_tells (older newer : Manifest) :
    ((older.difference newer).added.Pairwise (· < ·) ∧
      (older.difference newer).removed.Pairwise (· < ·) ∧
      (older.difference newer).changed.Pairwise (· < ·)) ∧
    (∀ name,
      (name ∈ (older.difference newer).added ↔
        older.contains name = false ∧ newer.contains name = true) ∧
      (name ∈ (older.difference newer).removed ↔
        older.contains name = true ∧ newer.contains name = false) ∧
      (name ∈ (older.difference newer).changed ↔
        ∃ before after, older.get? name = some before ∧ newer.get? name = some after ∧
          before.checksum ≠ after.checksum)) ∧
    ((older.difference newer).added.Disjoint (older.difference newer).removed ∧
      (older.difference newer).added.Disjoint (older.difference newer).changed ∧
      (older.difference newer).removed.Disjoint (older.difference newer).changed) ∧
    ((older.difference newer).isEmpty = true ↔
      ∀ name, (older.get? name).map IndexRecord.checksum =
        (newer.get? name).map IndexRecord.checksum) ∧
    newer.difference older =
      ⟨(older.difference newer).removed, (older.difference newer).added,
        (older.difference newer).changed⟩ ∧
    ∀ history name, (older.difference (older.run history)).Lists name →
      ∃ operation ∈ history, operation.name = name := by
  refine ⟨⟨sorted_added, sorted_removed, sorted_changed⟩,
    fun name => ⟨mem_added_iff, mem_removed_iff, mem_changed_iff⟩, ⟨?_, ?_, ?_⟩,
    isEmpty_difference_iff, difference_swap older newer, fun history name => exists_of_lists⟩
  · intro name added removed
    exact Bool.false_ne_true ((mem_added_iff.mp added).1.symm.trans (mem_removed_iff.mp removed).1)
  · intro name added changed
    obtain ⟨before, _, present, _⟩ := mem_changed_iff.mp changed
    have absent := (mem_added_iff.mp added).1
    rw [contains_eq_isSome, present] at absent
    contradiction
  · intro name removed changed
    obtain ⟨_, after, _, found, _⟩ := mem_changed_iff.mp changed
    have absent := (mem_removed_iff.mp removed).2
    rw [contains_eq_isSome, found] at absent
    contradiction

end

end SearchIndex.Manifest
