import Mathlib.Data.List.Forall2

/-!
Contract: how steps that can fail succeed and fail together.

Owns: `bind_eq_ok_iff` and `bind_eq_error_iff`, two steps by their results; `map_eq_self`, a change
that leaves the result; `mapM_eq_ok_iff`, `forM_eq_ok` and `forM_eq_error`, one step for each item
of a list; and `FirstFailing`, the item that is blamed.
-/

namespace SearchIndex

variable {α β ε : Type}

/-! ### Two steps -/

section Bind

variable {result : Except ε α} {next : α → Except ε β} {fault : ε}

/-- Two steps succeed together if the first one does and the second one does on its result. -/
theorem bind_eq_ok_iff {value : β} :
    (result >>= next) = .ok value ↔ ∃ middle, result = .ok middle ∧ next middle = .ok value := by
  cases result with
  | error error => simp [bind, Except.bind]
  | ok middle => simp [bind, Except.bind]

/-- Of two steps the first that fails is reported. -/
theorem bind_eq_error_iff :
    (result >>= next) = .error fault ↔
      result = .error fault ∨ ∃ middle, result = .ok middle ∧ next middle = .error fault := by
  cases result with
  | error error => simp [bind, Except.bind]
  | ok middle => simp [bind, Except.bind]

/-- Another account of a failure does not change a success. -/
theorem mapError_eq_ok_iff {ε' : Type} {change : ε → ε'} {value : α} :
    result.mapError change = .ok value ↔ result = .ok value := by
  cases result with
  | error error => simp [Except.mapError]
  | ok middle => simp [Except.mapError]

theorem toOption_eq_some_iff {middle : α} :
    result.toOption = some middle ↔ result = .ok middle := by
  cases result with
  | error error => simp [Except.toOption]
  | ok value => simp [Except.toOption]

theorem map_eq_self {change : α → α}
    (same : ∀ value, result = .ok value → change value = value) : result.map change = result := by
  cases result with
  | error error => rfl
  | ok value => exact congrArg Except.ok (same value rfl)

end Bind

/-! ### One step for each item -/

section Items

variable {items : List α} {step : α → Except ε β} {check : α → Except ε Unit} {fault : ε}

/-- A list of results has one for each item. -/
theorem mapM_eq_ok_iff {results : List β} :
    items.mapM step = .ok results ↔
      List.Forall₂ (fun item result => step item = .ok result) items results := by
  induction items generalizing results with
  | nil => simp [pure, Except.pure, eq_comm]
  | cons item items inductionHypothesis =>
      simp only [List.mapM_cons, bind_eq_ok_iff, inductionHypothesis, List.forall₂_cons_left_iff]
      constructor
      · rintro ⟨result, first, others, further, ⟨⟩⟩
        exact ⟨result, others, first, further, rfl⟩
      · rintro ⟨result, others, first, further, rfl⟩
        exact ⟨result, first, others, further, rfl⟩

theorem forM_eq_ok : forM items check = .ok () ↔ ∀ item ∈ items, check item = .ok () := by
  induction items with
  | nil => simp [pure, Except.pure]
  | cons item items inductionHypothesis =>
      simp only [List.forM_cons, bind_eq_ok_iff, inductionHypothesis, List.forall_mem_cons]
      exact ⟨fun ⟨_, passed⟩ => passed, fun passed => ⟨(), passed⟩⟩

/-- An item is the first of a list that fails a test. -/
def FirstFailing (passes : α → Prop) (items : List α) (item : α) : Prop :=
  ∃ before after, items = before ++ item :: after ∧ (∀ other ∈ before, passes other) ∧ ¬ passes item

theorem firstFailing_cons {passes : α → Prop} {first item : α} :
    FirstFailing passes (first :: items) item ↔
      ¬ passes first ∧ item = first ∨ passes first ∧ FirstFailing passes items item := by
  constructor
  · rintro ⟨before, after, split, passed, fails⟩
    cases before with
    | nil =>
        obtain ⟨rfl, rfl⟩ := List.cons.inj split
        exact .inl ⟨fails, rfl⟩
    | cons head before =>
        obtain ⟨rfl, rfl⟩ := List.cons.inj split
        obtain ⟨firstPassed, others⟩ := List.forall_mem_cons.mp passed
        exact .inr ⟨firstPassed, before, after, rfl, others, fails⟩
  · rintro (⟨fails, rfl⟩ | ⟨firstPassed, before, after, rfl, passed, fails⟩)
    · exact ⟨[], items, rfl, by simp, fails⟩
    · exact ⟨first :: before, after, rfl, List.forall_mem_cons.mpr ⟨firstPassed, passed⟩, fails⟩

theorem FirstFailing.fails {passes : α → Prop} {item : α}
    (first : FirstFailing passes items item) : ¬ passes item := by
  obtain ⟨_, _, _, _, fails⟩ := first
  exact fails

/-- Of several checks the first that fails is reported. -/
theorem forM_eq_error : forM items check = .error fault ↔
    ∃ item, FirstFailing (fun item => check item = .ok ()) items item ∧
      check item = .error fault := by
  induction items with
  | nil => simp [FirstFailing, pure, Except.pure]
  | cons first items inductionHypothesis =>
      rw [List.forM_cons, bind_eq_error_iff]
      constructor
      · rintro (failed | ⟨_, passed, later⟩)
        · have fails : ¬ check first = .ok () := by
            intro passed
            rw [failed] at passed
            contradiction
          exact ⟨first, firstFailing_cons.mpr (.inl ⟨fails, rfl⟩), failed⟩
        · obtain ⟨item, further, failed⟩ := inductionHypothesis.mp later
          exact ⟨item, firstFailing_cons.mpr (.inr ⟨passed, further⟩), failed⟩
      · rintro ⟨item, here, failed⟩
        rcases firstFailing_cons.mp here with ⟨_, rfl⟩ | ⟨passed, further⟩
        · exact .inl failed
        · exact .inr ⟨(), passed, inductionHypothesis.mpr ⟨item, further, failed⟩⟩

end Items

end SearchIndex
