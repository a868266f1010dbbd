import Mathlib.Data.List.Induction
import SearchIndex.Text.Ascii

/-!
Contract: values under names that may be repeated.

Owns: `valuesOf`, the values of the pairs with a name, in their order, with one equation for each
way a list of pairs is made; and `foldl_eq_of_append`, by which what a reader has gathered is known
from what one more item adds to it.

A reader that keeps what was given last under each name keeps the last of these values.
-/

namespace SearchIndex.Text

/-- The values of the pairs with a name, which is given in small letters. -/
def valuesOf (pairs : List (String × String)) (name : String) : List String :=
  (pairs.filter fun pair => lowered pair.1 = name).map Prod.snd

section Values

variable (front rest : List (String × String)) (pair : String × String) (name : String)

@[simp]
theorem valuesOf_nil : valuesOf [] name = [] := rfl

@[simp]
theorem valuesOf_append :
    valuesOf (front ++ rest) name = valuesOf front name ++ valuesOf rest name := by
  rw [valuesOf, List.filter_append, List.map_append, valuesOf, valuesOf]

@[simp]
theorem valuesOf_cons :
    valuesOf (pair :: rest) name =
      if lowered pair.1 = name then pair.2 :: valuesOf rest name else valuesOf rest name := by
  unfold valuesOf
  split
  · next same => simp [same]
  · next other => simp [other]

theorem valuesOf_eq_nil {pairs : List (String × String)}
    (absent : ∀ pair ∈ pairs, lowered pair.1 ≠ name) : valuesOf pairs name = [] := by
  have none : pairs.filter (fun pair => lowered pair.1 = name) = [] :=
    List.filter_eq_nil_iff.mpr fun pair member => by simpa using absent pair member
  rw [valuesOf, none, List.map_nil]

end Values

/-- Items are gathered one after another, so what is gathered is known if it is known of no items
and if each further item adds to it what it should. -/
theorem foldl_eq_of_append {α β : Type} {gathered : List α → β} {add : β → α → β} {start : β}
    (none : start = gathered [])
    (further : ∀ items item, add (gathered items) item = gathered (items ++ [item]))
    (items : List α) : items.foldl add start = gathered items := by
  induction items using List.reverseRecOn with
  | nil => exact none
  | append_singleton items item inductionHypothesis =>
      rw [List.foldl_append, inductionHypothesis, List.foldl_cons, List.foldl_nil, further]

end SearchIndex.Text
