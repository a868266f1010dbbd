import Mathlib.Data.List.DropRight
import SearchIndex.Text.Blank

/-!
Contract: what is left of a text without the blanks at its ends.

Owns: `whiteSpace`, the blanks by their numbers; `trim_infix`, the rest is a part of the text;
`trim_trim`, it has no blanks at its ends to drop; `trim_of_sublist`, the rest of a text that was
thinned out is the rest of the text thinned out; and `Padded`, a text with blanks around it, of
which the same is left.
-/

namespace SearchIndex.Text

section Ends

variable {α : Type} {p : α → Bool}

theorem dropWhile_of_sublist {thinned full : List α} (sublist : thinned.Sublist full) :
    (thinned.dropWhile p).Sublist (full.dropWhile p) := by
  induction sublist with
  | slnil => exact List.Sublist.refl _
  | @cons thinned full x sublist inductionHypothesis =>
      by_cases dropped : p x = true
      · rw [List.dropWhile_cons_of_pos dropped]
        exact inductionHypothesis
      · rw [List.dropWhile_cons_of_neg dropped]
        exact ((List.dropWhile_sublist p).trans sublist).cons x
  | @cons_cons thinned full x sublist inductionHypothesis =>
      by_cases dropped : p x = true
      · rw [List.dropWhile_cons_of_pos dropped, List.dropWhile_cons_of_pos dropped]
        exact inductionHypothesis
      · rw [List.dropWhile_cons_of_neg dropped, List.dropWhile_cons_of_neg dropped]
        exact sublist.cons_cons x

end Ends

/-! ### Blanks -/

/-- The characters with the Unicode property White_Space, by their numbers. -/
def whiteSpace : List Nat :=
  [0x09, 0x0A, 0x0B, 0x0C, 0x0D, 0x20, 0x85, 0xA0, 0x1680, 0x2000, 0x2001, 0x2002, 0x2003, 0x2004,
    0x2005, 0x2006, 0x2007, 0x2008, 0x2009, 0x200A, 0x2028, 0x2029, 0x202F, 0x205F, 0x3000]

theorem isBlank_iff {c : Char} : isBlank c = true ↔ c.toNat ∈ whiteSpace := by
  unfold isBlank
  generalize c.toNat = n
  constructor
  · intro blank
    simp only [Bool.or_eq_true, Bool.and_eq_true, decide_eq_true_eq, beq_iff_eq] at blank
    simp only [whiteSpace, List.mem_cons, List.not_mem_nil, or_false]
    omega
  · revert n
    decide

theorem isBlank_eq_false_iff {c : Char} : isBlank c = false ↔ c.toNat ∉ whiteSpace := by
  rw [← Bool.not_eq_true, isBlank_iff]

/-! ### The end of a text -/

theorem trimEnd_eq (text : List Char) : trimEnd text = text.rdropWhile isBlank := rfl

theorem trimEnd_of_sublist {thinned full : List Char} (sublist : thinned.Sublist full) :
    (trimEnd thinned).Sublist (trimEnd full) :=
  (dropWhile_of_sublist sublist.reverse).reverse

/-- Dropping blanks at the end does not bring a blank to the beginning. -/
theorem dropWhile_trimEnd {text : List Char} (trimmed : text.dropWhile isBlank = text) :
    (trimEnd text).dropWhile isBlank = trimEnd text := by
  rw [trimEnd_eq, List.dropWhile_eq_self_iff]
  intro nonempty
  have opening := List.rdropWhile_prefix isBlank text
  have visible := List.dropWhile_eq_self_iff.mp trimmed (nonempty.trans_le opening.length_le)
  rwa [opening.getElem]

/-! ### Both ends -/

/-- Nothing is left of a text exactly if all of it is blank. -/
theorem trim_eq_nil_iff {text : List Char} :
    trim text = [] ↔ ∀ c ∈ text, isBlank c = true := by
  rw [trim, trimEnd_eq, List.rdropWhile_eq_nil_iff]
  constructor
  · intro blank
    refine List.dropWhile_eq_nil_iff.mp ?_
    by_contra some
    have visible := List.head_dropWhile_not isBlank some
    rw [blank _ (List.head_mem some)] at visible
    contradiction
  · intro blank c member
    exact blank c ((List.dropWhile_sublist isBlank).mem member)

theorem trim_infix (text : List Char) : trim text <:+: text :=
  (List.rdropWhile_prefix isBlank _).isInfix.trans (List.dropWhile_suffix isBlank).isInfix

theorem trim_of_sublist {thinned full : List Char} (sublist : thinned.Sublist full) :
    (trim thinned).Sublist (trim full) :=
  trimEnd_of_sublist (dropWhile_of_sublist sublist)

theorem dropWhile_trim (text : List Char) : (trim text).dropWhile isBlank = trim text :=
  dropWhile_trimEnd (List.dropWhile_idempotent isBlank text)

theorem trimEnd_trim (text : List Char) : trimEnd (trim text) = trim text :=
  List.rdropWhile_idempotent isBlank (text.dropWhile isBlank)

theorem trim_trim (text : List Char) : trim (trim text) = trim text := by
  rw [trim, dropWhile_trim, trimEnd_trim]

theorem isBlank_head_trim {text : List Char} {c : Char} (first : c ∈ (trim text).head?) :
    isBlank c = false := by
  have visible := List.head?_dropWhile_not isBlank (trim text)
  rw [dropWhile_trim, first] at visible
  simpa using visible

/-- What is left of a text has words. -/
theorem words_trim_ne_nil {text : List Char} (visible : trim text ≠ []) :
    words (trim text) ≠ [] := by
  obtain ⟨c, rest, split⟩ := List.exists_cons_of_ne_nil visible
  have first : isBlank c = false := by
    apply isBlank_head_trim
    rw [split]
    rfl
  rw [split, words.eq_def]
  simp [first]

theorem trim_of_visible {text : List Char} (visible : ∀ c ∈ text, isBlank c = false) :
    trim text = text := by
  have front : text.dropWhile isBlank = text :=
    List.dropWhile_eq_self_iff.mpr fun _ => by simp [visible _ (List.getElem_mem _)]
  have back : trimEnd text = text := by
    rw [trimEnd_eq, List.rdropWhile_eq_self_iff]
    intro nonempty
    simp [visible _ (List.getLast_mem nonempty)]
  rw [trim, front, back]

theorem isBlank_getLast_trim {text : List Char} {c : Char} (last : c ∈ (trim text).getLast?) :
    isBlank c = false := by
  have visible := List.head?_dropWhile_not isBlank (trim text).reverse
  have kept : (trim text).reverse.dropWhile isBlank = (trim text).reverse :=
    List.reverse_injective ((trimEnd_trim text).trans (List.reverse_reverse _).symm)
  rw [kept, List.head?_reverse, last] at visible
  simpa using visible

/-! ### Blanks around a text -/

/-- A text with blanks before and behind it, or without. -/
inductive Padded (text : List Char) : List Char → Prop where
  | intro {before after : List Char} (opening : ∀ c ∈ before, isBlank c = true)
      (closing : ∀ c ∈ after, isBlank c = true) : Padded text (before ++ (text ++ after))

theorem trimEnd_append {after : List Char} (closing : ∀ c ∈ after, isBlank c = true)
    (text : List Char) : trimEnd (text ++ after) = trimEnd text := by
  have reversed : ∀ c ∈ after.reverse, isBlank c = true := by simpa using closing
  rw [trimEnd, trimEnd, List.reverse_append, List.dropWhile_append_of_pos reversed]

/-- The blanks around a text are dropped with those at its own ends. -/
theorem Padded.trim_eq {text padded : List Char} (around : Padded text padded) :
    trim padded = trim text := by
  cases around with
  | @intro before after opening closing =>
      rw [trim, trim, List.dropWhile_append_of_pos opening, List.dropWhile_append]
      split
      · next blank =>
          rw [List.dropWhile_eq_nil_iff.mpr closing, List.isEmpty_iff.mp blank]
      · rw [trimEnd_append closing]

end SearchIndex.Text
