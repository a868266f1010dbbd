import SearchIndex.Text.Ascii
import SearchIndex.Text.Blank

/-!
Contract: what a reader of characters makes of a text that stands in front of another one.

Owns: `takeWhile_append_stop` and `dropWhile_append_stop`, the two halves of reading a run up to the
character that ends it; `words_append`, the same for the words of a text; `occurs_iff` and
`infix_append_cons_iff`, where a run occurs; and `read_joined`, which turns the readings of parts
into the reading of the parts joined. What a reader is told by a separator stands between the items
of neighbouring parts.

A part is read in front of a text that stops it, so a separator has to stop the parts too.
-/

namespace SearchIndex.Text

/-! ### Runs -/

section Runs

variable {α : Type} {p : α → Bool} {run rest : List α}

theorem takeWhile_stop (stop : rest.head?.any p = false) : rest.takeWhile p = [] := by
  cases rest with
  | nil => rfl
  | cons x rest =>
      have outside : p x = false := stop
      exact List.takeWhile_cons_of_neg (by simp [outside])

theorem dropWhile_stop (stop : rest.head?.any p = false) : rest.dropWhile p = rest := by
  cases rest with
  | nil => rfl
  | cons x rest =>
      have outside : p x = false := stop
      exact List.dropWhile_cons_of_neg (by simp [outside])

theorem takeWhile_append_stop (inside : ∀ x ∈ run, p x = true)
    (stop : rest.head?.any p = false) : (run ++ rest).takeWhile p = run := by
  rw [List.takeWhile_append_of_pos inside, takeWhile_stop stop, List.append_nil]

theorem dropWhile_append_stop (inside : ∀ x ∈ run, p x = true)
    (stop : rest.head?.any p = false) : (run ++ rest).dropWhile p = rest := by
  rw [List.dropWhile_append_of_pos inside, dropWhile_stop stop]

end Runs

/-! ### Words -/

/-- Whether a text ends every word before it. -/
def Ends (rest : List Char) : Prop := rest.head?.all isBlank = true

@[simp]
theorem ends_nil : Ends [] := rfl

@[simp]
theorem ends_space (rest : List Char) : Ends (' ' :: rest) := rfl

section Words

variable {rest : List Char}

theorem Ends.not_mem (ends : Ends rest) {c : Char} (visible : isBlank c = false) :
    c ∉ rest.head? := by
  intro member
  have blank : rest.head?.all isBlank = true := ends
  rw [member, Option.all_some, visible] at blank
  contradiction

theorem Ends.fails (ends : Ends rest) : rest.head?.any (fun c => !isBlank c) = false := by
  cases rest with
  | nil => rfl
  | cons c rest =>
      have blank : isBlank c = true := ends
      simp [blank]

@[simp]
theorem words_nil : words [] = [] := by
  rw [words.eq_def]

@[simp]
theorem words_space (rest : List Char) : words (' ' :: rest) = words rest := by
  rw [words.eq_def]
  rfl

/-- A run of characters that are no blanks is one word. -/
theorem words_append {run : List Char} (nonempty : run ≠ [])
    (visible : ∀ c ∈ run, isBlank c = false) (ends : Ends rest) :
    words (run ++ rest) = run :: words rest := by
  obtain ⟨first, others, rfl⟩ := List.exists_cons_of_ne_nil nonempty
  obtain ⟨firstVisible, othersVisible⟩ := List.forall_mem_cons.mp visible
  have inside : ∀ c ∈ others, (!isBlank c) = true := by
    intro c member
    rw [othersVisible c member]
    rfl
  rw [List.cons_append, words.eq_def]
  simp only [firstVisible, Bool.false_eq_true, if_false]
  rw [takeWhile_append_stop inside ends.fails, dropWhile_append_stop inside ends.fails]

end Words

/-! ### Occurrences -/

theorem occurs_iff {run text : List Char} : occurs run text = true ↔ run <:+: text := by
  induction text with
  | nil => simp [occurs]
  | cons c rest inductionHypothesis =>
      rw [occurs, Bool.or_eq_true, List.isPrefixOf_iff_prefix, inductionHypothesis,
        ← List.infix_cons_iff]

theorem occurs_append (before run after : List Char) :
    occurs run (before ++ (run ++ after)) = true :=
  occurs_iff.mpr (List.infix_append' before run after)

/-! A run that has its first item nowhere else cannot begin before that item and go on over it. -/

section Once

variable {α : Type} {first : α} {others before after : List α}

theorem prefix_of_prefix_append_cons {run : List α} (once : first ∉ run)
    (starts : run <+: before ++ first :: after) : run <+: before := by
  induction before generalizing run with
  | nil =>
      cases run with
      | nil => exact List.prefix_refl []
      | cons x run =>
          obtain ⟨rfl, _⟩ := List.cons_prefix_cons.mp starts
          exact (once List.mem_cons_self).elim
  | cons y before inductionHypothesis =>
      cases run with
      | nil => exact List.nil_prefix
      | cons x run =>
          rw [List.cons_append, List.cons_prefix_cons] at starts
          rw [List.mem_cons, not_or] at once
          exact List.cons_prefix_cons.mpr ⟨starts.1, inductionHypothesis once.2 starts.2⟩

/-- Around its first item such a run stands before it, begins with it, or stands behind it. -/
theorem infix_append_cons_iff (once : first ∉ others) :
    first :: others <:+: before ++ first :: after ↔
      first :: others <:+: before ∨ others <+: after ∨ first :: others <:+: after := by
  induction before with
  | nil =>
      rw [List.nil_append, List.infix_cons_iff, List.cons_prefix_cons, List.infix_nil]
      simp
  | cons x before inductionHypothesis =>
      have starts : first :: others <+: x :: (before ++ first :: after) ↔
          first :: others <+: x :: before := by
        rw [List.cons_prefix_cons, List.cons_prefix_cons]
        refine and_congr_right fun _ => ⟨prefix_of_prefix_append_cons once, fun starts => ?_⟩
        exact starts.trans (List.prefix_append before _)
      rw [List.cons_append, List.infix_cons_iff, starts, inductionHypothesis, List.infix_cons_iff,
        or_assoc]

theorem infix_append_iff_of_not_mem (missing : first ∉ before) :
    first :: others <:+: before ++ after ↔ first :: others <:+: after := by
  induction before with
  | nil => rfl
  | cons x before inductionHypothesis =>
      rw [List.mem_cons, not_or] at missing
      rw [List.cons_append, List.infix_cons_iff, List.cons_prefix_cons,
        inductionHypothesis missing.2]
      simp [missing.1]

end Once

/-! ### Joined texts -/

theorem nil_intercalate {α : Type} (lists : List (List α)) :
    [].intercalate lists = lists.flatten := by
  induction lists with
  | nil => rfl
  | cons first others inductionHypothesis =>
      cases others with
      | nil => simp
      | cons next others =>
          rw [List.intercalate_cons_cons, inductionHypothesis, List.append_nil]
          rfl

theorem joined_eq_intercalate (separator : String) (texts : List String) :
    joined separator texts = separator.intercalate texts := by
  induction texts using joined.induct with
  | case1 => rfl
  | case2 => rfl
  | case3 text next rest inductionHypothesis =>
      rw [joined, inductionHypothesis, String.intercalate_cons_cons]

section Joined

variable {α β : Type} {read : List Char → List α} {mark : List α}

/-- Joined texts are read as the items of their parts, with the separator's items between them. -/
theorem read_joined (stops : List Char → Prop) (separator : String)
    (readSeparator : ∀ rest, read (separator.toList ++ rest) = mark ++ read rest)
    (stopsSeparator : ∀ rest, stops (separator.toList ++ rest))
    {text : β → String} {items : β → List α} :
    ∀ {parts : List β},
      (∀ part ∈ parts, ∀ rest, stops rest →
        read ((text part).toList ++ rest) = items part ++ read rest) →
      ∀ {rest : List Char}, stops rest →
        read ((joined separator (parts.map text)).toList ++ rest) =
          mark.intercalate (parts.map items) ++ read rest
  | [], _, _, _ => rfl
  | [part], readPart, rest, stopsRest => by
      rw [List.map_singleton, List.map_singleton, List.intercalate_singleton]
      exact readPart part (List.mem_singleton_self part) rest stopsRest
  | part :: next :: parts, readPart, rest, stopsRest => by
      -- What follows the first part begins with the separator, which stops it.
      have readNext :
          read ((joined separator ((next :: parts).map text)).toList ++ rest) =
            mark.intercalate ((next :: parts).map items) ++ read rest :=
        read_joined stops separator readSeparator stopsSeparator
          (fun other member => readPart other (List.mem_cons_of_mem part member)) stopsRest
      have readFirst := readPart part List.mem_cons_self
      rw [List.map_cons, List.map_cons] at readNext ⊢
      rw [List.map_cons, List.map_cons, joined, List.intercalate_cons_cons, String.toList_append,
        String.toList_append, List.append_assoc, List.append_assoc,
        readFirst _ (stopsSeparator _), readSeparator, readNext]
      simp only [List.append_assoc]

end Joined

end SearchIndex.Text
