import SearchIndex.Proofs.Text.Trim
import SearchIndex.Proofs.Tokenizer.RoundTrip

/-!
Contract: a line of written arguments is split into exactly these arguments.

Owns: `Spelling`, the characters that an argument can be written with; `Spaced`, a line of spelled
arguments with blanks between any two of them; and `split_spaced`, by which such a line, with blanks
around it or without, has exactly these arguments.

Blanks leave no argument, so an empty one needs its quotes. What stands in quotes is arbitrary, and
so are the quotes in a bare argument behind its first character. The blank behind an argument is
what ends a bare one, and what keeps the closing quote of another one from being doubled.
-/

namespace SearchIndex.Tokenizer

open Text (Ends Padded)

/-! ### Arguments -/

/-- The characters that an argument can be written with. -/
inductive Spelling : String → List Char → Prop where
  | quoted (text : String) : Spelling text (quoteArgument text).toList
  | bare {text : String} (bare : IsBareArgument text.toList) : Spelling text text.toList

/-- A spelled argument is read as it in front of a blank or at the end of a line. -/
theorem Spelling.reads {text : String} {source rest : List Char} (spelling : Spelling text source)
    (ends : Ends rest) : argumentsOf (source ++ rest) = text :: argumentsOf rest := by
  cases spelling with
  | quoted => exact argumentsOf_quoteArgument text (ends.not_mem (by decide))
  | bare bare => exact argumentsOf_bare bare ends

/-! ### Blanks -/

section Blanks

variable {gap : List Char} (blank : ∀ c ∈ gap, Text.isBlank c = true)
include blank

theorem argumentsOf_blanks (rest : List Char) : argumentsOf (gap ++ rest) = argumentsOf rest := by
  induction gap with
  | nil => rfl
  | cons c gap inductionHypothesis =>
      obtain ⟨first, others⟩ := List.forall_mem_cons.mp blank
      rw [List.cons_append, argumentsOf_blank first, inductionHypothesis others]

/-- Blanks end the argument before them, and so does the end of a line. -/
theorem ends_append {rest : List Char} (otherwise : gap = [] → Ends rest) : Ends (gap ++ rest) := by
  cases gap with
  | nil => exact otherwise rfl
  | cons c gap => exact blank c List.mem_cons_self

end Blanks

/-! ### Lines -/

/-- Spelled arguments, with at least one blank between any two of them. -/
inductive Spaced : List String → List Char → Prop where
  | nil : Spaced [] []
  | single {text : String} {source : List Char} (spelling : Spelling text source) :
      Spaced [text] source
  | cons {text next : String} {texts : List String} {source gap line : List Char}
      (spelling : Spelling text source) (apart : gap ≠ [])
      (blank : ∀ c ∈ gap, Text.isBlank c = true) (others : Spaced (next :: texts) line) :
      Spaced (text :: next :: texts) (source ++ (gap ++ line))

theorem Spaced.reads {texts : List String} {line rest : List Char} (spaced : Spaced texts line)
    (ends : Ends rest) : argumentsOf (line ++ rest) = texts ++ argumentsOf rest := by
  induction spaced with
  | nil => rfl
  | single spelling => exact spelling.reads ends
  | @cons text next texts source gap line spelling apart blank _ inductionHypothesis =>
      -- Whatever stands behind it, the argument is ended by its gap.
      have stop : Ends (gap ++ (line ++ rest)) := ends_append blank fun none => (apart none).elim
      calc argumentsOf (source ++ (gap ++ line) ++ rest)
          = argumentsOf (source ++ (gap ++ (line ++ rest))) := by simp only [List.append_assoc]
        _ = text :: argumentsOf (gap ++ (line ++ rest)) := spelling.reads stop
        _ = text :: argumentsOf (line ++ rest) := by rw [argumentsOf_blanks blank]
        _ = text :: next :: texts ++ argumentsOf rest := by rw [inductionHypothesis]; rfl

/-- A line of spelled arguments with blanks between them, and around them or not, has exactly these
arguments. -/
theorem split_spaced {texts : List String} {source : List Char} {line : String}
    (spaced : Spaced texts source) (around : Padded source line.toList) :
    splitArguments line = texts := by
  rw [splitArguments]
  generalize line.toList = characters at around ⊢
  cases around with
  | @intro before after opening closing =>
      have stop : Ends after := by
        have ends := ends_append closing fun _ => Text.ends_nil
        rwa [List.append_nil] at ends
      have none : argumentsOf after = [] := by
        have read := argumentsOf_blanks closing []
        rwa [List.append_nil, argumentsOf_nil] at read
      rw [argumentsOf_blanks opening, spaced.reads stop, none, List.append_nil]

/-- Empty arguments, quotes alone, quotes in a bare argument, and blanks and brackets in quotes. -/
def entangled : String := "\u3000''\t'it''s'  '''''' a'b\"[\u2028'[x] y' --\n"

def entangledArguments : List String := ["", "it's", "''", "a'b\"[", "[x] y", "--"]

theorem split_spaced_entangled :
    (∃ source, Spaced entangledArguments source ∧ Padded source entangled.toList) ∧
      splitArguments entangled = entangledArguments := by
  have blank {c : Char} (reads : Text.isBlank c = true) : ∀ d ∈ [c], Text.isBlank d = true :=
    List.forall_mem_singleton.mpr reads
  have blanks : ∀ d ∈ [' ', ' '], Text.isBlank d = true := List.forall_mem_cons.mpr ⟨rfl, blank rfl⟩
  obtain ⟨source, spaced, text⟩ : ∃ source, Spaced entangledArguments source ∧
      entangled.toList = ['\u3000'] ++ (source ++ ['\n']) := by
    refine ⟨_,
      @Spaced.cons _ _ _ _ ['\t'] _ (.quoted "") (by decide) (blank rfl) <|
        @Spaced.cons _ _ _ _ [' ', ' '] _ (.quoted "it's") (by decide) blanks <|
          @Spaced.cons _ _ _ _ [' '] _ (.quoted "''") (by decide) (blank rfl) <|
            @Spaced.cons _ _ _ _ ['\u2028'] _ (@Spelling.bare "a'b\"[" (by decide)) (by decide)
                (blank rfl) <|
              @Spaced.cons _ _ _ _ [' '] _ (.quoted "[x] y") (by decide) (blank rfl) <|
                .single (@Spelling.bare "--" (by decide)), ?_⟩
    decide +kernel
  have around : Padded source entangled.toList := by
    rw [text]
    exact .intro (blank rfl) (blank rfl)
  exact ⟨⟨source, spaced, around⟩, split_spaced spaced around⟩

end SearchIndex.Tokenizer
