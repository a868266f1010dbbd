import SearchIndex.Proofs.Database.Catalog
import SearchIndex.Proofs.Index
import SearchIndex.Proofs.Sql.Source
import SearchIndex.Proofs.Text.Reading

/-!
Contract: which statements are taken for those of an index.

Owns: `Mentions`, the letters that a statement is searched for, with `mentions_around_keyword`, by
which they stand before the `USING` of its head, begin with it, or stand behind it;
`begins_iff_names`, when they begin with it; `detected_iff`; and `detection_not_by_name`, by which
the name of the module alone does not tell.

The search knows nothing of tokens. It finds the module if one space and a bare name follow, of
which only the beginning counts, and it finds the same letters in a comment or between quotes.
-/

namespace SearchIndex.Definition

open Sql Database

/-- The letters by which an index is detected stand in a text, in capital or small letters. -/
def Mentions (text : List Char) : Prop := "using fts5".toList <:+: text.map Char.toLower

instance (text : List Char) : Decidable (Mentions text) :=
  decidable_of_iff (Text.occurs "using fts5".toList (text.map Char.toLower) = true) Text.occurs_iff

theorem isSome_ofStatement?_iff {sql : String} :
    (Recovered.ofStatement? sql).isSome = true ↔ Mentions sql.toList := by
  rw [Mentions, ← Text.occurs_iff]
  change _ ↔ isIndexStatement sql = true
  unfold Recovered.ofStatement?
  split
  · next found => simp [found]
  · next missing => simp [missing]

/-- As `u` is no further letter of what is searched for, no occurrence begins before a `USING` and
ends behind its first letter, and none begins at one of its other letters. -/
theorem mentions_around_keyword {front keyword tail : List Char}
    (spelled : keyword.map Char.toLower = "using".toList) :
    Mentions (front ++ (keyword ++ tail)) ↔
      Mentions front ∨ " fts5".toList <+: tail.map Char.toLower ∨ Mentions tail := by
  have lowered : (front ++ (keyword ++ tail)).map Char.toLower =
      front.map Char.toLower ++ 'u' :: ("sing".toList ++ tail.map Char.toLower) := by
    rw [List.map_append, List.map_append, spelled]
    rfl
  have searched : "using fts5".toList = 'u' :: ("sing".toList ++ " fts5".toList) := by decide
  unfold Mentions
  rw [lowered, searched, Text.infix_append_cons_iff (by decide), List.prefix_append_right_inj,
    Text.infix_append_iff_of_not_mem (by decide)]

example : Mentions "/* not USING FTS5 */".toList := by decide

/-- What goes on with a space and a letter has no other gap than that space: neither begins a
comment, and the letter begins a token. -/
theorem gap_eq_space {gap source rest : List Char} {token : Token}
    (scans : Token.Scans (gap ++ (source ++ rest)) [] (source ++ rest))
    (stands : Token.Stands token source rest)
    (begins : " fts5".toList <+: (gap ++ (source ++ rest)).map Char.toLower) : gap = [' '] := by
  cases gap with
  | nil =>
      cases stands with
      | @read c _ _ _ visible =>
          have space : ' ' = c.toLower := (List.cons_prefix_cons.mp begins).1
          rw [Token.eq_of_toLower space.symm (by decide)] at visible
          contradiction
  | cons c gap =>
      obtain ⟨space, letters⟩ := List.cons_prefix_cons.mp begins
      obtain rfl : c = ' ' := Token.eq_of_toLower space.symm (by decide)
      rcases scans.of_cons (by simp) with ⟨_, further⟩ | comment
      · cases gap with
        | nil => rfl
        | cons d gap =>
            have letter : 'f' = d.toLower := (List.cons_prefix_cons.mp letters).1
            have word : Token.isWordChar d = true :=
              Token.isWordChar_of_toLower (by rw [← letter]; decide)
            rcases further.of_cons (by simp) with ⟨blank, _⟩ | comment
            · rw [Token.isBlank_of_isWordChar word] at blank
              contradiction
            · rw [Token.afterComment?_of_isWordChar word] at comment
              contradiction
      · contradiction

section Head

variable {sql : String} {head : Head} (parts : HeadText sql head)

/-- One space stands before the name of the module, which is bare and begins with `fts5`. -/
def NamesIndex : Prop :=
  parts.gap = [' '] ∧ parts.moduleToken = .word head.moduleName ∧
    "fts5".toList <+: head.moduleName.toList.map Char.toLower

/-- The module is found, or the letters are found elsewhere. -/
def IsDetected : Prop :=
  NamesIndex parts ∨ Mentions parts.front ∨ Mentions (parts.gap ++ (parts.source ++ parts.rest))

theorem begins_iff_names :
    " fts5".toList <+: (parts.gap ++ (parts.source ++ parts.rest)).map Char.toLower ↔
      NamesIndex parts := by
  constructor
  · intro begins
    have gap := gap_eq_space parts.scans_gap parts.stands_source begins
    rw [gap] at begins
    have name : "fts5".toList <+: (parts.source ++ parts.rest).map Char.toLower :=
      (List.cons_prefix_cons.mp begins).2
    obtain ⟨word, token, spelled⟩ := parts.stands_source.exists_word name rfl rfl
    have named := parts.name_eq
    rw [token] at named
    obtain rfl := Option.some.inj named
    exact ⟨gap, token, spelled⟩
  · rintro ⟨gap, token, spelled⟩
    have stands := parts.stands_source
    rw [token] at stands
    rw [gap, stands.source_eq, List.map_append, List.map_append]
    exact List.cons_prefix_cons.mpr ⟨rfl, spelled.trans (List.prefix_append _ _)⟩

end Head

/-- A statement with a head is taken for that of an index exactly if its module is found there, or
the same letters elsewhere. Otherwise reading the index tells that it is none. -/
theorem detected_iff {sql : String} {head : Head}
    (accepted : (VirtualTable.parse sql).head = .ok head) :
    Nonempty (HeadText sql head) ∧ ∀ parts : HeadText sql head,
      ((Recovered.ofStatement? sql).isSome = true ↔ IsDetected parts) ∧
      ∀ (σ : Type) (server : Server σ) (index : String) (state : σ),
        server.stored index state = .ok (some sql) →
          ((server.run (Index.load index) state).1 = .error (.notAnIndex index) ↔
            ¬ IsDetected parts) := by
  refine ⟨exists_headText accepted, fun parts => ?_⟩
  have detected : (Recovered.ofStatement? sql).isSome = true ↔ IsDetected parts := by
    rw [isSome_ofStatement?_iff, parts.text_eq, mentions_around_keyword parts.keyword_eq,
      begins_iff_names, IsDetected, or_left_comm]
  refine ⟨detected, fun σ server index state stored => ?_⟩
  rw [Index.run_load, stored, ← detected]
  simp only [Except.bind, Index.recover]
  cases Recovered.ofStatement? sql with
  | none => simp
  | some recovered => simp

/-- A module whose name stands between quotes. -/
def quotedModule : String := "CREATE VIRTUAL TABLE t USING \"fts5\"(a)"

def quotedCatalog : Catalog := ⟨⟨[("t", quotedModule)], List.pairwise_singleton _ _⟩, .empty⟩

theorem detected_iff_quoted :
    (VirtualTable.parse quotedModule).head = .ok ⟨false, none, "t", "fts5"⟩ ∧
      (∃ parts : HeadText quotedModule ⟨false, none, "t", "fts5"⟩, ¬ IsDetected parts) ∧
      (Catalog.server.run (Index.load "t") quotedCatalog).1 = .error (.notAnIndex "t") := by
  have accepted : (VirtualTable.parse quotedModule).head = .ok ⟨false, none, "t", "fts5"⟩ := by
    decide +kernel
  have missed : ¬ (Recovered.ofStatement? quotedModule).isSome = true := by decide +kernel
  obtain ⟨⟨parts⟩, detected⟩ := detected_iff accepted
  obtain ⟨found, loaded⟩ := detected parts
  have undetected : ¬ IsDetected parts := fun holds => missed (found.mpr holds)
  refine ⟨accepted, ⟨parts, undetected⟩, (loaded Catalog Catalog.server "t" quotedCatalog ?_).mpr
    undetected⟩
  rw [Catalog.stored_eq]
  rfl

/-- A module with two spaces before its name. -/
def spacedModule : String := "CREATE VIRTUAL TABLE t USING  fts5(a)"

/-- A module of another name that begins with the same letters. -/
def longerModule : String := "CREATE VIRTUAL TABLE t USING fts5vocab(a, row)"

/-- The name of the module does not decide: not every index is detected, and not only indexes
are. -/
theorem detection_not_by_name :
    (¬ ∀ sql head, (VirtualTable.parse sql).head = .ok head →
        Text.sameLetters head.moduleName "fts5" = true →
          (Recovered.ofStatement? sql).isSome = true) ∧
      ¬ ∀ sql head, (VirtualTable.parse sql).head = .ok head →
        (Recovered.ofStatement? sql).isSome = true →
          Text.sameLetters head.moduleName "fts5" = true := by
  have spaced : (VirtualTable.parse spacedModule).head = .ok ⟨false, none, "t", "fts5"⟩ := by
    decide +kernel
  have longer : (VirtualTable.parse longerModule).head = .ok ⟨false, none, "t", "fts5vocab"⟩ := by
    decide +kernel
  refine ⟨fun complete => ?_, fun sound => ?_⟩
  · have detected := complete spacedModule _ spaced (by decide)
    exact absurd detected (by decide +kernel)
  · have named := sound longerModule _ longer (by decide +kernel)
    exact absurd named (by decide)

end SearchIndex.Definition
