import Mathlib.Data.Option.Basic
import SearchIndex.Settings

/-!
Contract: what a request holds once the settings are filled in.

Owns: `Completes`, the rules of filling in, and `completes_complete`; `Settled`, the requests that
the settings leave as they are, with `settled_complete` and `complete_of_settled`, by which filling
in ends with one of them; and `Absorbs`, that a change of a request does not tell whether the
settings were filled in before it, with the changes of which this holds.

A request is filled in as soon as it is made, and again after it was changed. What was written the
first time must then count no more than what was left open, which is what `Absorbs` says.
-/

namespace SearchIndex

/-- A value that is given stands for a part, and not another one. -/
theorem some_getD_of_mem {α : Type} {given : Option α} {value other : α} (member : value ∈ given) :
    some (given.getD other) = some value := by
  rw [Option.mem_def.mp member, Option.getD_some]

/-! ### Options of excerpts -/

namespace Search.SnippetOptions

variable {options : SnippetOptions} {style : SnippetStyle}

/-- What is fixed in the options stays as it is. -/
structure Extends (larger options : SnippetOptions) : Prop where
  startMark : ∀ mark ∈ options.startMark, larger.startMark = some mark
  endMark : ∀ mark ∈ options.endMark, larger.endMark = some mark
  ellipsis : ∀ mark ∈ options.ellipsis, larger.ellipsis = some mark
  tokenCount : ∀ count ∈ options.tokenCount, larger.tokenCount = some count

/-- Nothing is left open. -/
structure Fixed (options : SnippetOptions) : Prop where
  startMark : options.startMark ≠ none
  endMark : options.endMark ≠ none
  ellipsis : options.ellipsis ≠ none
  tokenCount : options.tokenCount ≠ none

theorem extends_refl : options.Extends options :=
  ⟨fun _ => id, fun _ => id, fun _ => id, fun _ => id⟩

theorem extends_fill : (options.fill style).Extends options where
  startMark _ := some_getD_of_mem
  endMark _ := some_getD_of_mem
  ellipsis _ := some_getD_of_mem
  tokenCount _ := some_getD_of_mem

theorem fixed_fill : (options.fill style).Fixed :=
  ⟨Option.some_ne_none _, Option.some_ne_none _, Option.some_ne_none _, Option.some_ne_none _⟩

theorem fill_of_fixed (fixed : options.Fixed) : options.fill style = options := by
  rw [fill, Option.getD_of_ne_none fixed.startMark, Option.getD_of_ne_none fixed.endMark,
    Option.getD_of_ne_none fixed.ellipsis, Option.getD_of_ne_none fixed.tokenCount]

end Search.SnippetOptions

namespace Settings

open Search (Request SnippetOptions)

/-! ### Filling in -/

/-- The rules by which the settings complete a request. -/
structure Completes (settings : Settings) (request completed : Request) : Prop where
  query : completed.query = request.query
  columns : completed.columns = request.columns
  offset : completed.offset = request.offset
  includeSnippet : completed.includeSnippet = request.includeSnippet
  limit : completed.limit = min request.limit settings.search.maxLimit
  ranking : completed.ranking = .custom ↔
    request.ranking = .custom ∨ settings.search.ranking = .custom
  k1 : ∀ k1 ∈ request.k1, completed.k1 = some k1
  b : ∀ b ∈ request.b, completed.b = some b
  snippetOptions : ∀ options ∈ request.snippetOptions,
    ∃ larger ∈ completed.snippetOptions, larger.Extends options
  /-- The custom ranking has both of its parameters. -/
  parameters : completed.ranking = .custom →
    completed.k1 = some (request.k1.getD settings.search.k1) ∧
      completed.b = some (request.b.getD settings.search.b)
  /-- An excerpt has all of its options. -/
  excerpt : completed.includeSnippet = true → ∃ options ∈ completed.snippetOptions,
    options.Fixed ∧
      options = (request.snippetOptions.getD .unset).fill settings.search.snippet

/-- Requests in which the settings have nothing to fill in or to bound. -/
structure Settled (settings : Settings) (request : Request) : Prop where
  limit : request.limit ≤ settings.search.maxLimit
  ranking : settings.search.ranking = .custom → request.ranking = .custom
  parameters : request.ranking = .custom → request.k1 ≠ none ∧ request.b ≠ none
  excerpt : request.includeSnippet = true → ∃ options ∈ request.snippetOptions, options.Fixed

/-- The ranking is the custom one, as the request or the settings have it. -/
def AsksCustom (settings : Settings) (request : Request) : Prop :=
  settings.search.ranking = .custom ∨ request.ranking = .custom

instance (settings : Settings) (request : Request) : Decidable (settings.AsksCustom request) :=
  inferInstanceAs (Decidable (_ ∨ _))

section

variable {settings : Settings} {request : Request}

/-- A completed request differs in its limit, its ranking and the form of its excerpts. -/
theorem complete_eq (settings : Settings) (request : Request) :
    settings.complete request =
      { request with
        limit := min request.limit settings.search.maxLimit
        ranking := if settings.AsksCustom request then .custom else request.ranking
        k1 :=
          if settings.AsksCustom request then some (request.k1.getD settings.search.k1)
          else request.k1
        b :=
          if settings.AsksCustom request then some (request.b.getD settings.search.b)
          else request.b
        snippetOptions :=
          if request.includeSnippet then
            some ((request.snippetOptions.getD .unset).fill settings.search.snippet)
          else request.snippetOptions } := by
  unfold complete completeSnippet completeRanking AsksCustom
  split <;> split <;> simp_all

theorem completes_complete (settings : Settings) (request : Request) :
    settings.Completes request (settings.complete request) := by
  rw [complete_eq]
  have custom : (if settings.AsksCustom request then Search.Ranking.custom else request.ranking) =
      .custom ↔ settings.AsksCustom request :=
    ite_eq_left_iff.trans ⟨fun other => by_contra fun plain => plain (.inr (other plain)),
      fun custom plain => (plain custom).elim⟩
  refine ⟨rfl, rfl, rfl, rfl, rfl, custom.trans or_comm, fun k1 given => ?_, fun b given => ?_,
    fun options given => ?_, fun ranked => ?_, fun shown => ?_⟩
  · exact ite_eq_iff'.mpr ⟨fun _ => some_getD_of_mem given, fun _ => given⟩
  · exact ite_eq_iff'.mpr ⟨fun _ => some_getD_of_mem given, fun _ => given⟩
  · dsimp only
    split
    · rw [Option.mem_def.mp given, Option.getD_some]
      exact ⟨_, rfl, SnippetOptions.extends_fill⟩
    · exact ⟨options, given, SnippetOptions.extends_refl⟩
  · exact ⟨if_pos (custom.mp ranked), if_pos (custom.mp ranked)⟩
  · exact ⟨_, if_pos shown, SnippetOptions.fixed_fill, rfl⟩

theorem settled_complete : settings.Settled (settings.complete request) := by
  have rules := settings.completes_complete request
  refine ⟨rules.limit ▸ Std.min_le_right, fun custom => rules.ranking.mpr (.inr custom), ?_, ?_⟩
  · intro custom
    obtain ⟨k1, b⟩ := rules.parameters custom
    rw [k1, b]
    exact ⟨Option.some_ne_none _, Option.some_ne_none _⟩
  · intro shown
    obtain ⟨options, present, fixed, _⟩ := rules.excerpt shown
    exact ⟨options, present, fixed⟩

theorem complete_of_settled (settled : settings.Settled request) :
    settings.complete request = request := by
  have limited :
      { request with limit := min request.limit settings.search.maxLimit } = request := by
    rw [Std.LawfulOrderLeftLeaningMin.min_eq_left _ _ settled.limit]
  have ranked : settings.completeRanking request = request := by
    unfold completeRanking
    split
    · next asked =>
        have custom : request.ranking = .custom := asked.elim settled.ranking id
        obtain ⟨k1, b⟩ := settled.parameters custom
        rw [Option.getD_of_ne_none k1, Option.getD_of_ne_none b, ← custom]
    · rfl
  have shown : settings.completeSnippet request = request := by
    unfold completeSnippet
    split
    · next excerpt =>
        obtain ⟨options, present, fixed⟩ := settled.excerpt excerpt
        rw [Option.mem_def.mp present, Option.getD_some, SnippetOptions.fill_of_fixed fixed,
          ← present]
    · rfl
  rw [complete, limited, ranked, shown]

theorem complete_complete (settings : Settings) (request : Request) :
    settings.complete (settings.complete request) = settings.complete request :=
  complete_of_settled settled_complete

/-! ### Changes -/

/-- It does not matter whether the settings were filled in before a change, if they are after
it. -/
def Absorbs (settings : Settings) (change : Request → Request) : Prop :=
  ∀ request, settings.complete (change (settings.complete request)) =
    settings.complete (change request)

section Changes

variable {outer inner change : Request → Request}

theorem absorbs_id : settings.Absorbs id := complete_complete settings

theorem Absorbs.comp (later : settings.Absorbs outer) (earlier : settings.Absorbs inner) :
    settings.Absorbs (outer ∘ inner) := fun request =>
  calc
    settings.complete (outer (inner (settings.complete request)))
      = settings.complete (outer (settings.complete (inner (settings.complete request)))) :=
        (later _).symm
    _ = settings.complete (outer (settings.complete (inner request))) := by rw [earlier]
    _ = settings.complete (outer (inner request)) := later _

/-- A change that is made if there is a value for it. -/
theorem absorbs_elim {α : Type} {change : α → Request → Request}
    (each : ∀ value, settings.Absorbs (change value)) (given : Option α) :
    settings.Absorbs (given.elim id change) := by
  cases given with
  | none => exact absorbs_id
  | some value => exact each value

/-- What is made of a changed request depends on what is made of the request alone. -/
theorem absorbs_of_factors (finish : Request → Request)
    (factors : ∀ request, settings.complete (change request) = finish (settings.complete request)) :
    settings.Absorbs change := fun request => by
  rw [factors, complete_complete, factors]

theorem absorbs_withColumns (columns : List String) : settings.Absorbs (·.withColumns columns) :=
  absorbs_of_factors (·.withColumns columns) fun request => by
    rw [complete_eq, complete_eq]
    rfl

theorem absorbs_withOffset (offset : UInt32) : settings.Absorbs (·.withOffset offset) :=
  absorbs_of_factors (·.withOffset offset) fun request => by
    rw [complete_eq, complete_eq]
    rfl

/-- Another limit is bounded anew. -/
theorem absorbs_withLimit (limit : UInt32) : settings.Absorbs (·.withLimit limit) :=
  absorbs_of_factors (·.withLimit (min limit settings.search.maxLimit)) fun request => by
    rw [complete_eq, complete_eq]
    rfl

/-- Both parameters of the ranking are replaced. -/
theorem absorbs_withRanking (k1 b : Float) : settings.Absorbs (·.withRanking k1 b) :=
  absorbs_of_factors (·.withRanking k1 b) fun request => by
    have custom : settings.AsksCustom (request.withRanking k1 b) := .inr rfl
    rw [complete_eq, complete_eq]
    simp only [custom, if_true]
    rfl

/-- The options of an excerpt that was not asked for are as they were given. -/
theorem absorbs_withSnippet : settings.Absorbs Request.withSnippet :=
  absorbs_of_factors (fun completed => completed.withSnippetOptions
    ((completed.snippetOptions.getD .unset).fill settings.search.snippet)) fun request => by
    have filled : ((settings.complete request).snippetOptions.getD .unset).fill
        settings.search.snippet =
          (request.snippetOptions.getD .unset).fill settings.search.snippet := by
      rw [complete_eq]
      dsimp only
      split
      · rw [Option.getD_some, SnippetOptions.fill_of_fixed SnippetOptions.fixed_fill]
      · rfl
    rw [filled, complete_eq, complete_eq]
    rfl

end Changes

end

end Settings

end SearchIndex
