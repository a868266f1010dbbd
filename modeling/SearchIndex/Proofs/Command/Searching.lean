import SearchIndex.Command.Run
import SearchIndex.Proofs.Settings

/-!
Contract: the request that a search command makes.

Owns: `absorbs_override`, by which what the command line sets does not tell whether the settings
were filled in before; `asked`, what it sets; and `requestOf_completes`, by which the request is one
that was filled in once.
-/

namespace SearchIndex.Command

open Search (Request)

variable {settings : Settings}

/-- The command line makes one change after another, each only if it sets something. -/
theorem override_eq (arguments : SearchArguments) :
    override arguments =
      (if arguments.snippet then Request.withSnippet else id) ∘
      (arguments.k1.elim id fun k1 => arguments.b.elim id fun b => (·.withRanking k1 b)) ∘
      (·.withOffset arguments.offset) ∘
      (arguments.limit.elim id fun limit => (·.withLimit limit)) ∘
      (arguments.columns.elim id fun columns => (·.withColumns (columnNames columns))) := by
  funext request
  unfold override
  cases arguments.columns <;> cases arguments.limit <;> cases arguments.k1 <;>
    cases arguments.b <;> cases arguments.snippet <;> rfl

theorem absorbs_override (arguments : SearchArguments) :
    settings.Absorbs (override arguments) := by
  have snippet : settings.Absorbs (if arguments.snippet then Request.withSnippet else id) := by
    split
    · exact Settings.absorbs_withSnippet
    · exact Settings.absorbs_id
  rw [override_eq]
  refine snippet.comp (.comp ?_ (.comp (Settings.absorbs_withOffset _) (.comp ?_ ?_)))
  · exact Settings.absorbs_elim (fun k1 => Settings.absorbs_elim (fun b =>
      Settings.absorbs_withRanking k1 b) _) _
  · exact Settings.absorbs_elim (fun limit => Settings.absorbs_withLimit limit) _
  · exact Settings.absorbs_elim (fun columns => Settings.absorbs_withColumns _) _

/-- A request with what a command line sets, where nothing is filled in but the size of a page. Of
the parameters of a ranking one alone counts for nothing. -/
def asked (settings : Settings) (arguments : SearchArguments) : Request where
  query := arguments.query
  columns := arguments.columns.map columnNames
  limit := arguments.limit.getD settings.search.defaultLimit
  offset := arguments.offset
  ranking := if arguments.k1.isSome && arguments.b.isSome then .custom else .standard
  k1 := if arguments.b.isSome then arguments.k1 else none
  b := if arguments.k1.isSome then arguments.b else none
  includeSnippet := arguments.snippet
  snippetOptions := none

theorem override_new (settings : Settings) (arguments : SearchArguments) :
    override arguments ((Request.new arguments.query).withLimit settings.search.defaultLimit) =
      asked settings arguments := by
  unfold override asked
  cases arguments.columns <;> cases arguments.limit <;> cases arguments.k1 <;>
    cases arguments.b <;> cases arguments.snippet <;> rfl

/-- For all settings: a second completion of a request changes nothing, what is given stays, the
page is bounded, and nothing is left open that the ranking or an excerpt needs; and a search
command, which completes its request before and after the command line changes it, makes the request
that is completed once. -/
theorem requestOf_completes (settings : Settings) :
    (∀ request, settings.complete (settings.complete request) = settings.complete request ∧
      settings.Completes request (settings.complete request)) ∧
    ∀ arguments, requestOf settings arguments = settings.complete (asked settings arguments) := by
  refine ⟨fun request => ⟨settings.complete_complete request, settings.completes_complete request⟩,
    fun arguments => ?_⟩
  rw [← override_new]
  exact absorbs_override arguments _

end SearchIndex.Command
