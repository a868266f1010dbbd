import SearchIndex.Proofs.Apply.Settled
import SearchIndex.Proofs.Apply.Watched

/-!
Contract: a dry run decides as the run itself does.

Owns: `names_decided_steps`, which definitions a run decided about; `Abreast`, that a dry run and a
real run have made the same decisions and have the same grounds for those to come, with
`steps_abreast`, by which the decisions of the real run are the first of those of the dry run; and
`Told`, what a dry run tells and sends.

The real run changes the database and its manifest between two decisions. Each change touches the
grounds of its own definition only, and that definition does not come again.
-/

namespace SearchIndex.Apply

open Database

variable {σ : Type} {server : Server σ} {options : Options} {entry : DefinitionEntry}

/-! ### Decisions along a run -/

section Along

variable {before after : Progress σ} {result : Except String Unit}

/-- A step whose definition is accepted and whose database answers has decided, and a dry one ends
well then. Any other step stops without a decision. -/
theorem Stepped.decision_eq (stepped : Stepped server options entry before (result, after)) :
    match entry.definition.validate, (decision server options.force before.manifest
      entry.definition entry.definition.render before.database).1 with
    | .ok (), .ok action => after.decided = before.deciding entry.definition action ∧
        (options.dryRun = true → result = .ok ())
    | _, _ => after.decided = before.decided ∧ ∃ message, result = .error message := by
  cases stepped with
  | invalid rejected =>
      rw [rejected]
      exact ⟨rfl, _, rfl⟩
  | undecided accepted failed =>
      rw [accepted, failed]
      exact ⟨rfl, _, rfl⟩
  | planned accepted found =>
      rw [accepted, found]
      exact ⟨rfl, fun _ => rfl⟩
  | left accepted found =>
      rw [accepted, found]
      exact ⟨rfl, fun _ => rfl⟩
  | refused accepted found real =>
      rw [accepted, found]
      refine ⟨rfl, fun dry => ?_⟩
      rw [real] at dry
      contradiction
  | made accepted found =>
      rw [accepted, found]
      exact ⟨rfl, fun _ => rfl⟩

theorem Stepped.decided_eq (stepped : Stepped server options entry before (result, after)) :
    (∃ action, after.decided = before.deciding entry.definition action) ∨
      after.decided = before.decided ∧ ∃ message, result = .error message := by
  have decision := stepped.decision_eq
  split at decision
  · exact .inl ⟨_, decision.1⟩
  · exact .inr decision

theorem Stepped.prefix_decided (stepped : Stepped server options entry before (result, after)) :
    before.decided <+: after.decided := by
  rcases stepped.decided_eq with ⟨action, decided⟩ | ⟨decided, _⟩
  · rw [decided]
    exact List.prefix_append _ _
  · exact decided ▸ List.prefix_refl _

theorem prefix_decided_steps (entries : List DefinitionEntry) :
    before.decided <+: (steps server options entries before).2.decided := by
  have run := steps_induction server options (fun _ progress => before.decided <+: progress.decided)
    (fun _ _ _ _ earlier success => earlier.trans (stepped_of_step success).prefix_decided)
    entries (List.prefix_refl before.decided)
  rcases ended : steps server options entries before with ⟨result, last⟩
  rw [ended] at run
  cases result with
  | ok _ => exact run
  | error message =>
      obtain ⟨entry, rest, between, earlier, failed⟩ := run
      exact earlier.trans (stepped_of_step failed).prefix_decided

/-- A run decides about its definitions in order; if it ends well, about all of them. -/
theorem names_decided_steps {entries : List DefinitionEntry}
    (run : steps server options entries before = (result, after)) :
    after.decided.map Prod.fst <+:
        before.decided.map Prod.fst ++ entries.map (fun entry => entry.definition.name) ∧
      (result = .ok () → after.decided.map Prod.fst =
        before.decided.map Prod.fst ++ entries.map fun entry => entry.definition.name) := by
  induction entries generalizing before with
  | nil =>
      obtain ⟨rfl, rfl⟩ := Prod.mk.inj run
      simp
  | cons entry rest inductionHypothesis =>
      rcases first : step server options entry before with ⟨ended, between⟩
      have stepped := stepped_of_step first
      cases ended with
      | error message =>
          rw [steps, Work.bind_of_error first] at run
          obtain ⟨rfl, rfl⟩ := Prod.mk.inj run
          refine ⟨?_, fun success => by contradiction⟩
          rcases stepped.decided_eq with ⟨action, decided⟩ | ⟨decided, _⟩
          · simp [decided, Progress.deciding]
          · rw [decided]
            exact List.prefix_append _ _
      | ok _ =>
          rw [steps, Work.bind_of_ok first] at run
          rcases stepped.decided_eq with ⟨action, decided⟩ | ⟨_, message, failed⟩
          · have later := inductionHypothesis run
            rw [decided, Progress.deciding] at later
            simpa using later
          · contradiction

end Along

/-! ### Two runs abreast -/

/-- Two runs before the same definitions: their decisions are the same so far, and so is all that
the decisions to come depend on. -/
structure Abreast (server : Server σ) (rest : List DefinitionEntry) (planned carried : Progress σ) :
    Prop where
  distinct : (rest.map fun entry => entry.definition.name).Nodup
  decided_eq : planned.decided = carried.decided
  stored_eq : ∀ entry ∈ rest, server.stored entry.definition.name planned.database =
    server.stored entry.definition.name carried.database
  recorded_eq : ∀ entry ∈ rest, ∀ statement,
    recordedAction? planned.manifest entry.definition.name statement =
      recordedAction? carried.manifest entry.definition.name statement

section Abreast

variable {definitions : List Definition} (leaves : server.LeavesOthers definitions)
  {rest : List DefinitionEntry} {planned carried : Progress σ}

include leaves

theorem decision_of_abreast (member : entry.definition ∈ definitions)
    (abreast : Abreast server (entry :: rest) planned carried) (force : Bool) :
    (decision server force planned.manifest entry.definition entry.definition.render
        planned.database).1 =
      (decision server force carried.manifest entry.definition entry.definition.render
        carried.database).1 := by
  have steady := leaves.asking entry.definition member
  rw [decision_eq steady, decision_eq steady, abreast.stored_eq entry List.mem_cons_self]
  exact decided_congr (abreast.recorded_eq entry List.mem_cons_self _) force _

/-- Two steps that end well come out abreast again. -/
theorem Abreast.of_steps {dry real : Options} {plannedAfter carriedAfter : Progress σ}
    (within : ∀ later ∈ entry :: rest, later.definition ∈ definitions)
    (abreast : Abreast server (entry :: rest) planned carried)
    (decided : plannedAfter.decided = carriedAfter.decided)
    (plans : step server dry entry planned = (.ok (), plannedAfter))
    (carries : step server real entry carried = (.ok (), carriedAfter)) :
    Abreast server rest plannedAfter carriedAfter := by
  have distinct := abreast.distinct
  rw [List.map_cons, List.nodup_cons] at distinct
  rw [List.forall_mem_cons] at within
  have different (later : DefinitionEntry) (member : later ∈ rest) :
      entry.definition.name ≠ later.definition.name :=
    fun same => distinct.1 (same ▸ List.mem_map_of_mem member)
  refine ⟨distinct.2, decided, fun later member => ?_, fun later member statement => ?_⟩
  · rw [stored_of_step leaves within.1 plans (within.2 later member) (different later member),
      stored_of_step leaves within.1 carries (within.2 later member) (different later member)]
    exact abreast.stored_eq later (List.mem_cons_of_mem entry member)
  · rw [(stepped_of_step plans).recordedAction?_eq (different later member),
      (stepped_of_step carries).recordedAction?_eq (different later member)]
    exact abreast.recorded_eq later (List.mem_cons_of_mem entry member) statement

/-- Abreast, both steps decide the same, and the dry one fails only where the other one does. -/
theorem step_abreast {dry real : Options} (planning : dry.dryRun = true)
    (force : dry.force = real.force) (member : entry.definition ∈ definitions)
    (abreast : Abreast server (entry :: rest) planned carried)
    {result other : Except String Unit} {plannedAfter carriedAfter : Progress σ}
    (plans : step server dry entry planned = (result, plannedAfter))
    (carries : step server real entry carried = (other, carriedAfter)) :
    plannedAfter.decided = carriedAfter.decided ∧ (other = .ok () → result = .ok ()) := by
  have plan := (stepped_of_step plans).decision_eq
  have act := (stepped_of_step carries).decision_eq
  rw [← force, ← decision_of_abreast leaves member abreast] at act
  split at plan
  · next action accepted found =>
      rw [accepted, found] at act
      refine ⟨?_, fun _ => plan.2 planning⟩
      rw [plan.1, act.1, Progress.deciding, Progress.deciding, abreast.decided_eq]
  · next undecided =>
      split at act
      · next accepted found => exact (undecided _ accepted found).elim
      · obtain ⟨same, message, failed⟩ := act
        refine ⟨by rw [plan.1, same, abreast.decided_eq], fun success => ?_⟩
        rw [failed] at success
        contradiction

/-- What a dry run decides begins with all that the run itself decides. If the run ends well, so
does the dry run. -/
theorem steps_abreast {dry real : Options} (planning : dry.dryRun = true)
    (force : dry.force = real.force) {entries : List DefinitionEntry}
    (within : ∀ entry ∈ entries, entry.definition ∈ definitions)
    (abreast : Abreast server entries planned carried) :
    (steps server real entries carried).2.decided <+:
        (steps server dry entries planned).2.decided ∧
      ((steps server real entries carried).1 = .ok () →
        (steps server dry entries planned).1 = .ok ()) := by
  induction entries generalizing planned carried with
  | nil => exact ⟨by rw [steps, steps]; exact abreast.decided_eq ▸ List.prefix_refl _, fun _ => rfl⟩
  | cons entry rest inductionHypothesis =>
      rcases plans : step server dry entry planned with ⟨result, plannedAfter⟩
      rcases carries : step server real entry carried with ⟨other, carriedAfter⟩
      have both := step_abreast leaves planning force (within entry List.mem_cons_self) abreast
        plans carries
      cases other with
      | error message =>
          rw [steps, Work.bind_of_error carries]
          refine ⟨?_, fun success => by contradiction⟩
          rw [← both.1]
          -- The run stops here. The dry run may go on, and then decides more.
          cases result with
          | error reason =>
              have stops : (steps server dry (entry :: rest) planned).2 = plannedAfter := by
                rw [steps, Work.bind_of_error plans]
              exact stops ▸ List.prefix_refl _
          | ok _ =>
              rw [steps, Work.bind_of_ok plans]
              exact prefix_decided_steps rest
      | ok _ =>
          obtain rfl := both.2 rfl
          have later := abreast.of_steps leaves within both.1 plans carries
          rw [steps, steps, Work.bind_of_ok carries, Work.bind_of_ok plans]
          exact inductionHypothesis (fun later member => within later (List.mem_cons_of_mem _ member))
            later

end Abreast

/-! ### What a dry run tells and sends -/

/-- The line that tells what was decided about an index. -/
def lineOf (plan : String × Action) : String := planLine plan.2 plan.1

/-- What was decided was told, and nothing was done but to ask. -/
structure Told (start : Watched σ) (progress : Progress (Watched σ)) : Prop where
  lines_eq : progress.lines = progress.decided.map lineOf
  asked : Questioned start progress.database

section Told

variable {dry : Options} (planning : dry.dryRun = true) {start : Watched σ}
  {before : Progress (Watched σ)}

include planning

theorem Told.of_stepped {after : Progress (Watched σ)} {result : Except String Unit}
    (told : Told start before) (stepped : Stepped server.watched dry entry before (result, after)) :
    Told start after := by
  have contrary {goal : Prop} (real : dry.dryRun = false) : goal := by
    rw [planning] at real
    contradiction
  cases stepped with
  | invalid => exact told
  | undecided _ failed => exact ⟨told.lines_eq, told.asked.trans (questioned_of_decision failed)⟩
  | planned _ found =>
      refine ⟨?_, told.asked.trans (questioned_of_decision found)⟩
      simp only [told.lines_eq, Progress.deciding, List.map_append]
      rfl
  | left _ _ real => exact contrary real
  | refused _ _ real => exact contrary real
  | made _ _ real => exact contrary real

theorem told_steps (entries : List DefinitionEntry) (told : Told start before) :
    Told start (steps server.watched dry entries before).2 := by
  have run := steps_induction server.watched dry (fun _ progress => Told start progress)
    (fun _ _ _ _ told success => told.of_stepped planning (stepped_of_step success)) entries told
  rcases ended : steps server.watched dry entries before with ⟨result, last⟩
  rw [ended] at run
  cases result with
  | ok _ => exact run
  | error message =>
      obtain ⟨entry, rest, between, told, failed⟩ := run
      exact told.of_stepped planning (stepped_of_step failed)

end Told

end SearchIndex.Apply
