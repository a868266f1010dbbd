import SearchIndex.Proofs.Apply.Step

/-!
Contract: what a run settles, a later run leaves alone.

Owns: `Settled`, that a definition's index is there, needs nothing, and is recorded;
`settled_steps`, by which a run settles each of its definitions; and `steps_of_settled`, by which a
run over settled definitions does nothing but ask.

Of the statements of an index no more is known than what the database gives back. Where there is no
manifest, that its index needs nothing is seen from the statement alone, and it is the law of
recovery that makes it so.
-/

namespace SearchIndex.Apply

open Database

variable {σ : Type} {server : Server σ} {manifest other : Option Manifest}
  {definition : Definition}

/-! ### Decisions that leave an index alone -/

theorem decided_congr {statement : String}
    (same : recordedAction? manifest definition.name statement =
      recordedAction? other definition.name statement)
    (force : Bool) (answer : Except IndexError (Option String)) :
    decided force manifest definition statement answer =
      decided force other definition statement answer := by
  unfold decided
  rw [same]

/-- An index is left alone only where it is there and the run is not forced. -/
theorem exists_of_unchanged {force : Bool} {statement : String}
    {answer : Except IndexError (Option String)}
    (unchanged : decided force manifest definition statement answer = .ok .unchanged) :
    force = false ∧ ∃ sql, answer = .ok (some sql) := by
  match answer with
  | .error _ => contradiction
  | .ok none =>
      simp only [decided, Except.ok.injEq] at unchanged
      contradiction
  | .ok (some sql) =>
      cases force with
      | false => exact ⟨rfl, sql, rfl⟩
      | true =>
          simp only [decided, if_true, Except.ok.injEq] at unchanged
          contradiction

theorem decided_of_current {statement : String} {held : Manifest}
    (current : held.standing definition.name statement = .current) (sql : String) :
    decided false (some held) definition statement (.ok (some sql)) = .ok .unchanged := by
  rw [decided, recordedAction?_eq_unchanged_iff.mpr current]
  rfl

/-- The definition is read back from its own statement. -/
theorem decided_of_written (accepted : definition.validate = .ok ()) {sql : String}
    (written : sql = definition.render ∨ sql ++ ";" = definition.render) :
    decided false none definition definition.render (.ok (some sql)) = .ok .unchanged := by
  have valid := Definition.validate_eq_ok.mp accepted
  have canonicalAccepted := Definition.validate_eq_ok.mpr valid.canonical
  -- With its semicolon or without, the text begins with the stem, and no more of it is read.
  obtain ⟨ending, rfl⟩ : ∃ ending, sql = definition.stem ++ ending := by
    rw [Definition.render_eq] at written
    rcases written with whole | short
    · exact ⟨";", whole⟩
    · refine ⟨"", ?_⟩
      rw [String.append_empty]
      exact String.append_left_inj ";" |>.mp short
  obtain ⟨recovered, read, complete⟩ := Definition.exists_recovered valid ending
  have same : agrees recovered definition = true := by
    rw [agrees, complete]
    simp only [Definition.statement, accepted, canonicalAccepted, Definition.render_canonical]
    exact beq_self_eq_true definition.render
  simp only [decided, recordedAction?, Option.bind_none, Index.recover, read, same]
  rfl

/-! ### Settled definitions -/

/-- Nothing is to be done about a definition: its index is there and needs nothing, and it is
recorded where there is a manifest. -/
structure Settled (manifest : Option Manifest) (answer : Except IndexError (Option String))
    (definition : Definition) : Prop where
  accepted : definition.validate = .ok ()
  unchanged : decided false manifest definition definition.render answer = .ok .unchanged
  recorded : ∀ held ∈ manifest, held.contains definition.name = true

/-- What a step records needs nothing more. Where it records nothing, there was nothing to do. -/
theorem decided_keepRecord {entry : DefinitionEntry} {action : Action} {now : String}
    {triggers : Bool} {sql : String}
    (otherwise : action = .unchanged ∨ manifest = none → decided false manifest entry.definition
      entry.definition.render (.ok (some sql)) = .ok .unchanged) :
    decided false
        (manifest.map (keepRecord now action entry entry.definition.render triggers))
        entry.definition entry.definition.render (.ok (some sql)) =
      .ok .unchanged := by
  cases manifest with
  | none => exact otherwise (.inr rfl)
  | some held =>
      by_cases recorded : action ≠ .unchanged ∨ held.contains entry.definition.name = false
      · exact decided_of_current (standing_keepRecord recorded) sql
      · rw [Option.map_some, keepRecord, if_neg (by simpa using recorded)]
        rw [not_or, not_not] at recorded
        exact otherwise (.inl recorded.1)

section Settling

variable {definitions : List Definition} (keeps : server.KeepsStatements definitions)
  {options : Options} {entry : DefinitionEntry} {before after : Progress σ}

include keeps

variable (member : entry.definition ∈ definitions)
  (success : step server options entry before = (.ok (), after))

include member success

/-- A step settles its definition. -/
theorem settled_step (real : options.dryRun = false) :
    Settled after.manifest (server.stored entry.definition.name after.database)
      entry.definition := by
  have recorded (action : Action) (triggers : Bool) : ∀ held ∈ before.manifest.map (keepRecord
      options.now action entry entry.definition.render triggers),
      held.contains entry.definition.name = true := by
    intro held included
    obtain ⟨old, _, rfl⟩ := Option.mem_map.mp included
    exact contains_keepRecord
  have stepped := stepped_of_step success
  cases stepped with
  | planned accepted found dry =>
      rw [real] at dry
      contradiction
  | @left database accepted found =>
      have unchanged := decision_eq (keeps.asking _ member) options.force before.manifest
        entry.definition.render before.database
      rw [found, ← stored_of_decision (keeps.asking _ member) found] at unchanged
      obtain ⟨unforced, sql, stored⟩ := exists_of_unchanged unchanged.symm
      rw [unforced, stored] at unchanged
      refine ⟨accepted, ?_, recorded _ _⟩
      simp only [stored]
      exact decided_keepRecord fun _ => unchanged.symm
  | made accepted found _ makes committed =>
      obtain ⟨sql, written, stored⟩ := keeps.making _ member _ (drops_mem ..) _ _ _ _ committed
      refine ⟨accepted, ?_, recorded _ _⟩
      simp only [stored]
      refine decided_keepRecord fun otherwise => ?_
      rcases otherwise with unchanged | missing
      · contradiction
      · rw [missing]
        exact decided_of_written accepted written

/-- A step leaves settled what is settled of other definitions. -/
theorem settled_step_of_ne (included : definition ∈ definitions)
    (different : entry.definition.name ≠ definition.name)
    (settled : Settled before.manifest (server.stored definition.name before.database)
      definition) :
    Settled after.manifest (server.stored definition.name after.database) definition := by
  have stepped := stepped_of_step success
  have stored := stored_of_step keeps.leavesOthers member success included different
  refine ⟨settled.accepted, ?_, ?_⟩
  · rw [stored, decided_congr (stepped.recordedAction?_eq different definition.render)]
    exact settled.unchanged
  · rcases stepped.manifest_eq with same | ⟨action, triggers, changed⟩
    · rw [same]
      exact settled.recorded
    · rw [changed]
      intro held kept
      obtain ⟨old, before, rfl⟩ := Option.mem_map.mp kept
      have recorded := settled.recorded old before
      rw [Manifest.contains_eq_isSome] at recorded ⊢
      rw [get?_keepRecord_of_ne different]
      exact recorded

end Settling

/-! ### Runs that settle -/

/-- All definitions are settled but those to come. -/
def SettledBut (server : Server σ) (entries rest : List DefinitionEntry) (progress : Progress σ) :
    Prop :=
  rest ⊆ entries ∧ ∀ entry ∈ entries, entry ∈ rest ∨
    Settled progress.manifest (server.stored entry.definition.name progress.database)
      entry.definition

section Runs

variable {definitions : List Definition} (keeps : server.KeepsStatements definitions)
  {options : Options} (real : options.dryRun = false) {entries : List DefinitionEntry}
  (within : ∀ entry ∈ entries, entry.definition ∈ definitions)
  (distinct : (entries.map fun entry => entry.definition.name).Nodup)

include keeps real within distinct

theorem settledBut_step {entry : DefinitionEntry} {rest : List DefinitionEntry}
    {before after : Progress σ} (settled : SettledBut server entries (entry :: rest) before)
    (success : step server options entry before = (.ok (), after)) :
    SettledBut server entries rest after := by
  obtain ⟨included, others⟩ := settled
  have member : entry ∈ entries := included List.mem_cons_self
  refine ⟨fun other later => included (List.mem_cons_of_mem entry later), ?_⟩
  intro other otherMember
  by_cases same : other = entry
  · rw [same]
    exact .inr (settled_step keeps (within entry member) success real)
  · rcases others other otherMember with listed | settled
    · exact .inl ((List.mem_cons.mp listed).resolve_left same)
    · -- Another definition of the set has another name, so that the step leaves it as it is.
      have different : entry.definition.name ≠ other.definition.name := fun equal =>
        same (List.inj_on_of_nodup_map distinct otherMember member equal.symm)
      exact .inr (settled_step_of_ne keeps (within entry member) success
        (within other otherMember) different settled)

/-- A run settles each of its definitions. -/
theorem settled_steps {before after : Progress σ}
    (success : steps server options entries before = (.ok (), after)) :
    ∀ entry ∈ entries, Settled after.manifest
      (server.stored entry.definition.name after.database) entry.definition := by
  have start : SettledBut server entries entries before :=
    ⟨List.Subset.refl entries, fun entry member => .inl member⟩
  have run := steps_induction server options (SettledBut server entries)
    (fun _ _ _ _ settled success => settledBut_step keeps real within distinct settled success)
    entries start
  rw [success] at run
  intro entry member
  exact (run.2 entry member).resolve_left List.not_mem_nil

end Runs

/-! ### Runs over settled definitions -/

section Settled

variable {property : σ → Prop}
  (asking : ∀ table state, property state →
    property (server.execute (.storedStatement table) state).2)
  {options : Options} (unforced : options.force = false)

include asking unforced

theorem step_of_settled {entry : DefinitionEntry} {before : Progress σ}
    (steady : ∀ table state, server.stored entry.definition.name
      (server.execute (.storedStatement table) state).2 =
        server.stored entry.definition.name state)
    (settled : Settled before.manifest
      (server.stored entry.definition.name before.database) entry.definition)
    (holds : property before.database) :
    ∃ after, step server options entry before = (.ok (), after) ∧
      after.manifest = before.manifest ∧
      after.decided = before.deciding entry.definition .unchanged ∧ property after.database := by
  have unchanged := decision_eq steady options.force before.manifest entry.definition.render
    before.database
  have kept := keeps_decision asking options.force before.manifest entry.definition
    entry.definition.render before.database holds
  rw [unforced, settled.unchanged] at unchanged
  rcases outcome : step server options entry before with ⟨result, after⟩
  have stepped := stepped_of_step outcome
  cases stepped with
  | invalid rejected =>
      rw [settled.accepted] at rejected
      contradiction
  | undecided _ failed =>
      rw [← unforced, failed] at unchanged
      contradiction
  | refused _ found _ makes =>
      rw [← unforced, found, Except.ok.injEq] at unchanged
      contradiction
  | made _ found _ makes =>
      rw [← unforced, found, Except.ok.injEq] at unchanged
      contradiction
  | planned _ found =>
      rw [found] at kept
      rw [← unforced, found, Except.ok.injEq] at unchanged
      subst unchanged
      exact ⟨_, rfl, rfl, rfl, kept⟩
  | left _ found =>
      rw [found] at kept
      refine ⟨_, rfl, ?_, rfl, kept⟩
      cases manifest : before.manifest with
      | none => rfl
      | some held =>
          have recorded := settled.recorded held manifest
          simp [keepRecord, recorded]

/-- A run over settled definitions decides to leave every index alone, and does nothing but ask. -/
theorem steps_of_settled {entries : List DefinitionEntry} {before : Progress σ}
    (steady : ∀ entry ∈ entries, ∀ table state, server.stored entry.definition.name
      (server.execute (.storedStatement table) state).2 =
        server.stored entry.definition.name state)
    (settled : ∀ entry ∈ entries, Settled before.manifest
      (server.stored entry.definition.name before.database) entry.definition)
    (holds : property before.database) :
    ∃ after, steps server options entries before = (.ok (), after) ∧
      after.manifest = before.manifest ∧
      after.decided = before.decided ++
        entries.map (fun entry => (entry.definition.name, .unchanged)) ∧
      property after.database := by
  induction entries generalizing before with
  | nil => exact ⟨before, rfl, rfl, (List.append_nil _).symm, holds⟩
  | cons entry rest inductionHypothesis =>
      rw [List.forall_mem_cons] at steady settled
      -- Beside the property, the first step keeps the statements that the later ones ask for.
      have askingBoth (table : String) (state : σ)
          (both : property state ∧ ∀ later ∈ rest,
            server.stored later.definition.name state =
              server.stored later.definition.name before.database) :
          property (server.execute (.storedStatement table) state).2 ∧ ∀ later ∈ rest,
            server.stored later.definition.name (server.execute (.storedStatement table) state).2 =
              server.stored later.definition.name before.database :=
        ⟨asking table state both.1, fun later member =>
          (steady.2 later member table state).trans (both.2 later member)⟩
      obtain ⟨between, first, manifest, decided, kept, stored⟩ := step_of_settled askingBoth
        unforced steady.1 settled.1 ⟨holds, fun _ _ => rfl⟩
      have settledRest : ∀ later ∈ rest, Settled between.manifest
          (server.stored later.definition.name between.database) later.definition := by
        intro later member
        rw [manifest, stored later member]
        exact settled.2 later member
      obtain ⟨after, others, manifestAfter, decidedAfter, keptAfter⟩ :=
        inductionHypothesis steady.2 settledRest kept
      refine ⟨after, ?_, manifestAfter.trans manifest, ?_, keptAfter⟩
      · rw [steps, Work.bind_of_ok first]
        exact others
      · rw [decidedAfter, decided, Progress.deciding, List.append_assoc]
        rfl

end Settled

end SearchIndex.Apply
