import SearchIndex.Database.Session
import SearchIndex.Proofs.Index
import SearchIndex.Proofs.NameMap

/-!
Contract: a catalog keeps the statements of its indexes.

Owns: `stored_eq`, the statement that a catalog gives for a table; `Apart`, that the tables of an
index are not the table of another; and `atomic` and `keepsStatements`, by which a catalog does what
is taken for granted of a database, with indexes that are apart.
-/

namespace SearchIndex.Database.Catalog

variable {catalog after : Catalog} {definition : Definition} {name other : String}

/-! ### Reading -/

theorem stored_eq (table : String) (catalog : Catalog) :
    server.stored table catalog = .ok (catalog.tables.get? table) := by
  change (server.run (.execute (.storedStatement table) _) catalog).1 = _
  simp only [Server.run, server, change, answer]
  cases catalog.tables.get? table <;> rfl

/-- Of a statement at most the closing semicolon is not kept. -/
theorem storedText_eq (sql : String) : storedText sql = sql ∨ storedText sql ++ ";" = sql := by
  unfold storedText
  split
  · next last =>
      right
      have whole := List.dropLast_append_getLast? ';' last
      rw [← String.toList_inj, String.toList_append, String.toList_ofList]
      exact whole
  · exact .inl rfl

theorem atomic : server.Atomic where
  asking := fun _ _ => rfl
  refusing := fun statements state error after refused => by
    simp only [server] at refused
    split at refused
    · cases (Prod.mk.inj refused).1
    · exact (Prod.mk.inj refused).2.symm

/-! ### Tables that are left alone -/

theorem sameLetters_iff {left right : String} :
    Text.sameLetters left right = true ↔
      left.toList.map Char.toLower = right.toList.map Char.toLower :=
  beq_iff_eq

theorem sameLetters_of_findName? {α : Type} {map : NameMap α} {found : String}
    (search : findName? map name = some found) : Text.sameLetters found name = true := by
  have same := List.find?_some search
  exact same

theorem get?_without {α : Type} {map : NameMap α} (different : ¬ Text.sameLetters other name) :
    (without map name).get? other = map.get? other := by
  unfold without
  split
  · next found search =>
      have same := sameLetters_of_findName? search
      have unequal : found ≠ other := fun equal => different (equal ▸ same)
      rw [NameMap.get?_erase, if_neg unequal]
  · rfl

/-- A check does not change what is checked. -/
theorem eq_of_checked {check : Except String Unit} {kept : Catalog}
    (success : (check >>= fun _ => Except.ok kept) = .ok after) : kept = after := by
  cases check with
  | error reason => contradiction
  | ok _ => exact Except.ok.inj success

theorem get?_foldl_eraseTable {tables : List String}
    (different : ∀ table ∈ tables, ¬ Text.sameLetters other table) :
    (tables.foldl eraseTable catalog).tables.get? other = catalog.tables.get? other := by
  induction tables generalizing catalog with
  | nil => rfl
  | cons table rest inductionHypothesis =>
      rw [List.forall_mem_cons] at different
      rw [List.foldl_cons, inductionHypothesis different.2]
      exact get?_without different.1

/-- The tables of an index: its own, and its shadows. -/
def tableNames (name : String) : List String := name :: Shadow.all.map (Shadow.name name)

/-- The table of another index is none of the tables of an index. -/
def Apart (name other : String) : Prop :=
  ∀ table ∈ tableNames name, ¬ Text.sameLetters other table

instance (name other : String) : Decidable (Apart name other) :=
  inferInstanceAs (Decidable (∀ table ∈ tableNames name, ¬ Text.sameLetters other table))

section Apart

variable (apart : Apart name other)

include apart

theorem Apart.ne {table : String} (member : table ∈ tableNames name) : table ≠ other := by
  rintro rfl
  exact apart table member (sameLetters_iff.mpr rfl)

/-- The tables of an index are the same in capital and in small letters. -/
theorem Apart.of_sameLetters {found : String} (same : Text.sameLetters found name) :
    Apart found other := by
  rw [sameLetters_iff] at same
  intro table member spelled
  rcases List.mem_cons.mp member with rfl | shadow
  · rw [sameLetters_iff, same, ← sameLetters_iff] at spelled
    exact apart name List.mem_cons_self spelled
  · obtain ⟨shadow, listed, rfl⟩ := List.mem_map.mp shadow
    rw [sameLetters_iff, Shadow.name, String.toList_append, List.map_append, same,
      ← List.map_append, ← String.toList_append, ← sameLetters_iff] at spelled
    exact apart _ (List.mem_cons_of_mem _ (List.mem_map_of_mem listed)) spelled

theorem get?_dropTable (success : catalog.dropTable name = .ok after) :
    after.tables.get? other = catalog.tables.get? other := by
  unfold dropTable at success
  split at success
  · rw [← Except.ok.inj success]
  · next found search =>
      have foundApart := apart.of_sameLetters (sameLetters_of_findName? search)
      rw [← eq_of_checked success]
      refine get?_foldl_eraseTable fun table member => foundApart table ?_
      unfold droppedNames at member
      split at member
      · exact member
      · exact List.mem_cons.mpr (.inl (List.mem_singleton.mp member))

end Apart

/-! ### Tables that are made -/

theorem get?_of_createTable {written sql : String}
    (success : catalog.createTable name written sql = .ok after) (other : String) :
    after.tables.get? other =
      if name = other then some (storedText sql) else catalog.tables.get? other := by
  unfold createTable at success
  split at success
  · contradiction
  · rw [← Except.ok.inj success]
    exact NameMap.get?_insert ..

theorem get?_of_createShadow {shadow : Shadow}
    (success : createShadow definition catalog shadow = .ok after)
    (different : shadow.name definition.name ≠ other) :
    after.tables.get? other = catalog.tables.get? other := by
  unfold createShadow at success
  cases made : catalog.createTable (shadow.name definition.name)
    (Sql.literal (shadow.name definition.name)) (shadow.statement definition) with
  | error reason =>
      simp only [made] at success
      contradiction
  | ok next =>
      simp only [made] at success
      rw [← Except.ok.inj success, get?_of_createTable made, if_neg different]

theorem get?_of_createShadows {shadows : List Shadow}
    (different : ∀ shadow ∈ shadows, shadow.name definition.name ≠ other)
    (success : shadows.foldlM (createShadow definition) catalog = .ok after) :
    after.tables.get? other = catalog.tables.get? other := by
  induction shadows generalizing catalog with
  | nil => rw [← Except.ok.inj success]
  | cons shadow rest inductionHypothesis =>
      rw [List.forall_mem_cons] at different
      rw [List.foldlM_cons] at success
      cases made : createShadow definition catalog shadow with
      | error reason =>
          rw [made] at success
          contradiction
      | ok next =>
          rw [made] at success
          rw [inductionHypothesis different.2 success, get?_of_createShadow made different.1]

/-- Creating an index stores its statement, and touches no table but its own. -/
theorem get?_of_createIndex (success : catalog.createIndex definition = .ok after)
    (different : ∀ shadow ∈ Shadow.all, shadow.name definition.name ≠ other) :
    after.tables.get? other =
      if definition.name = other then some (storedText definition.render)
      else catalog.tables.get? other := by
  unfold createIndex at success
  cases made : catalog.createTable definition.name (Sql.identifier definition.name)
    definition.render with
  | error reason =>
      rw [made] at success
      contradiction
  | ok next =>
      rw [made] at success
      rw [get?_of_createShadows (fun shadow _ => different shadow (by cases shadow <;> decide))
        success, get?_of_createTable made]

theorem name_shadow_ne (index : String) (shadow : Shadow) : shadow.name index ≠ index := by
  intro same
  have lengths := congrArg String.length same
  rw [Shadow.name, String.length_append] at lengths
  cases shadow <;> simp [Shadow.ending] at lengths

/-! ### Transactions -/

theorem tables_of_createTrigger {table : String}
    (success : catalog.createTrigger name table = .ok after) : after.tables = catalog.tables := by
  unfold createTrigger at success
  split at success
  · contradiction
  · split at success
    · contradiction
    · split at success
      · contradiction
      · rw [← Except.ok.inj success]

theorem eq_of_needTable (success : catalog.needTable name = .ok after) : catalog = after := by
  unfold needTable at success
  split at success
  · contradiction
  · exact eq_of_checked success

theorem exists_of_changeAll_append {first second : List Statement}
    (success : catalog.changeAll (first ++ second) = .ok after) :
    ∃ between, catalog.changeAll first = .ok between ∧ between.changeAll second = .ok after := by
  induction first generalizing catalog with
  | nil => exact ⟨catalog, rfl, success⟩
  | cons statement rest inductionHypothesis =>
      rw [List.cons_append, changeAll] at success
      rw [changeAll]
      split at success
      · exact inductionHypothesis success
      · contradiction

/-- What no statement changes is not changed by all of them. -/
theorem holds_of_changeAll (property : Catalog → Prop) {statements : List Statement}
    (each : ∀ statement ∈ statements, ∀ before next, property before →
      before.change statement = .ok next → property next)
    (success : catalog.changeAll statements = .ok after) (holds : property catalog) :
    property after := by
  induction statements generalizing catalog with
  | nil => exact Except.ok.inj success ▸ holds
  | cons statement rest inductionHypothesis =>
      rw [List.forall_mem_cons] at each
      rw [changeAll] at success
      split at success
      · next next changed => exact inductionHypothesis each.2 success (each.1 _ _ holds changed)
      · contradiction

theorem changeAll_of_transact {statements : List Statement} {effects : List Effect}
    (committed : server.transact statements catalog = (.ok effects, after)) :
    catalog.changeAll statements = .ok after := by
  simp only [server] at committed
  split at committed
  · next changed => rw [changed, ← (Prod.mk.inj committed).2]
  · cases (Prod.mk.inj committed).1

section Making

variable {drops : List Statement} {parts : Index.CreateOptions} {effects : List Effect}
  (committed : server.transact (Index.makeStatements drops definition parts) catalog =
    (.ok effects, after))

include committed

theorem get?_of_making :
    after.tables.get? definition.name = some (storedText definition.render) := by
  have changed := changeAll_of_transact committed
  rw [Index.makeStatements, List.append_assoc, List.append_assoc] at changed
  obtain ⟨between, _, rest⟩ := exists_of_changeAll_append changed
  obtain ⟨made, created, followed⟩ := exists_of_changeAll_append rest
  have stored : made.tables.get? definition.name = some (storedText definition.render) := by
    simp only [changeAll] at created
    split at created
    · next success =>
        rw [← Except.ok.inj created, get?_of_createIndex success fun shadow _ =>
          name_shadow_ne definition.name shadow, if_pos rfl]
    · contradiction
  refine holds_of_changeAll
    (fun catalog => catalog.tables.get? definition.name = some (storedText definition.render))
    (fun statement member before next holds success => ?_) followed stored
  rw [List.mem_append, List.mem_map] at member
  rcases member with ⟨event, _, rfl⟩ | filled
  · rw [tables_of_createTrigger success]
    exact holds
  · split at filled
    · rw [List.mem_singleton.mp filled] at success
      exact eq_of_needTable success ▸ holds
    · contradiction

theorem get?_of_making_of_apart (fresh : drops ∈ [[], Index.dropStatements definition.name])
    (apart : Apart definition.name other) :
    after.tables.get? other = catalog.tables.get? other := by
  have changed := changeAll_of_transact committed
  refine holds_of_changeAll (fun between => between.tables.get? other = catalog.tables.get? other)
    (fun statement member before next holds success => ?_) changed rfl
  rcases Index.mem_makeStatements member with dropped | rfl | ⟨event, rfl⟩ | rfl
  · rcases List.mem_pair.mp fresh with rfl | rfl
    · contradiction
    · rcases Index.mem_dropStatements.mp dropped with ⟨event, rfl⟩ | rfl
      · rw [← Except.ok.inj success]
        exact holds
      · exact (get?_dropTable apart success).trans holds
  · rw [get?_of_createIndex success fun shadow listed => apart.ne
      (List.mem_cons_of_mem _ (List.mem_map_of_mem listed)), if_neg (apart.ne List.mem_cons_self)]
    exact holds
  · rw [tables_of_createTrigger success]
    exact holds
  · exact eq_of_needTable success ▸ holds

end Making

/-- A catalog does with indexes whose tables are apart what is taken for granted of a database. -/
theorem keepsStatements {definitions : List Definition}
    (apart : ∀ definition ∈ definitions, ∀ other ∈ definitions, definition.name ≠ other.name →
      Apart definition.name other.name) :
    server.KeepsStatements definitions where
  asking := fun _ _ _ _ => rfl
  making := fun definition _ _ _ _ _ _ after committed => by
    refine ⟨storedText definition.render, storedText_eq definition.render, ?_⟩
    rw [stored_eq, get?_of_making committed]
  others := fun definition member drops fresh parts state effects after committed other included
      different => by
    rw [stored_eq, stored_eq, get?_of_making_of_apart committed fresh
      (apart definition member other included different)]

end SearchIndex.Database.Catalog
