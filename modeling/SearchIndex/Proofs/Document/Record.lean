import Mathlib.Data.List.Find
import Mathlib.Data.List.Forall2
import SearchIndex.Document.Record
import SearchIndex.NameMap
import SearchIndex.Proofs.Result

/-!
Contract: what the parts of a document do to the record that is read from it.

Owns: `readNamed_map`, by which a change to the draft that every member carries along is a change
to the record; `readNamed_put`, by which one more member changes the record by what it sets; and
`exists_of_readNamed` and `exists_of_readPositional`, which tell the member or the item that a
required part was read from.

Which field reads a member depends on its name alone, so documents with the same names go through
the same fields, and the proofs follow the members.
-/

namespace SearchIndex

namespace Field

variable {ν δ α β : Type}

/-- A field sets nothing that a view of the draft shows. -/
def Keeps (field : Field ν δ) (view : δ → α) : Prop :=
  ∀ draft value next, field.read draft value = .ok next → view next = view draft

/-- A field reads one value as it reads the other, and a change to the draft before is one after. -/
def Carries (field : Field ν δ) (change : δ → δ) (value other : ν) : Prop :=
  ∀ draft, field.read (change draft) other = (field.read draft value).map change

/-- A view of the draft shows what a field reads. -/
def Shows (field : Field ν δ) (view : δ → α) (readPart : ν → Except Mismatch α) : Prop :=
  ∀ draft value next, field.read draft value = .ok next → readPart value = .ok (view next)

section Part

variable {name : String} {required : Bool} {set : δ → α → δ} {readPart : ν → Except Mismatch α}

theorem keeps_part {view : δ → β} (kept : ∀ draft part, view (set draft part) = view draft) :
    Keeps ⟨name, required, fun draft value => do .ok (set draft (← readPart value))⟩ view := by
  intro draft value next success
  obtain ⟨part, _, ended⟩ := bind_eq_ok_iff.mp success
  cases ended
  exact kept draft part

theorem carries_part {change : δ → δ} {alter : α → α} {value other : ν}
    (read : readPart other = (readPart value).map alter)
    (commutes : ∀ draft part, set (change draft) (alter part) = change (set draft part)) :
    Carries ⟨name, required, fun draft value => do .ok (set draft (← readPart value))⟩ change
      value other := by
  intro draft
  simp only [read]
  cases readPart value with
  | error fault => rfl
  | ok part => exact congrArg Except.ok (commutes draft part)

theorem carries_self {change : δ → δ} (value : ν)
    (commutes : ∀ draft part, set (change draft) part = change (set draft part)) :
    Carries ⟨name, required, fun draft value => do .ok (set draft (← readPart value))⟩ change
      value value := by
  have same : readPart value = (readPart value).map id := by cases readPart value <;> rfl
  exact carries_part same commutes

theorem shows_part {view : δ → α} (shown : ∀ draft part, view (set draft part) = part) :
    Shows ⟨name, required, fun draft value => do .ok (set draft (← readPart value))⟩ view
      readPart := by
  intro draft value next success
  obtain ⟨part, read, ended⟩ := bind_eq_ok_iff.mp success
  cases ended
  rw [read, shown]

end Part

end Field

namespace Record

variable {ν δ α : Type} {fields : List (Field ν δ)} {seen seenOther : List String}
  {members others : List (String × ν)} {draft last : δ} {view : δ → α}
  {readPart : ν → Except Mismatch α}

/-! ### Members -/

/-- The field that reads the members of a name. -/
def fieldOf? (fields : List (Field ν δ)) (name : String) : Option (Field ν δ) :=
  fields.find? fun field => field.name == name

theorem of_fieldOf?_eq_some {name : String} {field : Field ν δ}
    (known : fieldOf? fields name = some field) : field ∈ fields ∧ field.name = name :=
  ⟨List.mem_of_find?_eq_some known, by simpa using List.find?_some known⟩

/-- A member is passed over if no field has its name, and enters the draft otherwise. -/
theorem of_readNamed_cons {name : String} {value : ν}
    (success : readNamed fields seen draft ((name, value) :: members) = .ok last) :
    (fieldOf? fields name = none ∧ readNamed fields seen draft members = .ok last) ∨
      ∃ field next, fieldOf? fields name = some field ∧ name ∉ seen ∧
        field.read draft value = .ok next ∧
        readNamed fields (name :: seen) next members = .ok last := by
  rw [readNamed] at success
  split at success
  · next unknown => exact .inl ⟨unknown, success⟩
  · next field known =>
      split at success
      · contradiction
      · next unseen =>
          obtain ⟨next, read, further⟩ := bind_eq_ok_iff.mp success
          exact .inr ⟨field, next, known, by simpa using unseen, read, further⟩

/-- Once all members are read, no required field is missing. -/
theorem of_readNamed_nil (success : readNamed fields seen draft [] = .ok last) :
    draft = last ∧ ∀ field ∈ fields, field.required = true → field.name ∈ seen := by
  rw [readNamed] at success
  split at success
  · contradiction
  · next complete =>
      refine ⟨Except.ok.inj success, fun field member required => ?_⟩
      simpa [required] using List.find?_eq_none.mp complete field member

/-- A view stays as it is where no field that a member goes to sets it. -/
theorem view_of_readNamed
    (kept : ∀ field ∈ fields, field.name ∈ members.map Prod.fst → field.name ∉ seen →
      field.Keeps view)
    (success : readNamed fields seen draft members = .ok last) : view last = view draft := by
  induction members generalizing seen draft with
  | nil => rw [(of_readNamed_nil success).1]
  | cons member members inductionHypothesis =>
      rcases of_readNamed_cons success with ⟨_, others⟩ | ⟨field, next, known, unseen, read, others⟩
      · exact inductionHypothesis (fun field belongs inside =>
          kept field belongs (List.mem_cons_of_mem _ inside)) others
      · obtain ⟨belongs, named⟩ := of_fieldOf?_eq_some known
        have keeps : field.Keeps view :=
          kept field belongs (named ▸ List.mem_cons_self) (named ▸ unseen)
        have further : view last = view next :=
          inductionHypothesis (fun field belongs inside fresh =>
            kept field belongs (List.mem_cons_of_mem _ inside)
              fun before => fresh (List.mem_cons_of_mem _ before)) others
        rw [further, keeps draft _ next read]

/-- A required part was read from a member of its name. -/
theorem exists_of_readNamed {name : String} {field : Field ν δ}
    (known : fieldOf? fields name = some field) (required : field.required = true)
    (shown : field.Shows view readPart)
    (kept : ∀ other ∈ fields, other.name ≠ name → other.Keeps view) (fresh : name ∉ seen)
    (success : readNamed fields seen draft members = .ok last) :
    ∃ value, (name, value) ∈ members ∧ readPart value = .ok (view last) := by
  obtain ⟨member, named⟩ := of_fieldOf?_eq_some known
  induction members generalizing seen draft with
  | nil => exact absurd (named ▸ (of_readNamed_nil success).2 field member required) fresh
  | cons first members inductionHypothesis =>
      obtain ⟨other, value⟩ := first
      rcases of_readNamed_cons success with ⟨_, others⟩ | ⟨found, next, here, _, read, others⟩
      · obtain ⟨value, further, part⟩ := inductionHypothesis fresh others
        exact ⟨value, List.mem_cons_of_mem _ further, part⟩
      · by_cases same : other = name
        · subst same
          cases Option.some.inj (here.symm.trans known)
          refine ⟨value, List.mem_cons_self, ?_⟩
          have later : view last = view next :=
            view_of_readNamed (fun field belongs _ unseen =>
              kept field belongs fun same => unseen (same ▸ List.mem_cons_self)) others
          rw [later]
          exact shown draft value next read
        · have unseen : name ∉ other :: seen := by
            simpa [Ne.symm same] using fresh
          obtain ⟨value, further, part⟩ := inductionHypothesis unseen others
          exact ⟨value, List.mem_cons_of_mem _ further, part⟩

/-- A change to the draft that every member carries along is a change to the record. It does not
matter whether a name was seen that no member has and no required field. -/
theorem readNamed_map {change : δ → δ}
    (carried : List.Forall₂ (fun member other => other.1 = member.1 ∧
      ∀ field, fieldOf? fields member.1 = some field → field.Carries change member.2 other.2)
      members others)
    (counted : ∀ name ∈ members.map Prod.fst, (name ∈ seenOther ↔ name ∈ seen))
    (required : ∀ field ∈ fields, field.required = true →
      (field.name ∈ seenOther ↔ field.name ∈ seen)) :
    readNamed fields seenOther (change draft) others =
      (readNamed fields seen draft members).map change := by
  induction carried generalizing seen seenOther draft with
  | nil =>
      have missing : (fields.find? fun field => field.required && !seenOther.contains field.name) =
          fields.find? fun field => field.required && !seen.contains field.name := by
        refine List.find?_congr fun field member => ?_
        cases needed : field.required with
        | false => rfl
        | true => simp [required field member needed]
      rw [readNamed, readNamed, missing]
      split <;> rfl
  | @cons member other members others first _ inductionHypothesis =>
      obtain ⟨_, value⟩ := member
      obtain ⟨shared, otherValue⟩ := other
      obtain ⟨same, carries⟩ := first
      dsimp only at same carries
      subst same
      rw [List.map_cons, List.forall_mem_cons] at counted
      have sameSeen : seenOther.contains shared = seen.contains shared := by
        rw [Bool.eq_iff_iff, List.contains_iff_mem, List.contains_iff_mem]
        exact counted.1
      rw [readNamed, readNamed, sameSeen]
      split
      · exact inductionHypothesis counted.2 required
      · next field known =>
          split
          · rfl
          · rw [carries field known draft]
            cases field.read draft value with
            | error fault => rfl
            | ok next =>
                refine inductionHypothesis (fun name member => ?_) fun field member needed => ?_
                · simp [counted.2 name member]
                · simp [required field member needed]

section Put

variable {change : δ → δ} {name : String} {value : ν} {field : Field ν δ}
  (known : fieldOf? fields name = some field)
  (optional : ∀ other ∈ fields, other.name = name → other.required = false)
  (sets : ∀ draft, field.read draft value = .ok (change draft))
  (carries : ∀ other ∈ fields, other.name ≠ name → ∀ item, other.Carries change item item)
  (fresh : name ∉ seen) (absent : name ∉ members.map Prod.fst)

include known optional sets carries fresh absent

theorem readNamed_cons_eq_map :
    readNamed fields seen draft ((name, value) :: members) =
      (readNamed fields seen draft members).map change := by
  have read : readNamed fields seen draft ((name, value) :: members) =
      readNamed fields (name :: seen) (change draft) members := by
    rw [readNamed, ← fieldOf?, known]
    simp [fresh, sets, bind, Except.bind]
  rw [read]
  refine readNamed_map (List.forall₂_same.mpr fun member inside => ⟨rfl, ?_⟩) ?_ ?_
  · intro other found
    obtain ⟨belongs, same⟩ := of_fieldOf?_eq_some found
    refine carries other belongs (fun equal => absent ?_) member.2
    exact equal ▸ same ▸ List.mem_map_of_mem inside
  · intro other inside
    have different : other ≠ name := fun same => absent (same ▸ inside)
    simp [different]
  · intro other belongs needed
    have different : other.name ≠ name := fun same => by
      rw [optional other belongs same] at needed
      contradiction
    simp [different]

/-- One more member changes the record by what it sets, wherever it is put. -/
theorem readNamed_put :
    readNamed fields seen draft (NameMap.put name value members) =
      (readNamed fields seen draft members).map change := by
  induction members generalizing seen draft with
  | nil => exact readNamed_cons_eq_map known optional sets carries fresh absent
  | cons head members inductionHypothesis =>
      have others := absent
      rw [List.map_cons, List.mem_cons, not_or] at others
      rw [NameMap.put]
      split
      · exact readNamed_cons_eq_map known optional sets carries fresh absent
      · rw [if_neg others.1, readNamed, readNamed]
        split
        · exact inductionHypothesis fresh others.2
        · next found here =>
            split
            · rfl
            · cases found.read draft head.2 with
              | error fault => rfl
              | ok next => exact inductionHypothesis (by simpa [others.1] using fresh) others.2

end Put

/-! ### Items -/

/-- An item enters the draft through the next field; where none is left, none is required. -/
theorem of_readPositional_cons {expected : String} {index : Nat} {field : Field ν δ}
    {items : List ν}
    (success : readPositional expected index draft (field :: fields) items = .ok last) :
    (items = [] ∧ field.required = false ∧
        readPositional expected (index + 1) draft fields [] = .ok last) ∨
      ∃ item rest next, items = item :: rest ∧ field.read draft item = .ok next ∧
        readPositional expected (index + 1) next fields rest = .ok last := by
  cases items with
  | nil =>
      rw [readPositional] at success
      split at success
      · contradiction
      · next optional => exact .inl ⟨rfl, by simpa using optional, success⟩
  | cons item rest =>
      rw [readPositional] at success
      obtain ⟨next, read, further⟩ := bind_eq_ok_iff.mp success
      exact .inr ⟨item, rest, next, rfl, read, further⟩

/-- A view stays as it is where no field that an item goes to sets it. -/
theorem view_of_readPositional {expected : String} {index : Nat} {items : List ν}
    (kept : ∀ field ∈ fields.take items.length, field.Keeps view)
    (success : readPositional expected index draft fields items = .ok last) :
    view last = view draft := by
  induction fields generalizing index draft items with
  | nil =>
      cases items with
      | nil => cases success; rfl
      | cons item rest => contradiction
  | cons field fields inductionHypothesis =>
      rcases of_readPositional_cons success with
        ⟨rfl, _, others⟩ | ⟨item, rest, next, rfl, read, others⟩
      · exact inductionHypothesis (by simp) others
      · rw [List.length_cons, List.take_succ_cons, List.forall_mem_cons] at kept
        rw [inductionHypothesis kept.2 others, kept.1 draft item next read]

/-- A required part was read from the item in the place of its field. -/
theorem exists_of_readPositional {expected : String} {index : Nat} {items : List ν}
    {before after : List (Field ν δ)} {field : Field ν δ} (required : field.required = true)
    (shown : field.Shows view readPart) (kept : ∀ other ∈ after, other.Keeps view)
    (success : readPositional expected index draft (before ++ field :: after) items = .ok last) :
    ∃ item, items[before.length]? = some item ∧ readPart item = .ok (view last) := by
  induction before generalizing index draft items with
  | nil =>
      rcases of_readPositional_cons success with
        ⟨_, optional, _⟩ | ⟨item, rest, next, rfl, read, others⟩
      · rw [required] at optional
        contradiction
      · refine ⟨item, rfl, ?_⟩
        have keeps : ∀ other ∈ after.take rest.length, other.Keeps view :=
          fun other member => kept other (List.mem_of_mem_take member)
        rw [view_of_readPositional keeps others]
        exact shown draft item next read
  | cons first before inductionHypothesis =>
      rcases of_readPositional_cons success with ⟨rfl, _, others⟩ | ⟨_, rest, next, rfl, _, others⟩
      · obtain ⟨item, here, _⟩ := inductionHypothesis others
        contradiction
      · exact inductionHypothesis others

end Record

end SearchIndex
