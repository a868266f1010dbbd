import SearchIndex.Json.Decode
import SearchIndex.Proofs.NameMap

/-!
Contract: records are read from their canonical documents.

Owns: `canonical_ofFields`, by which the canonical document of a record has the same members in the
order of their names; `Enters`, the way in which members that are there or not fill a draft; and
`read_ofFields`, by which a record is read from a document whose members enter one after another.

Members are put in order before they are read, so the order in which a record is written does not
tell the order in which its draft is filled.
-/

namespace SearchIndex

namespace Json

/-! ### Canonical documents -/

theorem canonicalItems_eq_map (items : List Json) : canonicalItems items = items.map canonical := by
  induction items with
  | nil => rfl
  | cons item items inductionHypothesis =>
      rw [canonicalItems, inductionHypothesis, List.map_cons]

@[simp]
theorem canonical_array (items : List Json) :
    (array items).canonical = .array (items.map canonical) := by
  rw [canonical, canonicalItems_eq_map]

@[simp]
theorem canonical_string (text : String) : (string text).canonical = .string text := rfl

@[simp]
theorem canonical_boolean (truth : Bool) : (boolean truth).canonical = .boolean truth := rfl

@[simp]
theorem canonical_natural (n : Nat) : (natural n).canonical = .natural n := rfl

@[simp]
theorem canonical_strings (texts : List String) : (strings texts).canonical = .strings texts := by
  simp [strings]

theorem map_canonical_unless {empty : Prop} [Decidable empty] (document : Json) :
    (if empty then none else some document).map canonical =
      if empty then none else some document.canonical := by
  split <;> rfl

theorem sorted_canonicalMembers (members : List (String × Json)) :
    (canonicalMembers members).Pairwise fun left right => left.1 < right.1 := by
  induction members with
  | nil => exact .nil
  | cons entry members inductionHypothesis =>
      rw [canonicalMembers]
      split
      · exact inductionHypothesis
      · exact NameMap.sorted_put _ _ inductionHypothesis

/-- Where no name is repeated, every member stays. -/
theorem perm_canonicalMembers {members : List (String × Json)}
    (distinct : (members.map Prod.fst).Nodup) :
    (canonicalMembers members).Perm (members.map fun entry => (entry.1, entry.2.canonical)) := by
  induction members with
  | nil => exact .refl _
  | cons entry members inductionHypothesis =>
      rw [List.map_cons, List.nodup_cons] at distinct
      have others := inductionHypothesis distinct.2
      have fresh : entry.1 ∉ (canonicalMembers members).map Prod.fst := by
        rw [(others.map Prod.fst).mem_iff, List.map_map]
        exact distinct.1
      have absent : ¬ ((canonicalMembers members).any fun other => other.1 == entry.1) = true := by
        simpa [List.any_eq_true] using fresh
      rw [canonicalMembers, if_neg absent, List.map_cons]
      exact (NameMap.perm_put fresh).trans (others.cons _)

/-! ### Members that are present -/

/-- The member that a field writes. -/
def written (field : String × Option Json) : Option (String × Json) :=
  field.2.map fun document => (field.1, document)

theorem ofFields_eq (fields : List (String × Option Json)) :
    ofFields fields = .object (fields.filterMap written) := rfl

/-- What holds between the names of any two fields holds between the names of their members. -/
theorem pairwise_written {relation : String → String → Prop} {fields : List (String × Option Json)}
    (names : fields.Pairwise fun left right => relation left.1 right.1) :
    (fields.filterMap written).Pairwise fun left right => relation left.1 right.1 := by
  refine names.filterMap written fun left right related first firstWritten second secondWritten => ?_
  obtain ⟨document, -, rfl⟩ := Option.map_eq_some_iff.mp firstWritten
  obtain ⟨other, -, rfl⟩ := Option.map_eq_some_iff.mp secondWritten
  exact related

/-- The members of a canonical document are those of the document in the order of their names. -/
theorem canonical_ofFields {fields : List (String × Option Json)}
    (distinct : (fields.map Prod.fst).Nodup) :
    (ofFields fields).canonical =
      .ofFields (NameMap.sort (fields.map fun field => (field.1, field.2.map canonical))) := by
  have names : (fields.filterMap written).Pairwise fun left right => left.1 ≠ right.1 :=
    pairwise_written (List.pairwise_map.mp distinct)
  have kept := perm_canonicalMembers (List.pairwise_map.mpr names)
  have members : (fields.filterMap written).map (fun entry => (entry.1, entry.2.canonical)) =
      (fields.map fun field => (field.1, field.2.map canonical)).filterMap written := by
    rw [List.map_filterMap, List.filterMap_map]
    congr 1
    funext field
    simp [written, Function.comp_def]
  rw [members] at kept
  have fieldNames : ((fields.map fun field => (field.1, field.2.map canonical)).map
      Prod.fst).Nodup := by
    simpa [Function.comp_def] using distinct
  have sorted := (NameMap.perm_sort fieldNames).filterMap written
  have increasing := pairwise_written (NameMap.sorted_sort (fields.map fun field =>
    (field.1, field.2.map canonical)))
  -- Two lists with the same members in the order of their names are equal.
  have equal := (kept.trans sorted.symm).eq_of_pairwise
    (fun _ _ _ _ less greater => (String.lt_asymm less greater).elim)
    (sorted_canonicalMembers _) increasing
  rw [ofFields_eq, ofFields_eq, canonical, equal]

/-! ### Parts of records -/

section Parts

variable {α : Type} {readPart : Json → Except Mismatch α} {document : Json} {part : α}

theorem asOption_eq_some (visible : document ≠ .null) (read : readPart document = .ok part) :
    document.asOption readPart = .ok (some part) := by
  unfold asOption
  split
  · contradiction
  · rw [read]
    rfl

theorem asList_map {write : α → Json} {parts : List α}
    (read : ∀ part ∈ parts, readPart (write part) = .ok part) :
    (array (parts.map write)).asList readPart = .ok parts := by
  change (parts.map write).mapM readPart = _
  induction parts with
  | nil => rfl
  | cons part parts inductionHypothesis =>
      obtain ⟨first, others⟩ := List.forall_mem_cons.mp read
      rw [List.map_cons, List.mapM_cons, first, inductionHypothesis others]
      rfl

theorem asList_strings (texts : List String) : (strings texts).asList asString = .ok texts :=
  asList_map fun _ _ => rfl

theorem asByte_natural (n : UInt8) : (natural n.toNat).asByte = .ok n := by
  have small := n.toNat_lt_size
  rw [asByte, natural, asInteger, if_pos ⟨Int.natCast_nonneg _, Int.ofNat_lt.mpr small⟩]
  exact congrArg Except.ok (UInt8.ofNat_toNat)

theorem asWord_natural (n : UInt32) : (natural n.toNat).asWord = .ok n := by
  have small := n.toNat_lt_size
  rw [asWord, natural, asInteger, if_pos ⟨Int.natCast_nonneg _, Int.ofNat_lt.mpr small⟩]
  exact congrArg Except.ok (UInt32.ofNat_toNat)

end Parts

end Json

/-! ### Filling a draft -/

namespace Record

variable {δ : Type}

/-- The fields of a document that are present enter a draft one after another. -/
inductive Enters (fields : List (Field Json δ)) :
    δ → List (String × Option Json) → δ → Prop where
  | done {draft : δ} : Enters fields draft [] draft
  | absent {draft last : δ} {name : String} {given : List (String × Option Json)}
      (rest : Enters fields draft given last) : Enters fields draft ((name, none) :: given) last
  | present {draft next last : δ} {name : String} {document : Json}
      {given : List (String × Option Json)} {field : Field Json δ}
      (known : (fields.find? fun field => field.name == name) = some field)
      (entered : field.read draft document = .ok next) (rest : Enters fields next given last) :
      Enters fields draft ((name, some document) :: given) last

section

variable {fields : List (Field Json δ)} {draft last : δ} {given : List (String × Option Json)}

section Parts

variable {α : Type} {name : String} {required : Bool} {readPart : Json → Except Mismatch α}

/-- A part that is always written. -/
theorem Enters.part {set : δ → α → δ} {document : Json} {value : α}
    (known : (fields.find? fun field => field.name == name) =
      some ⟨name, required, fun draft document => do .ok (set draft (← readPart document))⟩)
    (read : readPart document = .ok value) (rest : Enters fields (set draft value) given last) :
    Enters fields draft ((name, some document) :: given) last := by
  refine .present known ?_ rest
  simp only [read, bind, Except.bind]

/-- A part that is written if there is one. -/
theorem Enters.option {set : δ → Option α → δ} {write : α → Json} {value : Option α}
    (known : (fields.find? fun field => field.name == name) =
      some ⟨name, required, fun draft document => do
        .ok (set draft (← document.asOption readPart))⟩)
    (unset : set draft none = draft) (visible : ∀ part, write part ≠ .null)
    (read : ∀ part, readPart (write part) = .ok part)
    (rest : Enters fields (set draft value) given last) :
    Enters fields draft ((name, value.map write) :: given) last := by
  cases value with
  | none => exact .absent (unset ▸ rest)
  | some part => exact .part known (Json.asOption_eq_some (visible part) (read part)) rest

/-- A list that is written if it is not empty. -/
theorem Enters.list {set : δ → List α → δ} {readList : Json → Except Mismatch (List α)}
    {document : Json} {value : List α}
    (known : (fields.find? fun field => field.name == name) =
      some ⟨name, required, fun draft document => do .ok (set draft (← readList document))⟩)
    (unset : set draft [] = draft) (read : readList document = .ok value)
    (rest : Enters fields (set draft value) given last) :
    Enters fields draft ((name, if value.isEmpty then none else some document) :: given) last := by
  cases value with
  | nil => exact .absent (unset ▸ rest)
  | cons => exact .part known read rest

end Parts

theorem readNamed_of_enters (enters : Enters fields draft given last) {seen : List String}
    (distinct : (given.map Prod.fst).Nodup) (fresh : ∀ name ∈ seen, name ∉ given.map Prod.fst)
    (required : ∀ field ∈ fields, field.required = true →
      field.name ∈ seen ∨ ∃ document, (field.name, some document) ∈ given) :
    readNamed fields seen draft (given.filterMap Json.written) = .ok last := by
  induction enters generalizing seen with
  | done =>
      have complete : (fields.find? fun field =>
          field.required && !seen.contains field.name) = none := by
        rw [List.find?_eq_none]
        intro field member
        cases needed : field.required with
        | false => simp
        | true => simpa using required field member needed
      rw [List.filterMap_nil, readNamed, complete]
  | absent rest inductionHypothesis =>
      rw [List.map_cons, List.nodup_cons] at distinct
      refine inductionHypothesis distinct.2 (fun name member further => ?_) (by simpa using required)
      exact fresh name member (List.mem_cons_of_mem _ further)
  | @present draft next last name document given field known entered rest inductionHypothesis =>
      rw [List.map_cons, List.nodup_cons] at distinct
      have unseen : seen.contains name = false := by
        simpa using fun member => fresh name member List.mem_cons_self
      have others := @inductionHypothesis (name :: seen) distinct.2
        (List.forall_mem_cons.mpr ⟨distinct.1, fun name member further =>
          fresh name member (List.mem_cons_of_mem _ further)⟩)
        fun field member needed => by
          rcases required field member needed with before | ⟨document, here⟩
          · exact .inl (List.mem_cons_of_mem _ before)
          · rcases List.mem_cons.mp here with same | further
            · exact .inl (List.mem_cons.mpr (.inl (Prod.mk.inj same).1))
            · exact .inr ⟨document, further⟩
      have first : Json.written (name, some document) = some (name, document) := rfl
      rw [List.filterMap_cons_some first, readNamed, known]
      simp only [unseen, Bool.false_eq_true, if_false, entered, bind, Except.bind]
      exact others

/-- A record is read from a document whose fields enter its draft. -/
theorem read_ofFields {record : Record Json δ}
    (enters : Enters record.fields record.start given last)
    (distinct : (given.map Prod.fst).Nodup)
    (required : ∀ field ∈ record.fields, field.required = true →
      ∃ document, (field.name, some document) ∈ given) :
    record.read (.ofFields given) = .ok last :=
  readNamed_of_enters enters distinct nofun fun field member needed =>
    .inr (required field member needed)

end

end Record

end SearchIndex
