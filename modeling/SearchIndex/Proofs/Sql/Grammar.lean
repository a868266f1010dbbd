import SearchIndex.Proofs.Result
import SearchIndex.Sql.VirtualTable

/-!
Contract: which tokens are the head of a statement.

Owns: `Token.Spells` and `Token.Names`, what counts as a keyword and as a name; `Head.Written`, the
tokens of a head in every spelling; `Cursor.Reads`, the tokens between two places; and
`Cursor.head_eq_ok_iff`, by which exactly the written heads are read.

Keywords are not reserved: a table or a module may be named by any of them. Only `IF` begins a
condition wherever it could begin a name.
-/

namespace SearchIndex.Sql

/-! ### Keywords and names -/

namespace Token

variable {token : Token} {keyword name : String}

/-- A bare word that is a keyword, in capital or small letters. -/
inductive Spells (keyword : String) : Token → Prop where
  | word {text : String}
      (letters : text.toList.map Char.toLower = keyword.toList.map Char.toLower) :
      Spells keyword (.word text)

/-- A name, bare or between quotes of either kind. -/
inductive Names (name : String) : Token → Prop where
  | word : Names name (.word name)
  | quoted : Names name (.quoted name)
  | string : Names name (.string name)

theorem isKeyword_iff : token.isKeyword keyword = true ↔ token.Spells keyword := by
  constructor
  · intro spelled
    cases token with
    | word text => exact .word (eq_of_beq spelled)
    | _ => contradiction
  · rintro ⟨letters⟩
    exact beq_iff_eq.mpr letters

instance (keyword : String) (token : Token) : Decidable (token.Spells keyword) :=
  decidable_of_iff _ isKeyword_iff

theorem name?_eq_some_iff : token.name? = some name ↔ token.Names name := by
  constructor
  · intro named
    cases token with
    | word text =>
        obtain rfl := Option.some.inj named
        exact .word
    | quoted text =>
        obtain rfl := Option.some.inj named
        exact .quoted
    | string text =>
        obtain rfl := Option.some.inj named
        exact .string
    | _ => contradiction
  · rintro (_ | _ | _) <;> rfl

end Token

/-! ### Heads -/

namespace Head

/-- `IF NOT EXISTS`, if it is there. -/
inductive Condition : (present : Bool) → List Token → Prop where
  | absent : Condition false []
  | present {first second third : Token} (spellsIf : first.Spells "IF")
      (spellsNot : second.Spells "NOT") (spellsExists : third.Spells "EXISTS") :
      Condition true [first, second, third]

/-- A table's name, behind its schema if there is one. -/
inductive Qualified : (schema : Option String) → (name : String) → List Token → Prop where
  | plain {token : Token} {name : String} (names : token.Names name) : Qualified none name [token]
  | behind {first second : Token} {schema name : String} (namesSchema : first.Names schema)
      (names : second.Names name) : Qualified (some schema) name [first, .dot, second]

theorem Qualified.head?_append {schema : Option String} {name : String} {tokens : List Token}
    (named : Qualified schema name tokens) (rest : List Token) :
    (tokens ++ rest).head? = tokens.head? := by
  cases named <;> rfl

/-- The tokens of a head. Without a condition the name does not begin with a bare `IF`. -/
inductive Written : Head → List Token → Prop where
  | intro {create virtual table using' moduleToken : Token} {condition qualified : List Token}
      {ifNotExists : Bool} {schema : Option String} {name moduleName : String}
      (spellsCreate : create.Spells "CREATE") (spellsVirtual : virtual.Spells "VIRTUAL")
      (spellsTable : table.Spells "TABLE") (conditional : Condition ifNotExists condition)
      (unconditional : ifNotExists = false → ∀ token ∈ qualified.head?, ¬ token.Spells "IF")
      (named : Qualified schema name qualified) (spellsUsing : using'.Spells "USING")
      (namesModule : moduleToken.Names moduleName) :
      Written ⟨ifNotExists, schema, name, moduleName⟩
        (create :: virtual :: table :: (condition ++ (qualified ++ [using', moduleToken])))

end Head

/-! ### The tokens between two places -/

namespace Cursor

/-- Some tokens were read between two places. -/
structure Reads (before : Cursor) (tokens : List Token) (after : Cursor) : Prop where
  rest_eq : before.rest = tokens ++ after.rest
  position_eq : after.position = before.position + tokens.length

section Reads

variable {cursor after : Cursor} {token : Token} {tokens others : List Token}

theorem reads_nil_iff : Reads cursor [] after ↔ after = cursor := by
  constructor
  · rintro ⟨rest, position⟩
    cases cursor
    cases after
    simp_all
  · rintro rfl
    exact ⟨rfl, rfl⟩

theorem reads_append_iff :
    Reads cursor (tokens ++ others) after ↔
      ∃ middle, Reads cursor tokens middle ∧ Reads middle others after := by
  constructor
  · rintro ⟨rest, position⟩
    refine ⟨⟨cursor.position + tokens.length, others ++ after.rest⟩, ⟨?_, rfl⟩, ⟨rfl, ?_⟩⟩
    · rw [rest, List.append_assoc]
    · rw [position, List.length_append, Nat.add_assoc]
  · rintro ⟨middle, before, further⟩
    refine ⟨?_, ?_⟩
    · rw [before.rest_eq, further.rest_eq, List.append_assoc]
    · rw [further.position_eq, before.position_eq, List.length_append, Nat.add_assoc]

theorem reads_cons_iff :
    Reads cursor (token :: tokens) after ↔
      ∃ middle, Reads cursor [token] middle ∧ Reads middle tokens after := by
  rw [← List.singleton_append, reads_append_iff]

theorem reads_singleton_iff :
    Reads cursor [token] after ↔ cursor.rest.head? = some token ∧ after = cursor.advance := by
  constructor
  · rintro ⟨rest, position⟩
    refine ⟨by rw [rest]; rfl, ?_⟩
    cases after
    simp_all [advance]
  · rintro ⟨next, rfl⟩
    obtain ⟨others, rest⟩ := List.head?_eq_some_iff.mp next
    exact ⟨by rw [advance, rest]; rfl, rfl⟩

end Reads

/-! ### Reading a head -/

section Readers

variable {cursor after : Cursor} {word what name : String}

theorem atKeyword_iff :
    cursor.atKeyword word = true ↔ ∃ token ∈ cursor.rest.head?, token.Spells word := by
  rw [atKeyword, Option.any_eq_true]
  simp only [Option.mem_def, Token.isKeyword_iff]

theorem keyword_eq_ok_iff :
    cursor.keyword word = .ok after ↔ ∃ token, token.Spells word ∧ Reads cursor [token] after := by
  simp only [reads_singleton_iff]
  unfold keyword
  split
  · next present =>
      obtain ⟨token, next, spelled⟩ := atKeyword_iff.mp present
      constructor
      · intro success
        exact ⟨token, spelled, next, (Except.ok.inj success).symm⟩
      · rintro ⟨_, _, _, rfl⟩
        rfl
  · next missing =>
      constructor
      · intro success
        contradiction
      · rintro ⟨token, spelled, next, _⟩
        exact (missing (atKeyword_iff.mpr ⟨token, next, spelled⟩)).elim

theorem name_eq_ok_iff :
    cursor.name what = .ok (name, after) ↔
      ∃ token, token.Names name ∧ Reads cursor [token] after := by
  simp only [reads_singleton_iff, ← Token.name?_eq_some_iff]
  unfold Cursor.name
  split
  · next found named =>
      obtain ⟨token, next, spelled⟩ := Option.bind_eq_some_iff.mp named
      constructor
      · intro success
        obtain ⟨rfl, rfl⟩ := Prod.mk.inj (Except.ok.inj success)
        exact ⟨token, spelled, next, rfl⟩
      · rintro ⟨other, spelledOther, nextOther, rfl⟩
        obtain rfl := Option.some.inj (next.symm.trans nextOther)
        obtain rfl := Option.some.inj (spelled.symm.trans spelledOther)
        rfl
  · next unnamed =>
      constructor
      · intro success
        contradiction
      · rintro ⟨token, spelled, next, _⟩
        rw [next, Option.bind_some, spelled] at unnamed
        contradiction

theorem ifNotExists_eq_ok_iff {present : Bool} :
    cursor.ifNotExists = .ok (present, after) ↔
      (present = false → ∀ token ∈ cursor.rest.head?, ¬ token.Spells "IF") ∧
        ∃ tokens, Head.Condition present tokens ∧ Reads cursor tokens after := by
  unfold ifNotExists
  split
  · next begins =>
      obtain ⟨first, next, spelled⟩ := atKeyword_iff.mp begins
      simp only [bind_eq_ok_iff, keyword_eq_ok_iff]
      constructor
      · rintro ⟨_, ⟨second, spellsNot, secondRead⟩, _, ⟨third, spellsExists, thirdRead⟩, success⟩
        obtain ⟨rfl, rfl⟩ := Prod.mk.inj (Except.ok.inj success)
        refine ⟨fun absent => by contradiction, _, .present spelled spellsNot spellsExists, ?_⟩
        have firstRead := reads_singleton_iff.mpr ⟨next, rfl⟩
        exact reads_cons_iff.mpr ⟨_, firstRead, reads_cons_iff.mpr ⟨_, secondRead, thirdRead⟩⟩
      · rintro ⟨unconditional, tokens, condition, reads⟩
        cases condition with
        | absent => exact (unconditional rfl first next spelled).elim
        | @present first second third spellsIf spellsNot spellsExists =>
            obtain ⟨_, firstRead, reads⟩ := reads_cons_iff.mp reads
            obtain ⟨_, secondRead, thirdRead⟩ := reads_cons_iff.mp reads
            obtain ⟨_, rfl⟩ := reads_singleton_iff.mp firstRead
            exact ⟨_, ⟨second, spellsNot, secondRead⟩, _, ⟨third, spellsExists, thirdRead⟩, rfl⟩
  · next other =>
      constructor
      · intro success
        obtain ⟨rfl, rfl⟩ := Prod.mk.inj (Except.ok.inj success)
        refine ⟨fun _ token next spelled => ?_, [], .absent, reads_nil_iff.mpr rfl⟩
        exact other (atKeyword_iff.mpr ⟨token, next, spelled⟩)
      · rintro ⟨_, tokens, condition, reads⟩
        cases condition with
        | absent => rw [reads_nil_iff.mp reads]
        | @present first second third spellsIf _ _ =>
            obtain ⟨_, firstRead, _⟩ := reads_cons_iff.mp reads
            obtain ⟨next, _⟩ := reads_singleton_iff.mp firstRead
            exact (other (atKeyword_iff.mpr ⟨first, next, spellsIf⟩)).elim

/-- A name is read on its own only if no dot follows. -/
theorem qualifiedName_eq_ok_iff {schema : Option String} :
    cursor.qualifiedName = .ok (schema, name, after) ↔
      (schema = none → after.rest.head? ≠ some .dot) ∧
        ∃ tokens, Head.Qualified schema name tokens ∧ Reads cursor tokens after := by
  simp only [qualifiedName, bind_eq_ok_iff, Prod.exists, name_eq_ok_iff]
  constructor
  · rintro ⟨first, middle, ⟨token, names, read⟩, success⟩
    split at success
    · next dotted =>
        simp only [bind_eq_ok_iff, Prod.exists, name_eq_ok_iff] at success
        obtain ⟨_, _, ⟨other, namesOther, readOther⟩, success⟩ := success
        obtain ⟨rfl, rfl, rfl⟩ := by simpa using Except.ok.inj success
        refine ⟨fun absent => by contradiction, _, .behind names namesOther, ?_⟩
        have dotRead := reads_singleton_iff.mpr ⟨dotted, rfl⟩
        exact reads_cons_iff.mpr ⟨_, read, reads_cons_iff.mpr ⟨_, dotRead, readOther⟩⟩
    · next undotted =>
        obtain ⟨rfl, rfl, rfl⟩ := by simpa using Except.ok.inj success
        exact ⟨fun _ => undotted, _, .plain names, read⟩
  · rintro ⟨undotted, tokens, qualified, reads⟩
    cases qualified with
    | @plain token _ names =>
        exact ⟨name, after, ⟨token, names, reads⟩, by rw [if_neg (undotted rfl)]⟩
    | @behind first second schema _ namesSchema names =>
        obtain ⟨_, firstRead, reads⟩ := reads_cons_iff.mp reads
        obtain ⟨_, dotRead, secondRead⟩ := reads_cons_iff.mp reads
        obtain ⟨dotted, rfl⟩ := reads_singleton_iff.mp dotRead
        refine ⟨schema, _, ⟨first, namesSchema, firstRead⟩, ?_⟩
        rw [if_pos dotted]
        simp only [bind_eq_ok_iff, Prod.exists, name_eq_ok_iff]
        exact ⟨name, after, ⟨second, names, secondRead⟩, rfl⟩

end Readers

/-- Exactly the written heads are read, up to the name of the module. -/
theorem head_eq_ok_iff {cursor after : Cursor} {head : Head} :
    cursor.head = .ok (head, after) ↔ ∃ tokens, head.Written tokens ∧ Reads cursor tokens after := by
  simp only [Cursor.head, bind_eq_ok_iff, Prod.exists, keyword_eq_ok_iff, ifNotExists_eq_ok_iff,
    qualifiedName_eq_ok_iff, name_eq_ok_iff]
  constructor
  · rintro ⟨_, ⟨create, spellsCreate, createRead⟩, _, ⟨virtual, spellsVirtual, virtualRead⟩,
      _, ⟨table, spellsTable, tableRead⟩, ifNotExists, _, ⟨unconditional, condition, conditional,
      conditionRead⟩, schema, name, _, ⟨_, qualified, named, nameRead⟩, _, ⟨using', spellsUsing,
      usingRead⟩, moduleName, _, ⟨moduleToken, namesModule, moduleRead⟩, success⟩
    obtain ⟨rfl, rfl⟩ := Prod.mk.inj (Except.ok.inj success)
    refine ⟨_, .intro spellsCreate spellsVirtual spellsTable conditional ?_ named spellsUsing
      namesModule, ?_⟩
    · rintro rfl token first
      cases conditional
      obtain rfl := reads_nil_iff.mp conditionRead
      refine unconditional rfl token ?_
      rw [nameRead.rest_eq, named.head?_append]
      exact first
    · have moduleEnd := reads_cons_iff.mpr ⟨_, usingRead, moduleRead⟩
      have nameEnd := reads_append_iff.mpr ⟨_, nameRead, moduleEnd⟩
      have conditionEnd := reads_append_iff.mpr ⟨_, conditionRead, nameEnd⟩
      have tableEnd := reads_cons_iff.mpr ⟨_, tableRead, conditionEnd⟩
      exact reads_cons_iff.mpr ⟨_, createRead, reads_cons_iff.mpr ⟨_, virtualRead, tableEnd⟩⟩
  · rintro ⟨tokens, written, reads⟩
    cases written with
    | intro spellsCreate spellsVirtual spellsTable conditional unconditional named spellsUsing
        namesModule =>
        obtain ⟨_, createRead, reads⟩ := reads_cons_iff.mp reads
        obtain ⟨_, virtualRead, reads⟩ := reads_cons_iff.mp reads
        obtain ⟨_, tableRead, reads⟩ := reads_cons_iff.mp reads
        obtain ⟨_, conditionRead, reads⟩ := reads_append_iff.mp reads
        obtain ⟨_, nameRead, reads⟩ := reads_append_iff.mp reads
        obtain ⟨_, usingRead, moduleRead⟩ := reads_cons_iff.mp reads
        refine ⟨_, ⟨_, spellsCreate, createRead⟩, _, ⟨_, spellsVirtual, virtualRead⟩, _,
          ⟨_, spellsTable, tableRead⟩, _, _, ⟨?_, _, conditional, conditionRead⟩, _, _, _,
          ⟨?_, _, named, nameRead⟩, _, ⟨_, spellsUsing, usingRead⟩, _, _,
          ⟨_, namesModule, moduleRead⟩, rfl⟩
        · rintro rfl token first
          cases conditional
          obtain rfl := reads_nil_iff.mp conditionRead
          rw [nameRead.rest_eq, named.head?_append] at first
          exact unconditional rfl token first
        · rintro - dotted
          rw [usingRead.rest_eq] at dotted
          obtain rfl := Option.some.inj dotted
          contradiction

end Cursor

end SearchIndex.Sql
