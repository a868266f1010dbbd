import Mathlib.Data.List.Chain
import SearchIndex.Proofs.Sql.Grammar

/-!
Contract: the arguments of a module are found behind the first `USING`, whatever stands before it.

Owns: `afterModule_append`, where the search for the arguments ends; `Head.Written.exists_stem`, by
which a head ends with a `USING` that no earlier one is followed by a module's name; and
`arguments_behind_using`.

Two routes lead to the arguments, the end of a head that was read and the search behind one that was
not. They agree because a head can take a `USING` for a name, but only a dot or the `USING` of the
head may stand behind a name.
-/

namespace SearchIndex.Sql

open Token

/-! ### The search for the arguments -/

namespace VirtualTable

/-- The search ends behind the first `USING`, if a module's name follows it. -/
theorem afterModule_append {front rest : List Token} {keyword name : Token}
    (absent : ∀ token ∈ front, ¬ token.Spells "USING") (spelled : keyword.Spells "USING")
    (named : namesModule name = true) :
    afterModule (front ++ keyword :: name :: rest) = rest := by
  induction front with
  | nil =>
      have found : keyword.isKeyword "USING" = true := isKeyword_iff.mpr spelled
      simp [afterModule, found, named]
  | cons token front inductionHypothesis =>
      obtain ⟨other, others⟩ := List.forall_mem_cons.mp absent
      have passed : token.isKeyword "USING" = false :=
        Bool.eq_false_iff.mpr fun found => other (isKeyword_iff.mp found)
      rw [List.cons_append, afterModule, passed, Bool.false_and, if_neg Bool.false_ne_true,
        inductionHypothesis others]

end VirtualTable

/-! ### The end of a head -/

/-- What stands behind a `USING` that is a name. -/
def DotBehindUsing (token next : Token) : Prop := token.Spells "USING" → next = .dot

theorem not_spells_using {token : Token} {keyword : String} (spelled : token.Spells keyword)
    (apart : Text.sameLetters keyword "USING" = false) : ¬ token.Spells "USING" := by
  obtain ⟨letters⟩ := spelled
  rintro ⟨using'⟩
  have same : Text.sameLetters keyword "USING" = true := beq_iff_eq.mpr (letters.symm.trans using')
  rw [same] at apart
  contradiction

theorem isChain_append_of_absent {tokens others : List Token}
    (absent : ∀ token ∈ tokens, ¬ token.Spells "USING") (chain : others.IsChain DotBehindUsing) :
    (tokens ++ others).IsChain DotBehindUsing := by
  induction tokens with
  | nil => exact chain
  | cons token tokens inductionHypothesis =>
      obtain ⟨other, further⟩ := List.forall_mem_cons.mp absent
      refine List.isChain_cons.mpr ⟨?_, inductionHypothesis further⟩
      intro _ _ spelled
      exact (other spelled).elim

namespace Head

theorem Condition.absent_using {present : Bool} {tokens : List Token}
    (condition : Condition present tokens) : ∀ token ∈ tokens, ¬ token.Spells "USING" := by
  cases condition with
  | absent => exact List.forall_mem_nil _
  | present spellsIf spellsNot spellsExists =>
      refine List.forall_mem_cons.mpr ⟨not_spells_using spellsIf (by decide), ?_⟩
      refine List.forall_mem_cons.mpr ⟨not_spells_using spellsNot (by decide), ?_⟩
      exact List.forall_mem_singleton.mpr (not_spells_using spellsExists (by decide))

theorem Qualified.isChain {schema : Option String} {name : String} {tokens : List Token}
    (named : Qualified schema name tokens) : tokens.IsChain DotBehindUsing := by
  cases named with
  | plain names => exact List.isChain_singleton _
  | @behind first second schema name namesSchema names =>
      have afterDot : DotBehindUsing .dot second := by
        intro spelled
        contradiction
      exact .cons_cons (fun _ => rfl) (.cons_cons afterDot (.singleton _))

/-- A head ends with `USING` and the name of the module, and only a dot stands behind a `USING` in
front of that. -/
theorem Written.exists_stem {head : Head} {tokens : List Token} (written : Written head tokens) :
    ∃ stem keyword moduleToken, tokens = stem ++ [keyword, moduleToken] ∧
      keyword.Spells "USING" ∧ stem.IsChain DotBehindUsing := by
  cases written with
  | @intro create virtual table keyword moduleToken condition qualified _ _ _ _ spellsCreate
      spellsVirtual spellsTable conditional _ named spellsUsing _ =>
      have front : ∀ token ∈ [create, virtual, table] ++ condition, ¬ token.Spells "USING" := by
        refine List.forall_mem_append.mpr ⟨?_, conditional.absent_using⟩
        refine List.forall_mem_cons.mpr ⟨not_spells_using spellsCreate (by decide), ?_⟩
        refine List.forall_mem_cons.mpr ⟨not_spells_using spellsVirtual (by decide), ?_⟩
        exact List.forall_mem_singleton.mpr (not_spells_using spellsTable (by decide))
      refine ⟨[create, virtual, table] ++ condition ++ qualified, keyword, moduleToken, ?_,
        spellsUsing, isChain_append_of_absent front named.isChain⟩
      simp

/-- A head ends where the first `USING` stands that a module's name follows. -/
theorem Written.rest_eq {head : Head} {tokens after front rest : List Token} {keyword name : Token}
    (written : Written head tokens) (same : tokens ++ after = front ++ keyword :: name :: rest)
    (absent : ∀ token ∈ front, ¬ token.Spells "USING") (spelled : keyword.Spells "USING")
    (noDot : name ≠ .dot) (other : ¬ name.Spells "USING") : after = rest := by
  obtain ⟨stem, using', moduleToken, rfl, spellsUsing, chain⟩ := written.exists_stem
  rw [List.append_assoc] at same
  rcases List.append_eq_append_iff.mp same with ⟨middle, rfl, tail⟩ | ⟨middle, rfl, tail⟩
  · cases middle with
    | nil => exact (List.cons.inj (List.cons.inj tail).2).2
    | cons first middle =>
        -- The `USING` of the head would stand in front of the first one.
        obtain ⟨rfl, _⟩ := List.cons.inj tail
        exact (absent using' (by simp) spellsUsing).elim
  · cases middle with
    | nil => exact (List.cons.inj (List.cons.inj tail).2).2.symm
    | cons first middle =>
        -- The first `USING` would be a name of the head.
        obtain ⟨rfl, behind⟩ := List.cons.inj tail
        cases middle with
        | nil =>
            obtain ⟨rfl, _⟩ := List.cons.inj behind
            exact (other spellsUsing).elim
        | cons second middle =>
            obtain ⟨rfl, _⟩ := List.cons.inj behind
            have further := (List.isChain_append.mp chain).2.1
            exact (noDot ((List.isChain_cons_cons.mp further).1 spelled)).elim

end Head

namespace VirtualTable

/-- The arguments are those behind the first `USING` and the name of a module, whether what stands
before is read as a head or not. -/
theorem arguments_behind_using {front rest : List Token} {keyword name : Token}
    (absent : ∀ token ∈ front, ¬ token.Spells "USING") (spelled : keyword.Spells "USING")
    (named : namesModule name = true) (other : ¬ name.Spells "USING") :
    (ofTokens (front ++ keyword :: name :: rest)).arguments = ModuleArgument.ofTokens rest := by
  have noDot : name ≠ .dot := by
    rintro rfl
    contradiction
  unfold ofTokens
  split
  · next head after read =>
      obtain ⟨tokens, written, reads⟩ := Cursor.head_eq_ok_iff.mp read
      have last : after.rest = rest :=
        written.rest_eq reads.rest_eq.symm absent spelled noDot other
      exact congrArg ModuleArgument.ofTokens last
  · exact congrArg ModuleArgument.ofTokens (afterModule_append absent spelled named)

/-- A head without a table, whose `USING` is taken for the name of one. -/
def nameless : List Token := [.word "CREATE", .word "VIRTUAL", .word "TABLE"]

theorem arguments_behind_using_nameless :
    let tokens : List Token := nameless ++ .word "Using" :: .quoted "using" ::
      [.leftParen, .word "a", .comma, .word "b", .rightParen]
    (ofTokens tokens).head = .error (.expected "USING" 4) ∧
      (ofTokens tokens).arguments = .ok [.column "a" false, .column "b" false] :=
  ⟨rfl, arguments_behind_using (by decide) (by decide) rfl (by decide)⟩

end VirtualTable

end SearchIndex.Sql
