import Mathlib
import SearchIndex.Proofs.Text.Trim
import SearchIndex.Search.Sanitize

/-!
Contract: what is left of a search text when the denied sequences are removed.

Owns: what it is for a denied sequence to stand in a text (`Contains`) and for the matches in a text
to be removed from left to right (`Removal`), both said of letters in either case and without the
program's folding; `Removal.eq_removeDenied`, one round of the program is that removal and there is
no other; `settles_settle`, the rounds come to an end; and `sanitize_settles`, what this makes of a
sanitized text, whatever engine finds and removes the matches.

A removal can join its two sides to a new denied sequence, so nothing is said about a single round
except that it shortens a text in which there is something to remove. That carries the induction.
-/

namespace SearchIndex.Search

/-! ### Denied sequences in a text -/

/-- Whether a character is written for a character of a denied sequence: as it is, as its capital,
or as a long s. -/
def Spells (c d : Char) : Prop := c = d ∨ c = d.toUpper ∨ c = 'ſ' ∧ d = 's'

/-- Whether a text is a denied sequence, in capital or small letters. -/
def IsDenied (text : List Char) : Prop :=
  ∃ sequence ∈ [";", "--", "/*", "*/", "union", "drop", "delete", "insert", "update", "create"],
    List.Forall₂ Spells text sequence.toList

/-- Whether a denied sequence stands at the beginning of a text. -/
def Opens (text : List Char) : Prop := ∃ found, IsDenied found ∧ found <+: text

/-- Whether a denied sequence stands somewhere in a text. -/
def Contains (text : List Char) : Prop := ∃ found, IsDenied found ∧ found <:+: text

/-- What is left of a text when its matches are removed: the first one begins where none begins
further left, and the search goes on behind it. -/
inductive Removal : List Char → List Char → Prop where
  | settled {text : List Char} (absent : ¬ Contains text) : Removal text text
  | removed {before found after kept : List Char} (denies : IsDenied found)
      (leftmost : ∀ start, start ≠ [] → start <:+ before → ¬ Opens (start ++ (found ++ after)))
      (removal : Removal after kept) : Removal (before ++ (found ++ after)) (before ++ kept)

/-- What a loop ends with that removes matches as long as there are any. -/
inductive Settles (isMatch : List Char → Bool) (replaceAll : List Char → List Char) :
    List Char → List Char → Prop where
  | done {text : List Char} (finished : isMatch text = false) : Settles isMatch replaceAll text text
  | round {text settled : List Char} (more : isMatch text = true)
      (others : Settles isMatch replaceAll (replaceAll text) settled) :
      Settles isMatch replaceAll text settled

theorem isDenied_iff {text : List Char} :
    IsDenied text ↔ ∃ sequence ∈ denied, List.Forall₂ Spells text sequence := by
  simp only [IsDenied, denied, List.mem_map, exists_exists_and_eq_and]

/-! ### Letters -/

/-- The characters of denied sequences are no capitals, and none of them is a long s. -/
theorem small_of_mem_denied :
    ∀ sequence ∈ denied, ∀ d ∈ sequence, d.isUpper = false ∧ d ≠ 'ſ' := by
  simp [denied]

theorem toUpper_ne_long {d : Char} (short : d ≠ 'ſ') : d.toUpper ≠ 'ſ' := by
  by_cases lower : d.isLower = true
  · intro equal
    have upper : d.toUpper.isUpper = true := by
      rw [Char.isUpper_toUpper_eq_isAlpha, Char.isAlpha, lower, Bool.or_true]
    rw [equal] at upper
    exact absurd upper (by decide)
  · rw [Char.toUpper_eq_of_not_isLower lower]
    exact short

theorem folded_eq_iff {c d : Char} (small : d.isUpper = false) (short : d ≠ 'ſ') :
    folded c = d ↔ Spells c d := by
  have lower : d.toLower = d := Char.toLower_eq_of_not_isUpper (by simp [small])
  constructor
  · intro same
    unfold folded at same
    split at same
    · rename_i long
      exact Or.inr (Or.inr ⟨long, same.symm⟩)
    · by_cases upper : c.isUpper = true
      · have capital : ¬ c.isLower = true := Char.not_isLower_of_isUpper upper
        refine Or.inr (Or.inl ?_)
        rw [← same, Char.toUpper_toLower_eq_toUpper, Char.toUpper_eq_of_not_isLower capital]
      · exact Or.inl ((Char.toLower_eq_of_not_isUpper upper).symm.trans same)
  · rintro (rfl | rfl | ⟨rfl, rfl⟩)
    · rw [folded, if_neg short, lower]
    · rw [folded, if_neg (toUpper_ne_long short), Char.toLower_toUpper_eq_toLower, lower]
    · rfl

theorem map_folded_of_spells {found sequence : List Char}
    (spelled : List.Forall₂ Spells found sequence)
    (small : ∀ d ∈ sequence, d.isUpper = false ∧ d ≠ 'ſ') : found.map folded = sequence := by
  induction spelled with
  | nil => rfl
  | cons spells _ inductionHypothesis =>
      obtain ⟨first, others⟩ := List.forall_mem_cons.mp small
      rw [List.map_cons, (folded_eq_iff first.1 first.2).mpr spells, inductionHypothesis others]

/-! ### Matches at the beginning -/

theorem afterSequence?_eq_some_iff {sequence text left : List Char}
    (small : ∀ d ∈ sequence, d.isUpper = false ∧ d ≠ 'ſ') :
    afterSequence? sequence text = some left ↔
      ∃ found, List.Forall₂ Spells found sequence ∧ found ++ left = text := by
  induction sequence generalizing text with
  | nil => simp [afterSequence?, eq_comm]
  | cons d sequence inductionHypothesis =>
      obtain ⟨first, others⟩ := List.forall_mem_cons.mp small
      cases text with
      | nil => simp [afterSequence?, List.forall₂_cons_right_iff]
      | cons c text =>
          rw [afterSequence?]
          by_cases spells : Spells c d
          · rw [if_pos ((folded_eq_iff first.1 first.2).mpr spells), inductionHypothesis others]
            constructor
            · rintro ⟨found, spelled, rfl⟩
              exact ⟨c :: found, spelled.cons spells, rfl⟩
            · rintro ⟨found, spelled, split⟩
              obtain ⟨b, rest, _, spelledRest, rfl⟩ := List.forall₂_cons_right_iff.mp spelled
              exact ⟨rest, spelledRest, (List.cons.inj split).2⟩
          · rw [if_neg fun same => spells ((folded_eq_iff first.1 first.2).mp same)]
            refine iff_of_false (Option.some_ne_none left).symm ?_
            rintro ⟨found, spelled, split⟩
            obtain ⟨b, rest, spellsFirst, _, rfl⟩ := List.forall₂_cons_right_iff.mp spelled
            exact spells ((List.cons.inj split).1 ▸ spellsFirst)

/-- No denied sequence begins another one. -/
theorem eq_of_prefix_of_mem_denied {first second : List Char} (firstMember : first ∈ denied)
    (secondMember : second ∈ denied) (opening : first <+: second) : first = second := by
  have apart : ∀ first ∈ denied, ∀ second ∈ denied, first <+: second → first = second := by decide
  exact apart first firstMember second secondMember opening

/-- At most one denied sequence begins a text. -/
theorem length_eq_of_isDenied {first second text : List Char} (firstDenied : IsDenied first)
    (secondDenied : IsDenied second) (firstOpens : first <+: text) (secondOpens : second <+: text) :
    first.length = second.length := by
  obtain ⟨firstSequence, firstMember, firstSpelled⟩ := isDenied_iff.mp firstDenied
  obtain ⟨secondSequence, secondMember, secondSpelled⟩ := isDenied_iff.mp secondDenied
  have firstFolded := firstOpens.map folded
  have secondFolded := secondOpens.map folded
  rw [map_folded_of_spells firstSpelled (small_of_mem_denied firstSequence firstMember)]
    at firstFolded
  rw [map_folded_of_spells secondSpelled (small_of_mem_denied secondSequence secondMember)]
    at secondFolded
  rw [firstSpelled.length_eq, secondSpelled.length_eq]
  rcases List.prefix_or_prefix_of_prefix firstFolded secondFolded with opening | opening
  · rw [eq_of_prefix_of_mem_denied firstMember secondMember opening]
  · rw [eq_of_prefix_of_mem_denied secondMember firstMember opening]

theorem IsDenied.ne_nil {found : List Char} (denies : IsDenied found) : found ≠ [] := by
  obtain ⟨sequence, member, spelled⟩ := isDenied_iff.mp denies
  rw [← List.length_pos_iff, spelled.length_eq]
  exact length_of_mem_denied member

theorem exists_of_afterDenied? {text left : List Char} (found : afterDenied? text = some left) :
    ∃ opening, IsDenied opening ∧ opening ++ left = text := by
  obtain ⟨sequence, member, matched⟩ := List.exists_of_findSome?_eq_some found
  obtain ⟨opening, spelled, split⟩ :=
    (afterSequence?_eq_some_iff (small_of_mem_denied sequence member)).mp matched
  exact ⟨opening, isDenied_iff.mpr ⟨sequence, member, spelled⟩, split⟩

theorem afterDenied?_append {found : List Char} (denies : IsDenied found) (left : List Char) :
    afterDenied? (found ++ left) = some left := by
  cases result : afterDenied? (found ++ left) with
  | none =>
      obtain ⟨sequence, member, spelled⟩ := isDenied_iff.mp denies
      have missed := List.findSome?_eq_none_iff.mp result sequence member
      have matched : afterSequence? sequence (found ++ left) = some left :=
        (afterSequence?_eq_some_iff (small_of_mem_denied sequence member)).mpr ⟨found, spelled, rfl⟩
      rw [matched] at missed
      contradiction
  | some other =>
      obtain ⟨opening, deniesOpening, split⟩ := exists_of_afterDenied? result
      have same : opening.length = found.length :=
        length_eq_of_isDenied deniesOpening denies ⟨other, split⟩ (List.prefix_append found left)
      rw [(List.append_inj split same).2]

theorem afterDenied?_eq_none_iff {text : List Char} : afterDenied? text = none ↔ ¬ Opens text := by
  constructor
  · rintro missed ⟨found, denies, left, rfl⟩
    rw [afterDenied?_append denies] at missed
    contradiction
  · intro absent
    cases result : afterDenied? text with
    | none => rfl
    | some left =>
        obtain ⟨opening, denies, split⟩ := exists_of_afterDenied? result
        exact absurd ⟨opening, denies, left, split⟩ absent

/-! ### Matches anywhere -/

theorem not_contains_nil : ¬ Contains [] := by
  rintro ⟨found, denies, part⟩
  exact denies.ne_nil (List.infix_nil.mp part)

theorem contains_cons {c : Char} {rest : List Char} :
    Contains (c :: rest) ↔ Opens (c :: rest) ∨ Contains rest := by
  simp only [Contains, Opens, List.infix_cons_iff, and_or_left, exists_or]

theorem Contains.of_infix {part text : List Char} (contains : Contains part)
    (inside : part <:+: text) : Contains text := by
  obtain ⟨found, denies, stands⟩ := contains
  exact ⟨found, denies, stands.trans inside⟩

/-! ### One round -/

theorem removeDenied_nil : removeDenied [] = [] := by
  rw [removeDenied]

theorem removeDenied_append {found : List Char} (denies : IsDenied found) (left : List Char) :
    removeDenied (found ++ left) = removeDenied left := by
  obtain ⟨c, rest, rfl⟩ := List.exists_cons_of_ne_nil denies.ne_nil
  have result := afterDenied?_append denies left
  rw [List.cons_append] at result ⊢
  rw [removeDenied]
  split
  · rename_i other matched
    rw [Option.some.inj (result.symm.trans matched)]
  · rename_i missed
    rw [result] at missed
    contradiction

theorem removeDenied_cons {c : Char} {rest : List Char} (absent : ¬ Opens (c :: rest)) :
    removeDenied (c :: rest) = c :: removeDenied rest := by
  have result := afterDenied?_eq_none_iff.mpr absent
  rw [removeDenied]
  split
  · rename_i matched
    rw [result] at matched
    contradiction
  · rfl

/-- Texts by what stands at their beginning: nothing, a denied sequence, or another character. -/
theorem opensInduction {motive : List Char → Prop} (nil : motive [])
    (denied : ∀ found left, IsDenied found → motive left → motive (found ++ left))
    (other : ∀ c rest, ¬ Opens (c :: rest) → motive rest → motive (c :: rest)) :
    ∀ text, motive text
  | [] => nil
  | c :: rest =>
    match result : afterDenied? (c :: rest) with
    | none =>
        other c rest (afterDenied?_eq_none_iff.mp result) (opensInduction nil denied other rest)
    | some left => by
        obtain ⟨found, denies, split⟩ := exists_of_afterDenied? result
        have shorter := length_afterDenied? result
        rw [← split]
        exact denied found left denies (opensInduction nil denied other left)
  termination_by text => text.length
  decreasing_by
    · exact Nat.lt_succ_self rest.length
    · exact length_afterDenied? result

theorem removeDenied_sublist (text : List Char) : (removeDenied text).Sublist text := by
  induction text using opensInduction with
  | nil =>
      rw [removeDenied_nil]
  | denied found left denies inductionHypothesis =>
      rw [removeDenied_append denies]
      exact inductionHypothesis.trans (List.sublist_append_right found left)
  | other c rest absent inductionHypothesis =>
      rw [removeDenied_cons absent]
      exact inductionHypothesis.cons_cons c

/-- A round leaves a text as it is just where there is nothing to remove. -/
theorem removeDenied_eq_self_iff {text : List Char} :
    removeDenied text = text ↔ ¬ Contains text := by
  induction text using opensInduction with
  | nil =>
      rw [removeDenied_nil]
      exact iff_of_true rfl not_contains_nil
  | denied found left denies _ =>
      have contains : Contains (found ++ left) :=
        ⟨found, denies, (List.prefix_append found left).isInfix⟩
      refine iff_of_false (fun same => ?_) (not_not_intro contains)
      have bound := (removeDenied_sublist left).length_le
      have positive := List.length_pos_iff.mpr denies.ne_nil
      rw [removeDenied_append denies] at same
      rw [same, List.length_append] at bound
      omega
  | other c rest absent inductionHypothesis =>
      rw [removeDenied_cons absent, List.cons_inj_right, inductionHypothesis, contains_cons]
      simp only [absent, false_or]

theorem length_removeDenied_lt_iff {text : List Char} :
    (removeDenied text).length < text.length ↔ Contains text := by
  have bound := (removeDenied_sublist text).length_le
  constructor
  · intro shorter
    by_contra absent
    rw [removeDenied_eq_self_iff.mpr absent] at shorter
    exact lt_irrefl _ shorter
  · intro contains
    refine lt_of_le_of_ne bound fun same => ?_
    have unchanged := (removeDenied_sublist text).eq_of_length same
    exact removeDenied_eq_self_iff.mp unchanged contains

/-! ### Removal from left to right -/

theorem Removal.cons {c : Char} {rest kept : List Char} (absent : ¬ Opens (c :: rest))
    (removal : Removal rest kept) : Removal (c :: rest) (c :: kept) := by
  cases removal with
  | settled absentRest =>
      exact .settled fun contains => (contains_cons.mp contains).elim absent absentRest
  | @removed before found after kept denies leftmost removal =>
      change Removal ((c :: before) ++ (found ++ after)) ((c :: before) ++ kept)
      refine .removed denies (fun start nonempty ending => ?_) removal
      rcases List.suffix_cons_iff.mp ending with rfl | further
      · exact absent
      · exact leftmost start nonempty further

theorem removal_removeDenied (text : List Char) : Removal text (removeDenied text) := by
  induction text using opensInduction with
  | nil =>
      rw [removeDenied_nil]
      exact .settled not_contains_nil
  | denied found left denies inductionHypothesis =>
      rw [removeDenied_append denies]
      change Removal ([] ++ (found ++ left)) ([] ++ removeDenied left)
      refine .removed denies (fun start nonempty ending => ?_) inductionHypothesis
      exact absurd (List.suffix_nil.mp ending) nonempty
  | other c rest absent inductionHypothesis =>
      rw [removeDenied_cons absent]
      exact inductionHypothesis.cons absent

/-- There is one way to remove the matches from left to right. -/
theorem Removal.eq_removeDenied {text kept : List Char} (removal : Removal text kept) :
    kept = removeDenied text := by
  induction removal with
  | settled absent => exact (removeDenied_eq_self_iff.mpr absent).symm
  | @removed before found after kept denies leftmost _ inductionHypothesis =>
      rw [inductionHypothesis]
      clear inductionHypothesis
      induction before with
      | nil => exact (removeDenied_append denies after).symm
      | cons c before inductionHypothesis =>
          have absent := leftmost (c :: before) (List.cons_ne_nil c before) (List.suffix_refl _)
          have further := inductionHypothesis fun start nonempty ending =>
            leftmost start nonempty (ending.trans (List.suffix_cons c before))
          rw [List.cons_append, List.cons_append, further]
          exact (removeDenied_cons absent).symm

/-! ### All rounds -/

theorem settle_of_contains {text : List Char} (contains : Contains text) :
    settle text = settle (removeDenied text) := by
  rw [settle, if_pos (length_removeDenied_lt_iff.mpr contains)]

theorem settle_of_not_contains {text : List Char} (absent : ¬ Contains text) :
    settle text = text := by
  rw [settle, if_neg fun shorter => absent (length_removeDenied_lt_iff.mp shorter)]

/-- Texts by the rounds of removal that they take. -/
theorem roundInduction {motive : List Char → Prop} (settled : ∀ text, ¬ Contains text → motive text)
    (round : ∀ text, Contains text → motive (removeDenied text) → motive text) (text : List Char) :
    motive text := by
  induction bound : text.length using Nat.strong_induction_on generalizing text with
  | _ size inductionHypothesis =>
      by_cases contains : Contains text
      · have shorter := length_removeDenied_lt_iff.mpr contains
        exact round text contains
          (inductionHypothesis _ (bound ▸ shorter) (removeDenied text) rfl)
      · exact settled text contains

theorem settle_sublist (text : List Char) : (settle text).Sublist text := by
  induction text using roundInduction with
  | settled text absent => rw [settle_of_not_contains absent]
  | round text contains inductionHypothesis =>
      rw [settle_of_contains contains]
      exact inductionHypothesis.trans (removeDenied_sublist text)

theorem not_contains_settle (text : List Char) : ¬ Contains (settle text) := by
  induction text using roundInduction with
  | settled text absent => rwa [settle_of_not_contains absent]
  | round text contains inductionHypothesis => rwa [settle_of_contains contains]

/-- The rounds come to an end, whatever engine finds and removes the matches. -/
theorem settles_settle {isMatch : List Char → Bool} {replaceAll : List Char → List Char}
    (finds : ∀ text, isMatch text = true ↔ Contains text)
    (removes : ∀ text, Removal text (replaceAll text)) (text : List Char) :
    Settles isMatch replaceAll text (settle text) := by
  induction text using roundInduction with
  | settled text absent =>
      rw [settle_of_not_contains absent]
      exact .done (Bool.eq_false_iff.mpr fun found => absent ((finds text).mp found))
  | round text contains inductionHypothesis =>
      rw [settle_of_contains contains]
      refine .round ((finds text).mpr contains) ?_
      rwa [(removes text).eq_removeDenied]

/-! ### Sanitized texts -/

theorem toList_sanitize (raw : String) : (sanitize raw).toList = Text.trim (settle raw.toList) :=
  String.toList_ofList

theorem not_contains_sanitize (raw : String) : ¬ Contains (sanitize raw).toList := by
  rw [toList_sanitize]
  exact fun contains => not_contains_settle raw.toList (contains.of_infix (Text.trim_infix _))

theorem sanitize_of_not_contains {raw : String} (absent : ¬ Contains raw.toList) :
    sanitize raw = Text.trimmed raw := by
  rw [sanitize, settle_of_not_contains absent, Text.trimmed]

theorem sanitize_sublist (raw : String) :
    (sanitize raw).toList.Sublist (Text.trimmed raw).toList := by
  rw [toList_sanitize, Text.trimmed, String.toList_ofList]
  exact Text.trim_of_sublist (settle_sublist raw.toList)

theorem sanitize_sanitize (raw : String) : sanitize (sanitize raw) = sanitize raw := by
  rw [sanitize_of_not_contains (not_contains_sanitize raw), Text.trimmed, toList_sanitize,
    Text.trim_trim]
  rfl

/-- Whatever engine removes the matches, round after round until there are none, the rounds come to
an end. What they leave, without the blanks at its ends, is the sanitized text. -/
theorem sanitize_settles {isMatch : List Char → Bool} {replaceAll : List Char → List Char}
    (finds : ∀ text, isMatch text = true ↔ Contains text)
    (removes : ∀ text, Removal text (replaceAll text)) (raw : String) :
    (∃ settled, Settles isMatch replaceAll raw.toList settled ∧
      (sanitize raw).toList = Text.trim settled) ∧
    ¬ Contains (sanitize raw).toList ∧
    (∀ c ∈ (sanitize raw).toList.head?, c.toNat ∉ Text.whiteSpace) ∧
    (∀ c ∈ (sanitize raw).toList.getLast?, c.toNat ∉ Text.whiteSpace) ∧
    (sanitize raw).toList.Sublist (Text.trimmed raw).toList ∧
    (sanitize raw).utf8ByteSize ≤ (Text.trimmed raw).utf8ByteSize ∧
    sanitize (sanitize raw) = sanitize raw ∧
    (¬ Contains raw.toList → sanitize raw = Text.trimmed raw) := by
  refine ⟨⟨_, settles_settle finds removes raw.toList, toList_sanitize raw⟩,
    not_contains_sanitize raw, ?_, ?_, sanitize_sublist raw, ?_, sanitize_sanitize raw,
    sanitize_of_not_contains⟩
  · rw [toList_sanitize]
    exact fun c member => Text.isBlank_eq_false_iff.mp (Text.isBlank_head_trim member)
  · rw [toList_sanitize]
    exact fun c member => Text.isBlank_eq_false_iff.mp (Text.isBlank_getLast_trim member)
  · have bytes := String.utf8Len_le_of_sublist (sanitize_sublist raw)
    rwa [← String.utf8ByteSize_ofList, ← String.utf8ByteSize_ofList, String.ofList_toList,
      String.ofList_toList] at bytes

/-- The rounds of the program itself, on a text in which the first removals join their sides. -/
theorem sanitize_settles_joined :
    (∀ text, decide ((removeDenied text).length < text.length) = true ↔ Contains text) ∧
    (∀ text, Removal text (removeDenied text)) ∧
    (∃ settled, Settles (fun text => decide ((removeDenied text).length < text.length))
      removeDenied " DRDROPOP -;- inſerTert {a}: x ".toList settled ∧
      Text.trim settled = "ert {a}: x".toList) := by
  have finds (text : List Char) :
      decide ((removeDenied text).length < text.length) = true ↔ Contains text :=
    decide_eq_true_iff.trans length_removeDenied_lt_iff
  obtain ⟨⟨settled, settles, left⟩, _⟩ :=
    sanitize_settles finds removal_removeDenied " DRDROPOP -;- inſerTert {a}: x "
  have result : sanitize " DRDROPOP -;- inſerTert {a}: x " = "ert {a}: x" := by decide +kernel
  exact ⟨finds, removal_removeDenied, settled, settles, by rw [← left, result]⟩

end SearchIndex.Search
