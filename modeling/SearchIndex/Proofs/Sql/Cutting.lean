import Mathlib.Logic.Function.Iterate
import SearchIndex.Proofs.Sql.Nesting

/-!
Contract: an argument list is cut in one way, whatever its tokens are.

Owns: `Cut`, the conditions on the segments of an argument list, with `Cut.all_eq`, by which they
fix the segments; `Cutting`, the reading of a list token by token with a counter of the open
parentheses; `Cutting.Sound`, what every step of the reading preserves; and `reading_cuts`, by which
the reading ends with the segments of the list.

The counter of `Cutting` is an integer, which could fall below zero. It does not: a closing
parenthesis at zero ends the list instead of being counted, so that the counter is always the number
of parentheses open in the segment, with which the reader of segments goes on.
-/

namespace SearchIndex.Sql

open Token (nesting Uncut)

/-! ### Ways to cut -/

namespace Segment

/-- The tokens that a segment takes, its terminator included. -/
def source (segment : Segment) : List Token := segment.tokens ++ segment.terminator.toList

/-- A segment without a place in it where a list is cut. Its terminator stands outside of
parentheses. -/
structure Whole (segment : Segment) : Prop where
  uncut : Uncut segment.tokens
  closed : segment.terminator ≠ none → nesting segment.tokens = 0

section Whole

variable {segments : List Segment} {segment : Segment}

theorem Whole.closed_tokens (whole : segment.Whole) (terminated : segment.terminator ≠ none) :
    Closed segment.tokens :=
  closed_of_uncut whole.uncut (whole.closed terminated)

/-- Behind segments that end with commas the list is read like a list of its own. -/
theorem all_flatMap_source (whole : ∀ segment ∈ segments, segment.Whole)
    (commas : ∀ segment ∈ segments, segment.terminator = some .comma) (others : List Token) :
    all (segments.flatMap source ++ others) = segments ++ all others := by
  induction segments with
  | nil => rfl
  | cons segment segments inductionHypothesis =>
      obtain ⟨first, further⟩ := List.forall_mem_cons.mp whole
      obtain ⟨comma, furtherCommas⟩ := List.forall_mem_cons.mp commas
      have closed := first.closed_tokens (by simp [comma])
      have source_eq : segment.source = segment.tokens ++ [.comma] := by rw [source, comma]; rfl
      rw [List.flatMap_cons, source_eq, List.append_assoc, List.append_assoc, List.singleton_append,
        closed.all_comma, inductionHypothesis further furtherCommas, List.cons_append, ← comma]

theorem Whole.all_source {rest : List Token} (whole : segment.Whole)
    (ends : segment.terminator = some .rightParen ∨ segment.terminator = none ∧ rest = []) :
    all (segment.source ++ rest) = [segment] := by
  rcases ends with closing | ⟨open', rfl⟩
  · have closed := whole.closed_tokens (by simp [closing])
    have source_eq : segment.source = segment.tokens ++ [.rightParen] := by
      rw [source, closing]
      rfl
    rw [source_eq, List.append_assoc, List.singleton_append, closed.all_rightParen, ← closing]
  · have source_eq : segment.source = segment.tokens := by simp [source, open']
    rw [source_eq, List.append_nil, all_of_uncut whole.uncut, ← open']

end Whole

end Segment

/-- An argument list is cut into segments, the last one apart, and what follows them. -/
structure Cut (tokens : List Token) (front : List Segment) (last : Segment) (rest : List Token) :
    Prop where
  /-- No token is lost, repeated or moved. -/
  source_eq : tokens = (front ++ [last]).flatMap Segment.source ++ rest
  whole : ∀ segment ∈ front ++ [last], segment.Whole
  commas : ∀ segment ∈ front, segment.terminator = some .comma
  /-- A list that is not closed is read to its end. -/
  ends : last.terminator = some .rightParen ∨ last.terminator = none ∧ rest = []

namespace Cut

variable {tokens rest : List Token} {front : List Segment} {last : Segment}

/-- The segments of a list are those of any way to cut it. -/
theorem all_eq (cut : Cut tokens front last rest) : Segment.all tokens = front ++ [last] := by
  obtain ⟨whole, lastWhole⟩ := List.forall_mem_append.mp cut.whole
  rw [cut.source_eq, List.flatMap_append, List.append_assoc,
    Segment.all_flatMap_source whole cut.commas, List.flatMap_singleton,
    (List.forall_mem_singleton.mp lastWhole).all_source cut.ends]

/-- There is no more than one way to cut a list. -/
theorem cut_iff (cut : Cut tokens front last rest) {front' : List Segment} {last' : Segment}
    {rest' : List Token} :
    Cut tokens front' last' rest' ↔ front' = front ∧ last' = last ∧ rest' = rest := by
  constructor
  · intro other
    have same : front' ++ [last'] = front ++ [last] := other.all_eq.symm.trans cut.all_eq
    obtain ⟨rfl, rfl⟩ := List.append_singleton_inj.mp same
    exact ⟨rfl, rfl, List.append_cancel_left (other.source_eq.symm.trans cut.source_eq)⟩
  · rintro ⟨rfl, rfl, rfl⟩
    exact cut

end Cut

/-! ### Token by token -/

/-- An argument list that is read token by token. -/
inductive Cutting where
  /-- The segments so far, the tokens of the next one and the parentheses open in it, and the tokens
  that are left. -/
  | reading (segments : List Segment) (current : List Token) (depth : Int) (rest : List Token)
  | finished (segments : List Segment) (rest : List Token)
deriving DecidableEq, Repr

namespace Cutting

def start (tokens : List Token) : Cutting := .reading [] [] 0 tokens

/-- Reads one token. The list is finished at its end and by a closing parenthesis of its own. -/
def step : Cutting → Cutting
  | .reading segments current depth (.leftParen :: rest) =>
    .reading segments (current ++ [.leftParen]) (depth + 1) rest
  | .reading segments current depth (.rightParen :: rest) =>
    if depth = 0 then .finished (segments ++ [⟨current, some .rightParen⟩]) rest
    else .reading segments (current ++ [.rightParen]) (depth - 1) rest
  | .reading segments current depth (.comma :: rest) =>
    if depth = 0 then .reading (segments ++ [⟨current, some .comma⟩]) [] 0 rest
    else .reading segments (current ++ [.comma]) depth rest
  | .reading segments current depth (token :: rest) =>
    .reading segments (current ++ [token]) depth rest
  | .reading segments current _ [] => .finished (segments ++ [⟨current, none⟩]) []
  | .finished segments rest => .finished segments rest

/-- The parentheses that are counted as open. -/
def depth : Cutting → Int
  | .reading _ _ depth _ => depth
  | .finished _ _ => 0

/-- The segments that the reader of segments makes from here, with as many open parentheses as are
counted. -/
def outcome : Cutting → List Segment
  | .reading segments current depth rest =>
    let (first, more) := current.foldr Segment.extend (Segment.split depth.toNat rest)
    segments ++ first :: more
  | .finished segments _ => segments

/-! #### What a step preserves -/

/-- What was read of a list is cut, and the counter tells the parentheses that are open. -/
inductive Sound (tokens : List Token) : Cutting → Prop where
  | reading {segments : List Segment} {current rest : List Token} {depth : Int}
      (source_eq : tokens = segments.flatMap Segment.source ++ (current ++ rest))
      (whole : ∀ segment ∈ segments, segment.Whole)
      (commas : ∀ segment ∈ segments, segment.terminator = some .comma)
      (uncut : Uncut current) (depth_eq : depth = nesting current) :
      Sound tokens (.reading segments current depth rest)
  | finished {front : List Segment} {last : Segment} {rest : List Token}
      (cut : Cut tokens front last rest) : Sound tokens (.finished (front ++ [last]) rest)

theorem sound_start (tokens : List Token) : Sound tokens (start tokens) :=
  .reading rfl (List.forall_mem_nil _) (List.forall_mem_nil _) Token.uncut_nil rfl

section Step

variable {tokens current rest : List Token} {segments : List Segment} {token : Token} {depth : Int}

/-- A token that does not end the segment is added to it. -/
theorem Sound.extend (sound : Sound tokens (.reading segments current depth (token :: rest)))
    (inside : token = .comma ∨ token = .rightParen → depth ≠ 0) :
    Sound tokens (.reading segments (current ++ [token]) (depth + nesting [token]) rest) := by
  obtain ⟨source_eq, whole, commas, uncut, rfl⟩ := sound
  have nonneg := uncut.nesting_nonneg
  have opened (ends : token = .comma ∨ token = .rightParen) : 0 < nesting current := by
    have apart := inside ends
    omega
  refine .reading ?_ whole commas (Token.uncut_concat_iff.mpr ⟨uncut, opened⟩) ?_
  · simp [source_eq]
  · rw [Token.nesting_append]

/-- At depth zero the segment may end, with a terminator or without one at the end of the list. -/
theorem Sound.forall_whole (sound : Sound tokens (.reading segments current depth rest))
    (terminator : Option Token) (outside : terminator ≠ none → depth = 0) :
    ∀ segment ∈ segments ++ [⟨current, terminator⟩], segment.Whole := by
  obtain ⟨_, whole, _, uncut, rfl⟩ := sound
  exact List.forall_mem_append.mpr ⟨whole, List.forall_mem_singleton.mpr ⟨uncut, outside⟩⟩

theorem Sound.comma (sound : Sound tokens (.reading segments current 0 (.comma :: rest))) :
    Sound tokens (.reading (segments ++ [⟨current, some .comma⟩]) [] 0 rest) := by
  have whole := sound.forall_whole (some .comma) fun _ => rfl
  obtain ⟨source_eq, _, commas, _, _⟩ := sound
  refine .reading ?_ whole ?_ Token.uncut_nil rfl
  · simp [source_eq, Segment.source]
  · exact List.forall_mem_append.mpr ⟨commas, List.forall_mem_singleton.mpr rfl⟩

theorem Sound.rightParen
    (sound : Sound tokens (.reading segments current 0 (.rightParen :: rest))) :
    Sound tokens (.finished (segments ++ [⟨current, some .rightParen⟩]) rest) := by
  have whole := sound.forall_whole (some .rightParen) fun _ => rfl
  obtain ⟨source_eq, _, commas, _, _⟩ := sound
  refine .finished ⟨?_, whole, commas, .inl rfl⟩
  simp [source_eq, Segment.source]

theorem Sound.nil (sound : Sound tokens (.reading segments current depth [])) :
    Sound tokens (.finished (segments ++ [⟨current, none⟩]) []) := by
  have whole := sound.forall_whole none fun terminated => (terminated rfl).elim
  obtain ⟨source_eq, _, commas, _, _⟩ := sound
  refine .finished ⟨?_, whole, commas, .inr ⟨rfl, rfl⟩⟩
  simp [source_eq, Segment.source]

end Step

theorem sound_step {tokens : List Token} {state : Cutting} (sound : Sound tokens state) :
    Sound tokens state.step := by
  unfold step
  split
  · exact sound.extend (by simp)
  · next segments current depth rest =>
      -- Outside of parentheses the segment ends, and inside of them the counter is positive.
      by_cases outside : depth = 0
      · subst outside
        exact sound.rightParen
      · rw [if_neg outside]
        exact sound.extend fun _ => outside
  · next segments current depth rest =>
      by_cases outside : depth = 0
      · subst outside
        exact sound.comma
      · rw [if_neg outside]
        have further := sound.extend fun _ => outside
        rwa [Token.nesting_singleton (by simp) (by simp), Int.add_zero] at further
  · next segments current depth token rest leftParen rightParen comma =>
      have further := sound.extend fun ends => (ends.elim comma rightParen).elim
      rwa [Token.nesting_singleton leftParen rightParen, Int.add_zero] at further
  · exact sound.nil
  · exact sound

theorem sound_iterate {tokens : List Token} {state : Cutting} (sound : Sound tokens state)
    (steps : Nat) : Sound tokens (step^[steps] state) := by
  induction steps with
  | zero => exact sound
  | succ steps inductionHypothesis =>
      rw [Function.iterate_succ_apply']
      exact sound_step inductionHypothesis

section Sound

variable {tokens : List Token} {state : Cutting} (sound : Sound tokens state)
include sound

theorem Sound.depth_nonneg : 0 ≤ state.depth := by
  cases sound with
  | reading _ _ _ uncut depth_eq =>
      rw [depth, depth_eq]
      exact uncut.nesting_nonneg
  | finished => exact Int.le_refl 0

theorem Sound.outcome_eq : state.outcome = Segment.all tokens := by
  cases sound with
  | reading source_eq whole commas uncut depth_eq =>
      rw [source_eq, Segment.all_flatMap_source whole commas, Segment.all,
        Segment.split_append uncut, depth_eq]
      rfl
  | finished cut => exact cut.all_eq.symm

end Sound

/-! #### The end of the reading -/

/-- A bound on the steps until the reading is finished. -/
def remaining : Cutting → Nat
  | .reading _ _ _ rest => rest.length + 1
  | .finished _ _ => 0

theorem remaining_step (state : Cutting) : state.step.remaining ≤ state.remaining - 1 := by
  cases state with
  | finished => exact Nat.le_refl 0
  | reading segments current depth rest =>
      cases rest with
      | nil => exact Nat.zero_le _
      | cons token rest =>
          by_cases outside : depth = 0
          -- Only a closing parenthesis outside of others leaves tokens that are not read.
          · cases token <;> simp [step, outside, remaining]
          · cases token <;> simp [step, outside, remaining]

theorem remaining_iterate (state : Cutting) (steps : Nat) :
    (step^[steps] state).remaining ≤ state.remaining - steps := by
  induction steps with
  | zero => exact Nat.le_refl _
  | succ steps inductionHypothesis =>
      rw [Function.iterate_succ_apply']
      have further := remaining_step (step^[steps] state)
      omega

theorem exists_cut (tokens : List Token) :
    ∃ front last rest, step^[tokens.length + 1] (start tokens) = .finished (front ++ [last]) rest ∧
      Cut tokens front last rest := by
  have ended : (step^[tokens.length + 1] (start tokens)).remaining ≤ 0 := by
    simpa [start, remaining] using remaining_iterate (start tokens) (tokens.length + 1)
  have sound := sound_iterate (sound_start tokens) (tokens.length + 1)
  generalize step^[tokens.length + 1] (start tokens) = state at ended sound
  cases sound with
  | reading => simp [remaining] at ended
  | finished cut => exact ⟨_, _, _, rfl, cut⟩

end Cutting

/-- Reading the tokens behind an opening parenthesis ends, no more than one step beyond the tokens,
with the segments from which the arguments are taken. They are cut out of the tokens in order, and
there is no other way to cut them. At every step the segments are read on with the parentheses that
are counted as open, a number that is never negative. -/
theorem reading_cuts (tokens : List Token) :
    ∃ front last rest,
      Cutting.step^[tokens.length + 1] (.start tokens) = .finished (front ++ [last]) rest ∧
      Segment.all tokens = front ++ [last] ∧
      ModuleArgument.ofTokens (.leftParen :: tokens) =
        .ok ((front ++ [last]).filterMap Segment.argument?) ∧
      (∀ front' last' rest', Cut tokens front' last' rest' ↔
        front' = front ∧ last' = last ∧ rest' = rest) ∧
      ∀ steps, (Cutting.step^[steps] (.start tokens)).outcome = Segment.all tokens ∧
        0 ≤ (Cutting.step^[steps] (.start tokens)).depth := by
  obtain ⟨front, last, rest, ends, cut⟩ := Cutting.exists_cut tokens
  have arguments : ModuleArgument.ofTokens (.leftParen :: tokens) =
      .ok ((front ++ [last]).filterMap Segment.argument?) := by
    rw [ModuleArgument.ofTokens, cut.all_eq]
  refine ⟨front, last, rest, ends, cut.all_eq, arguments, fun _ _ _ => cut.cut_iff, ?_⟩
  intro steps
  have sound := Cutting.sound_iterate (Cutting.sound_start tokens) steps
  exact ⟨sound.outcome_eq, sound.depth_nonneg⟩

/-- Parentheses in a segment, one without any token, and a list that is not closed. -/
example : Segment.all [.word "a", .comma, .comma, .word "f", .leftParen, .leftParen, .rightParen,
      .comma, .word "b"] =
    [⟨[.word "a"], some .comma⟩, ⟨[], some .comma⟩,
      ⟨[.word "f", .leftParen, .leftParen, .rightParen, .comma, .word "b"], none⟩] := by
  decide

end SearchIndex.Sql
