import Mathlib.Data.List.Induction
import SearchIndex.Sql.VirtualTable

/-!
Contract: where an argument list is cut, told by the parentheses that are open.

Owns: `Token.nesting`, how many parentheses are open behind some tokens; `Token.Uncut`, the tokens
that can stand in one segment; `Segment.split_append`, by which the reader of segments goes over
such tokens and then counts just the parentheses that they leave open; and `Segment.Closed`, tokens
that leave none open, with the segments that end behind them.
-/

namespace SearchIndex.Sql

/-! ### Open parentheses -/

namespace Token

variable {tokens : List Token} {token : Token}

/-- Whether a token neither cuts an argument list nor opens or closes parentheses. -/
def isPlain : Token → Bool
  | .comma => false
  | .leftParen => false
  | .rightParen => false
  | _ => true

/-- How many parentheses some tokens open beyond those that they close. -/
def nesting (tokens : List Token) : Int :=
  (tokens.count .leftParen : Int) - tokens.count .rightParen

theorem nesting_append (tokens others : List Token) :
    nesting (tokens ++ others) = nesting tokens + nesting others := by
  simp only [nesting, List.count_append]
  omega

theorem nesting_of_absent (noLeft : .leftParen ∉ tokens) (noRight : .rightParen ∉ tokens) :
    nesting tokens = 0 := by
  rw [nesting, List.count_eq_zero.mpr noLeft, List.count_eq_zero.mpr noRight]
  rfl

theorem nesting_singleton (noLeft : token ≠ .leftParen) (noRight : token ≠ .rightParen) :
    nesting [token] = 0 :=
  nesting_of_absent (by simpa using noLeft.symm) (by simpa using noRight.symm)

/-- Every comma stands between parentheses, and every closing parenthesis behind its opening one. -/
def Uncut (tokens : List Token) : Prop :=
  ∀ before token, before ++ [token] <+: tokens →
    token = .comma ∨ token = .rightParen → 0 < nesting before

theorem uncut_nil : Uncut [] := by
  intro before token inside
  simp at inside

theorem uncut_concat_iff :
    Uncut (tokens ++ [token]) ↔
      Uncut tokens ∧ (token = .comma ∨ token = .rightParen → 0 < nesting tokens) := by
  constructor
  · intro uncut
    refine ⟨fun before other inside => ?_, uncut tokens token (List.prefix_refl _)⟩
    exact uncut before other (inside.trans (List.prefix_append _ _))
  · rintro ⟨uncut, last⟩ before other inside
    rcases List.prefix_concat_iff.mp inside with same | inside
    · obtain ⟨rfl, rfl⟩ := List.append_singleton_inj.mp same
      exact last
    · exact uncut before other inside

/-- No more parentheses are closed than were opened. -/
theorem Uncut.nesting_nonneg (uncut : Uncut tokens) : 0 ≤ nesting tokens := by
  induction tokens using List.reverseRecOn with
  | nil => exact Int.le_refl 0
  | append_singleton tokens token inductionHypothesis =>
      obtain ⟨uncut, last⟩ := uncut_concat_iff.mp uncut
      have before := inductionHypothesis uncut
      rw [nesting_append]
      cases token with
      | leftParen => exact Int.add_nonneg before (by decide)
      | rightParen =>
          have opened := last (.inr rfl)
          have closing : nesting [.rightParen] = -1 := rfl
          omega
      | _ => rwa [nesting_singleton (by simp) (by simp), Int.add_zero]

section Plain

variable (plain : ∀ token ∈ tokens, token.isPlain = true)
include plain

theorem uncut_of_plain : Uncut tokens := by
  intro before token inside ends
  have member : token ∈ tokens := inside.subset (by simp)
  have other := plain token member
  rcases ends with rfl | rfl <;> contradiction

theorem nesting_of_plain : nesting tokens = 0 := by
  refine nesting_of_absent (fun member => ?_) (fun member => ?_)
  · exact Bool.noConfusion (plain _ member)
  · exact Bool.noConfusion (plain _ member)

end Plain

end Token

/-! ### Segments -/

namespace Segment

open Token (nesting Uncut)

section Split

variable {tokens : List Token} {token : Token}

/-- A token that does not end a segment is added to it, and its parenthesis is counted. -/
theorem split_cons {depth : Int} (nonneg : 0 ≤ depth)
    (inside : token = .comma ∨ token = .rightParen → 0 < depth) (rest : List Token) :
    split depth.toNat (token :: rest) =
      extend token (split (depth + nesting [token]).toNat rest) := by
  obtain ⟨count, rfl⟩ := Int.eq_ofNat_of_zero_le nonneg
  cases token with
  | leftParen => rfl
  | rightParen =>
      have opened := inside (.inr rfl)
      obtain ⟨outer, rfl⟩ := Nat.exists_eq_succ_of_ne_zero (n := count) (by omega)
      have closing : ((outer + 1 : Nat) : Int) + nesting [.rightParen] = outer := by
        have change : nesting [.rightParen] = -1 := rfl
        omega
      rw [closing]
      rfl
  | comma =>
      have opened := inside (.inl rfl)
      obtain ⟨outer, rfl⟩ := Nat.exists_eq_succ_of_ne_zero (n := count) (by omega)
      rfl
  | _ => cases count <;> rfl

/-- Tokens of one segment go to its front, and what follows them is read with the parentheses open
that they leave open. -/
theorem split_append (uncut : Uncut tokens) (rest : List Token) :
    split 0 (tokens ++ rest) = tokens.foldr extend (split (nesting tokens).toNat rest) := by
  induction tokens using List.reverseRecOn generalizing rest with
  | nil => rfl
  | append_singleton tokens token inductionHypothesis =>
      obtain ⟨uncut, last⟩ := Token.uncut_concat_iff.mp uncut
      rw [List.append_assoc, List.singleton_append, inductionHypothesis uncut,
        split_cons uncut.nesting_nonneg last, Token.nesting_append, List.foldr_append]
      rfl

theorem foldr_extend (tokens : List Token) (segment : Segment) (more : List Segment) :
    tokens.foldr extend (segment, more) =
      (⟨tokens ++ segment.tokens, segment.terminator⟩, more) := by
  induction tokens with
  | nil => rfl
  | cons token tokens inductionHypothesis =>
      rw [List.foldr_cons, inductionHypothesis]
      rfl

/-- A list that goes on to its end in one segment is that segment. -/
theorem all_of_split {depth : Nat}
    (reads : split 0 tokens = tokens.foldr extend (split depth [])) :
    all tokens = [⟨tokens, none⟩] := by
  rw [all, reads, split, foldr_extend, List.append_nil]

theorem all_of_uncut (uncut : Uncut tokens) : all tokens = [⟨tokens, none⟩] := by
  have reads := split_append uncut []
  rw [List.append_nil] at reads
  exact all_of_split reads

end Split

/-- Tokens at which an argument list is not cut: the parentheses among them are closed again. -/
def Closed (tokens : List Token) : Prop :=
  ∀ rest, split 0 (tokens ++ rest) = tokens.foldr extend (split 0 rest)

section Closed

variable {tokens others : List Token}

theorem closed_of_uncut (uncut : Uncut tokens) (balanced : nesting tokens = 0) : Closed tokens := by
  intro rest
  rw [split_append uncut, balanced]
  rfl

theorem closed_of_plain (plain : ∀ token ∈ tokens, token.isPlain = true) : Closed tokens :=
  closed_of_uncut (Token.uncut_of_plain plain) (Token.nesting_of_plain plain)

theorem Closed.append (closed : Closed tokens) (othersClosed : Closed others) :
    Closed (tokens ++ others) := by
  intro rest
  rw [List.append_assoc, closed, othersClosed, List.foldr_append]

variable (closed : Closed tokens)
include closed

theorem Closed.all_comma (rest : List Token) :
    all (tokens ++ .comma :: rest) = ⟨tokens, some .comma⟩ :: all rest := by
  have comma : split 0 (.comma :: rest) = (⟨[], some .comma⟩, all rest) := rfl
  rw [all, closed, comma, foldr_extend, List.append_nil]

theorem Closed.all_rightParen (rest : List Token) :
    all (tokens ++ .rightParen :: rest) = [⟨tokens, some .rightParen⟩] := by
  have closing : split 0 (.rightParen :: rest) = (⟨[], some .rightParen⟩, []) := rfl
  rw [all, closed, closing, foldr_extend, List.append_nil]

theorem Closed.all_eq : all tokens = [⟨tokens, none⟩] := by
  have reads := closed []
  rw [List.append_nil] at reads
  exact all_of_split reads

end Closed

end Segment

end SearchIndex.Sql
