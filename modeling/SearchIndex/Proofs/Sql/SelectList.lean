import SearchIndex.Proofs.Sql.ArgumentList

/-!
Contract: the names of the columns that a statement selects.

Owns: `Token.selectList`, the tokens between `SELECT` and `FROM`; `resultNames?`, the names that a
table's columns and the aliases of expressions give to the columns of the result; and
`Segment.closed_call`, by which the calls that a statement is written with stay in one segment.

A comma between the parentheses of a call does not end an item of the list.
-/

namespace SearchIndex.Sql

/-! ### Segments with calls -/

namespace Segment

open Token (nesting Uncut)

/-- Whether a token is an argument of a call, or stands between two of them. -/
def isOperand : Token → Bool
  | .word _ => false
  | .leftParen => false
  | .rightParen => false
  | _ => true

section Operands

variable {operands : List Token} (inside : ∀ token ∈ operands, isOperand token = true)
include inside

theorem nesting_operands : nesting operands = 0 := by
  refine Token.nesting_of_absent (fun member => ?_) (fun member => ?_)
  · exact Bool.noConfusion (inside _ member)
  · exact Bool.noConfusion (inside _ member)

/-- A list is not cut at arguments behind a parenthesis that is open. -/
theorem uncut_append_operands {front : List Token} (uncut : Uncut front)
    (opened : 0 < nesting front) : Uncut (front ++ operands) := by
  induction operands using List.reverseRecOn with
  | nil => rwa [List.append_nil]
  | append_singleton operands token inductionHypothesis =>
      have others := (List.forall_mem_append.mp inside).1
      rw [← List.append_assoc, Token.uncut_concat_iff]
      refine ⟨inductionHypothesis others, fun _ => ?_⟩
      rwa [Token.nesting_append, nesting_operands others, Int.add_zero]

end Operands

/-- A call with its arguments. -/
def call (name : String) (operands : List Token) : List Token :=
  .word name :: .leftParen :: (operands ++ [.rightParen])

theorem closed_call (name : String) {operands : List Token}
    (inside : ∀ token ∈ operands, isOperand token = true) : Closed (call name operands) := by
  have opening : Uncut ([.word name] ++ [.leftParen]) :=
    Token.uncut_concat_iff.mpr ⟨Token.uncut_of_plain (by simp [Token.isPlain]), by simp⟩
  have opened : nesting ([.word name] ++ [.leftParen]) = 1 := rfl
  have middle := uncut_append_operands inside opening (by rw [opened]; decide)
  have depth : nesting ([.word name] ++ [.leftParen] ++ operands) = 1 := by
    rw [Token.nesting_append, opened, nesting_operands inside, Int.add_zero]
  have parts : call name operands = [.word name] ++ [.leftParen] ++ operands ++ [.rightParen] := by
    simp [call]
  rw [parts]
  refine closed_of_uncut (Token.uncut_concat_iff.mpr ⟨middle, fun _ => ?_⟩) ?_
  · rw [depth]
    decide
  · rw [Token.nesting_append, depth]
    rfl

/-- A call with a name for its result. -/
def named (name : String) (operands : List Token) (label : String) : List Token :=
  call name operands ++ [.word "AS", .word label]

theorem closed_named (name label : String) {operands : List Token}
    (inside : ∀ token ∈ operands, isOperand token = true) : Closed (named name operands label) :=
  (closed_call name inside).append (closed_of_plain (by simp [Token.isPlain]))

end Segment

/-! ### Result columns -/

namespace Token

/-- The tokens between `SELECT` and `FROM`. -/
def selectList : List Token → List Token
  | [] => []
  | first :: rest =>
    if first.isKeyword "SELECT" then rest.takeWhile fun token => !token.isKeyword "FROM" else []

/-- The names of the result columns that an item of a select list gives: the columns of the table
for a star, and the alias of an expression. Without an alias the name is not fixed. -/
def itemNames? (columns : List String) (item : List Token) : Option (List String) :=
  if item = [.other '*'] then some columns
  else match item.reverse with
    | label :: keyword :: _ => if keyword.isKeyword "AS" then label.name?.map ([·]) else none
    | _ => none

/-- The names of the result columns of a statement, where all of them are fixed. -/
def resultNames? (columns : List String) (tokens : List Token) : Option (List String) :=
  ((Segment.all (selectList tokens)).mapM fun item => itemNames? columns item.tokens).map
    List.flatten

theorem selectList_append {tokens : List Token}
    (inside : ∀ token ∈ tokens, token.isKeyword "FROM" = false) (rest : List Token) :
    selectList (.word "SELECT" :: (tokens ++ .word "FROM" :: rest)) = tokens := by
  have select : (Token.word "SELECT").isKeyword "SELECT" = true := by decide
  have stop : (Token.word "FROM" :: rest).head?.any (fun token => !token.isKeyword "FROM") =
      false := by
    rw [List.head?_cons, Option.any_some]
    decide
  have others : ∀ token ∈ tokens, (!token.isKeyword "FROM") = true :=
    fun token member => by rw [inside token member]; rfl
  rw [selectList, if_pos select, Text.takeWhile_append_stop others stop]

theorem itemNames?_star (columns : List String) : itemNames? columns [.other '*'] = some columns :=
  if_pos rfl

theorem isKeyword_of_isOperand {token : Token} (operand : Segment.isOperand token = true)
    (keyword : String) : token.isKeyword keyword = false := by
  cases token <;> first | rfl | contradiction

theorem not_from_of_mem_named {name label : String} {operands : List Token}
    (inside : ∀ token ∈ operands, Segment.isOperand token = true)
    (apart : ∀ word ∈ [name, label], (Token.word word).isKeyword "FROM" = false) :
    ∀ token ∈ Segment.named name operands label, token.isKeyword "FROM" = false := by
  simp only [List.forall_mem_cons] at apart
  intro token member
  simp only [Segment.named, Segment.call, List.mem_cons, List.mem_append, List.not_mem_nil,
    or_false] at member
  rcases member with (rfl | rfl | operand | rfl) | rfl | rfl
  · exact apart.1
  · rfl
  · exact isKeyword_of_isOperand (inside token operand) "FROM"
  · rfl
  · decide
  · exact apart.2.1

theorem itemNames?_named (columns : List String) (name label : String) (operands : List Token) :
    itemNames? columns (Segment.named name operands label) = some [label] := by
  have keyword : (Token.word "AS").isKeyword "AS" = true := by decide
  have long : Segment.named name operands label ≠ [.other '*'] := by
    simp [Segment.named, Segment.call]
  rw [itemNames?, if_neg long, Segment.named, List.reverse_append]
  simp [keyword, name?]

end Token

end SearchIndex.Sql
