import Mathlib.Data.List.Forall2
import SearchIndex.Proofs.Sql.Grammar
import SearchIndex.Proofs.Sql.Nesting
import SearchIndex.Proofs.Sql.Reading

/-!
Contract: a written list of module arguments is parsed back.

Owns: `ModuleArgument.Written`, the tokens of an argument in every spelling; `reads_grammar`, which
heads are read and which arguments behind them; and, for the spelling that statements are given, the
text and the tokens of an argument and `parse_written`, by which a statement with a head and
arguments is parsed as them.

A value may hold commas, parentheses and equals signs. They are inside of a string, which is one
token, so no segment is cut at them.
-/

namespace SearchIndex.Sql

open Token

/-! ### Arguments -/

namespace ModuleArgument

/-- The tokens of an argument. -/
inductive Written : ModuleArgument → List Token → Prop where
  | column {token : Token} {name : String} (names : token.Names name) :
      Written (.column name false) [token]
  | unindexed {token mark : Token} {name : String} (names : token.Names name)
      (marks : mark.Spells "UNINDEXED") : Written (.column name true) [token, mark]
  | option {token value : Token} {key text : String} (names : token.Names key)
      (holds : value.Names text ∨ value = .number text) :
      Written (.option key text) [token, .equals, value]

section Names

variable {token : Token} {name : String}

theorem isPlain_of_names (names : token.Names name) : token.isPlain = true := by
  cases names <;> rfl

theorem text_of_names (names : token.Names name) : token.text = name := by
  cases names <;> rfl

theorem ne_equals_of_names (names : token.Names name) : token ≠ .equals := by
  cases names <;> simp

end Names

section Written

variable {argument : ModuleArgument} {tokens : List Token}

theorem Written.isPlain (written : argument.Written tokens) :
    ∀ token ∈ tokens, token.isPlain = true := by
  cases written with
  | column names => exact List.forall_mem_singleton.mpr (isPlain_of_names names)
  | unindexed names marks =>
      obtain ⟨letters⟩ := marks
      exact List.forall_mem_cons.mpr ⟨isPlain_of_names names, List.forall_mem_singleton.mpr rfl⟩
  | @option token value key text names holds =>
      have plainValue : value.isPlain = true :=
        holds.elim isPlain_of_names fun number => number ▸ rfl
      exact List.forall_mem_cons.mpr ⟨isPlain_of_names names,
        List.forall_mem_cons.mpr ⟨rfl, List.forall_mem_singleton.mpr plainValue⟩⟩

theorem Written.argument?_eq (written : argument.Written tokens) (terminator : Option Token) :
    Segment.argument? ⟨tokens, terminator⟩ = some argument := by
  cases written with
  | column names => cases names <;> rfl
  | unindexed names marks =>
      have spelled := Token.isKeyword_iff.mpr marks
      obtain ⟨letters⟩ := marks
      simp [Segment.argument?, text_of_names names, (ne_equals_of_names names).symm, spelled]
  | @option token value key text names holds =>
      have valueText : value.text = text :=
        holds.elim text_of_names fun number => number ▸ rfl
      simp [Segment.argument?, Segment.plainText, Text.joined, text_of_names names, valueText,
        ne_equals_of_names names]

end Written

/-- Arguments between commas and parentheses, and what follows. -/
def listed (segments : List (List Token)) (rest : List Token) : List Token :=
  .leftParen :: ([.comma].intercalate segments ++ .rightParen :: rest)

/-- Arguments between commas, up to the closing parenthesis, are parsed back. -/
theorem argument?_all {arguments : List ModuleArgument} {segments : List (List Token)}
    (written : List.Forall₂ Written arguments segments) (rest : List Token) :
    (Segment.all ([.comma].intercalate segments ++ .rightParen :: rest)).filterMap
      Segment.argument? = arguments := by
  induction written with
  | nil => rfl
  | @cons argument tokens arguments segments first others further =>
      have closed := Segment.closed_of_plain first.isPlain
      cases others with
      | nil =>
          rw [List.intercalate_singleton, closed.all_rightParen, List.filterMap_cons,
            first.argument?_eq]
          rfl
      | cons =>
          -- The comma between two arguments is outside of both, so the first segment ends there.
          rw [List.intercalate_cons_cons, List.append_assoc, List.append_assoc,
            List.singleton_append, closed.all_comma, List.filterMap_cons, first.argument?_eq]
          simp only [further]

theorem ofTokens_listed {arguments : List ModuleArgument} {segments : List (List Token)}
    (written : List.Forall₂ Written arguments segments) (rest : List Token) :
    ofTokens (listed segments rest) = .ok arguments :=
  congrArg Except.ok (argument?_all written rest)

end ModuleArgument

/-! ### Any statement -/

namespace VirtualTable

theorem ofTokens_written {head : Head} {front : List Token} (headWritten : head.Written front)
    {arguments : List ModuleArgument} {segments : List (List Token)}
    (written : List.Forall₂ ModuleArgument.Written arguments segments) (rest : List Token) :
    ofTokens (front ++ ModuleArgument.listed segments rest) = ⟨.ok head, .ok arguments⟩ := by
  have reads : Cursor.Reads ⟨0, front ++ ModuleArgument.listed segments rest⟩ front
      ⟨0 + front.length, ModuleArgument.listed segments rest⟩ := ⟨rfl, rfl⟩
  have read := Cursor.head_eq_ok_iff.mpr ⟨front, headWritten, reads⟩
  simp only [ofTokens, read, ModuleArgument.ofTokens_listed written]

/-- A head is read exactly from the tokens of one, up to the name of its module. Behind it the
arguments between commas and parentheses are read in their order, whatever follows. -/
theorem reads_grammar :
    (∀ (tokens : List Token) (head : Head) (after : Cursor),
      Cursor.head ⟨0, tokens⟩ = .ok (head, after) ↔
        ∃ front, head.Written front ∧ Cursor.Reads ⟨0, tokens⟩ front after) ∧
    ∀ (arguments : List ModuleArgument) (segments : List (List Token)),
      List.Forall₂ ModuleArgument.Written arguments segments → ∀ rest : List Token,
        ModuleArgument.ofTokens (ModuleArgument.listed segments rest) = .ok arguments ∧
        ∀ (head : Head) (front : List Token), head.Written front →
          ofTokens (front ++ ModuleArgument.listed segments rest) =
            ⟨.ok head, .ok arguments⟩ := by
  refine ⟨fun tokens head after => Cursor.head_eq_ok_iff, fun arguments segments written rest => ?_⟩
  exact ⟨ModuleArgument.ofTokens_listed written rest,
    fun head front headWritten => ofTokens_written headWritten written rest⟩

/-- A head whose schema is named `IF` and whose table is named `using`. -/
def keywordHead : List Token :=
  [.word "create", .word "Virtual", .word "TABLE", .word "if", .word "NOT", .word "exists",
    .word "IF", .dot, .string "using", .word "USING", .quoted "fts5"]

/-- A column named `UNINDEXED`, one that is not indexed, and two options. -/
def keywordArguments : List ModuleArgument :=
  [.column "UNINDEXED" false, .column "a, b)" true, .option "=" "3", .option "content" ""]

def keywordSegments : List (List Token) :=
  [[.word "UNINDEXED"], [.string "a, b)", .word "unindexed"], [.quoted "=", .equals, .number "3"],
    [.word "content", .equals, .string ""]]

theorem reads_grammar_keywords :
    List.Forall₂ ModuleArgument.Written keywordArguments keywordSegments ∧
      Head.Written ⟨true, some "IF", "using", "fts5"⟩ keywordHead ∧
      ofTokens (keywordHead ++ ModuleArgument.listed keywordSegments [.comma, .rightParen]) =
        ⟨.ok ⟨true, some "IF", "using", "fts5"⟩, .ok keywordArguments⟩ := by
  have written : List.Forall₂ ModuleArgument.Written keywordArguments keywordSegments :=
    .cons (.column .word) (.cons (.unindexed .string (.word (by decide)))
      (.cons (.option .quoted (.inr rfl)) (.cons (.option .word (.inl .string)) .nil)))
  have headWritten : Head.Written ⟨true, some "IF", "using", "fts5"⟩ keywordHead :=
    .intro (.word (by decide)) (.word (by decide)) (.word (by decide))
      (.present (.word (by decide)) (.word (by decide)) (.word (by decide)))
      Bool.noConfusion (.behind .word .string) (.word (by decide)) .quoted
  exact ⟨written, headWritten, (reads_grammar.2 _ _ written _).2 _ _ headWritten⟩

end VirtualTable

/-! ### Written statements -/

namespace ModuleArgument

def text : ModuleArgument → String
  | .column name unindexed => name ++ if unindexed then " UNINDEXED" else ""
  | .option key value => key ++ "=" ++ literal value

/-- The tokens of an argument's text. -/
def tokens : ModuleArgument → List Token
  | .column name unindexed => .word name :: if unindexed then [.word "UNINDEXED"] else []
  | .option key value => [.word key, .equals, .string value]

/-- Whether an argument can be written: the name of a column and the key of an option stand without
quotes. -/
def IsWritable : ModuleArgument → Prop
  | .column name _ => isBare name = true
  | .option key _ => isBare key = true

/-- An argument is read as its tokens, whatever the value of an option holds. -/
theorem ofChars_text {argument : ModuleArgument} (writable : argument.IsWritable)
    {rest : List Char} (stops : Stops rest) :
    ofChars (argument.text.toList ++ rest) = argument.tokens ++ ofChars rest := by
  have ends : rest.head?.any isWordChar = false := stops.fails (by decide)
  have noLiteral : '\'' ∉ rest.head? := stops.not_mem (by decide)
  cases argument with
  | column name unindexed =>
      have bare : isBare name = true := writable
      unfold text tokens
      cases unindexed with
      | false => simp [ofChars_bare bare, ends]
      | true =>
          simp [ofChars_bare bare, Text.takeWhile_stop ends, Text.dropWhile_stop ends,
            ofChars_wordChar, isWordChar, Text.isAlphanumeric, Char.isDigit]
  | option key value =>
      have bare : isBare key = true := writable
      unfold text tokens
      simp [ofChars_bare bare, ofChars_literal, noLiteral, isWordChar, Text.isAlphanumeric]

theorem written_tokens (argument : ModuleArgument) : argument.Written argument.tokens := by
  cases argument with
  | column name unindexed =>
      cases unindexed with
      | false => exact .column .word
      | true => exact .unindexed .word (.word rfl)
  | option key value => exact .option .word (.inl .string)

end ModuleArgument

namespace VirtualTable

/-- The statement of a table, as far as its closing parenthesis. -/
def written (name : String) (arguments : List ModuleArgument) : String :=
  "CREATE VIRTUAL TABLE " ++ identifier name ++ " USING fts5(" ++
    Text.joined ", " (arguments.map ModuleArgument.text) ++ ")"

def headTokens (name : String) : List Token :=
  [.word "CREATE", .word "VIRTUAL", .word "TABLE", .quoted name, .word "USING", .word "fts5"]

theorem ofChars_written (name : String) {arguments : List ModuleArgument}
    (writable : ∀ argument ∈ arguments, argument.IsWritable) (rest : List Char) :
    ofChars ((written name arguments).toList ++ rest) =
      headTokens name ++ .leftParen ::
        ([.comma].intercalate (arguments.map ModuleArgument.tokens) ++
          .rightParen :: ofChars rest) := by
  have list (rest : List Char) :=
    ofChars_joined (fun _ member _ stops => ModuleArgument.ofChars_text (writable _ member) stops)
      (stops_cons.mpr rfl : Stops (')' :: rest))
  unfold written headTokens
  simp [ofChars_identifier, list, ofChars_wordChar, isWordChar, Text.isAlphanumeric, Char.isDigit]

theorem written_headTokens (name : String) :
    Head.Written ⟨false, none, name, "fts5"⟩ (headTokens name) := by
  refine .intro (.word rfl) (.word rfl) (.word rfl) .absent ?_ (.plain .quoted) (.word rfl) .word
  rintro - token ⟨rfl⟩ spelled
  contradiction

/-- A written statement is parsed as its name and its arguments, whatever follows it. -/
theorem parse_written (name : String) {arguments : List ModuleArgument}
    (writable : ∀ argument ∈ arguments, argument.IsWritable) (ending : String) :
    parse (written name arguments ++ ending) =
      ⟨.ok ⟨false, none, name, "fts5"⟩, .ok arguments⟩ := by
  have written : List.Forall₂ ModuleArgument.Written arguments
      (arguments.map ModuleArgument.tokens) :=
    List.forall₂_map_right_iff.mpr (List.forall₂_same.mpr fun argument _ =>
      argument.written_tokens)
  rw [parse, Token.scan, String.toList_append, ofChars_written name writable]
  exact ofTokens_written (written_headTokens name) written _

end VirtualTable

end SearchIndex.Sql
