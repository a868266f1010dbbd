import SearchIndex.Sql.Quoted
import SearchIndex.Text.Alphanumeric
import SearchIndex.Text.Ascii
import SearchIndex.Text.Blank

/-!
Contract: the tokens of SQL text.

Blanks and comments stand between tokens and leave none. Quoted tokens hold their text without the
quotes. Every text has tokens: a quote or comment that is not closed runs to the end, and a
character that fits nowhere else is a token of its own.
-/

namespace SearchIndex.Sql

/-- A token of SQL text. -/
inductive Token where
  /-- A keyword or a bare name. -/
  | word (text : String)
  /-- A name between double quotes, grave accents or square brackets. -/
  | quoted (name : String)
  /-- A text between single quotes. -/
  | string (text : String)
  /-- A number as it is written. -/
  | number (digits : String)
  | leftParen
  | rightParen
  | comma
  | equals
  | dot
  | semicolon
  /-- Any other character. -/
  | other (c : Char)
deriving DecidableEq, Repr

namespace Token

/-- Whether a token is a bare word, in capital or small letters. -/
def isKeyword (keyword : String) : Token → Bool
  | .word text => Text.sameLetters text keyword
  | _ => false

def name? : Token → Option String
  | .word text => some text
  | .quoted name => some name
  | .string text => some text
  | _ => none

def text : Token → String
  | .word text => text
  | .quoted name => name
  | .string text => text
  | .number digits => digits
  | .leftParen => "("
  | .rightParen => ")"
  | .comma => ","
  | .equals => "="
  | .dot => "."
  | .semicolon => ";"
  | .other c => String.ofList [c]

/-- Whether a character may stand in a bare word. -/
def isWordChar (c : Char) : Bool :=
  Text.isAlphanumeric c || c == '_' || c == '$'

/-- Whether a character may go on with a number. -/
def isNumberChar (c : Char) : Bool := c.isAlphanum || c == '.'

def afterBlockComment : List Char → List Char
  | [] => []
  | '*' :: '/' :: rest => rest
  | _ :: rest => afterBlockComment rest

/-- What follows a comment that begins with `c`, if one does. -/
def afterComment? (c : Char) (rest : List Char) : Option (List Char) :=
  match c, rest with
  | '-', '-' :: rest => some ((rest.dropWhile (· != '\n')).drop 1)
  | '/', '*' :: rest => some (afterBlockComment rest)
  | _, _ => none

/-- Reads the token that begins with `c`, which is no blank and begins no comment. -/
def lexeme (c : Char) (rest : List Char) : Token × List Char :=
  match c with
  | '\'' =>
    let (text, left) := readQuoted c rest
    (.string (String.ofList text), left)
  | '"' | '\x60' =>
    let (name, left) := readQuoted c rest
    (.quoted (String.ofList name), left)
  | '[' =>
    let (name, left) := readBracketed rest
    (.quoted (String.ofList name), left)
  | '(' => (.leftParen, rest)
  | ')' => (.rightParen, rest)
  | ',' => (.comma, rest)
  | '=' => (.equals, rest)
  | '.' => (.dot, rest)
  | ';' => (.semicolon, rest)
  | c =>
    if c.isDigit then
      (.number (String.ofList (c :: rest.takeWhile isNumberChar)), rest.dropWhile isNumberChar)
    else if isWordChar c then
      (.word (String.ofList (c :: rest.takeWhile isWordChar)), rest.dropWhile isWordChar)
    else (.other c, rest)

/-- Skipping a block comment leaves no more than it was given. -/
theorem length_afterBlockComment (text : List Char) :
    (afterBlockComment text).length ≤ text.length := by
  fun_induction afterBlockComment text <;> simp_all <;> omega

/-- Skipping a comment leaves no more than it was given. -/
theorem length_afterComment? {c : Char} {rest left : List Char}
    (comment : afterComment? c rest = some left) : left.length ≤ rest.length := by
  unfold afterComment? at comment
  split at comment
  · rename_i tail
    have shorter := (List.dropWhile_suffix (l := tail) (· != '\n')).length_le
    simp only [Option.some.injEq] at comment
    simp only [← comment, List.length_drop, List.length_cons]
    omega
  · rename_i tail
    have shorter := length_afterBlockComment tail
    simp only [Option.some.injEq] at comment
    simp only [← comment, List.length_cons]
    omega
  · exact absurd comment (by simp)

/-- Reading a token leaves no more than what follows its first character. -/
theorem length_lexeme (c : Char) (rest : List Char) :
    (lexeme c rest).2.length ≤ rest.length := by
  unfold lexeme
  split
  · exact length_readQuoted _ _
  · exact length_readQuoted _ _
  · exact length_readQuoted _ _
  · exact length_readBracketed _
  all_goals first
    | exact Nat.le_refl _
    | split
      · exact (List.dropWhile_suffix isNumberChar).length_le
      · split
        · exact (List.dropWhile_suffix isWordChar).length_le
        · exact Nat.le_refl _

/-- The tokens of a text, in order. -/
def ofChars : List Char → List Token
  | [] => []
  | c :: rest =>
    if Text.isBlank c then ofChars rest
    else match _comment : afterComment? c rest with
      | some left => ofChars left
      | none => (lexeme c rest).1 :: ofChars (lexeme c rest).2
termination_by text => text.length
decreasing_by
  · simp
  · have shorter := length_afterComment? _comment
    simp only [List.length_cons]
    omega
  · have shorter := length_lexeme c rest
    simp only [List.length_cons]
    omega

/-- The tokens of a text, in order. -/
def scan (sql : String) : List Token := ofChars sql.toList

end Token

end SearchIndex.Sql
