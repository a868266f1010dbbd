import SearchIndex.Text.Ascii

/-!
Contract: the expressions by which rows of an index are found.

An expression is made of phrases and of groups of phrases near each other, which may stand behind a
filter on the columns. Those that follow one another must all be found. Operators in capital letters
and parentheses combine expressions. A filter governs the one phrase, group or pair of parentheses
behind it.
-/

namespace SearchIndex.Search

/-- What is looked for, and in which columns. -/
inductive MatchExpression where
  /-- Words that follow one another. -/
  | phrase (words : List String)
  /-- Phrases that stand near one another. -/
  | near (phrases : List (List String))
  /-- What is looked for in the given columns only. -/
  | within (columns : List String) (body : MatchExpression)
  /-- What is looked for in all but the given columns. -/
  | outside (columns : List String) (body : MatchExpression)
  | both (left right : MatchExpression)
  | either (left right : MatchExpression)
  | without (left right : MatchExpression)
deriving Repr

namespace MatchExpression

/-! ### Columns -/

/-- Whether a column is among those named, in capital or small letters. -/
def isListed (column : String) (columns : List String) : Bool :=
  columns.any (Text.sameLetters column)

/-- The words that are looked for in a column. -/
def wordsIn (column : String) : MatchExpression → List String
  | .phrase words => words
  | .near phrases => phrases.flatten
  | .within columns body => if isListed column columns then body.wordsIn column else []
  | .outside columns body => if isListed column columns then [] else body.wordsIn column
  | .both left right => left.wordsIn column ++ right.wordsIn column
  | .either left right => left.wordsIn column ++ right.wordsIn column
  | .without left right => left.wordsIn column ++ right.wordsIn column

/-- No word is looked for in any other than the given columns. -/
def RestrictedTo (columns : List String) (expression : MatchExpression) : Prop :=
  ∀ column, isListed column columns = false → expression.wordsIn column = []

/-! ### Tokens -/

inductive Token where
  /-- A bare word that is no operator. -/
  | word (text : String)
  /-- A text between double quotes. -/
  | quoted (text : String)
  | and
  | or
  | not
  | leftBrace
  | rightBrace
  | leftParen
  | rightParen
  | colon
  | comma
  | plus
  | star
  | minus
  | caret
deriving DecidableEq, Repr

namespace Token

def sign? : Char → Option Token
  | '\x7b' => some .leftBrace
  | '\x7d' => some .rightBrace
  | '(' => some .leftParen
  | ')' => some .rightParen
  | ':' => some .colon
  | ',' => some .comma
  | '+' => some .plus
  | '*' => some .star
  | '-' => some .minus
  | '^' => some .caret
  | _ => none

/-- Whether a character stands between tokens and leaves none. -/
def isSpace (c : Char) : Bool := c == ' ' || c == '\t' || c == '\n' || c == '\r'

/-- Whether a character may stand in a bare word. -/
def isWordChar (c : Char) : Bool := c.isAlphanum || c == '_' || c == '\x1a' || 0x80 ≤ c.toNat

def operators : List String := ["AND", "OR", "NOT"]

/-- An operator, or the word itself. -/
def ofWord (text : String) : Token :=
  if text = "AND" then .and
  else if text = "OR" then .or
  else if text = "NOT" then .not
  else .word text

/-- Reads a text between double quotes after the first of them: the text, and what follows the
last one. -/
def readQuoted? : List Char → Option (List Char × List Char)
  | [] => none
  | '"' :: '"' :: rest => (readQuoted? rest).map fun read => ('"' :: read.1, read.2)
  | '"' :: rest => some ([], rest)
  | c :: rest => (readQuoted? rest).map fun read => (c :: read.1, read.2)

/-- Reading a quoted text leaves no more than it was given. -/
theorem length_readQuoted? {text : List Char} {read : List Char × List Char}
    (found : readQuoted? text = some read) : read.2.length ≤ text.length := by
  fun_induction readQuoted? text generalizing read with
  | case1 => contradiction
  | case2 rest inductionHypothesis =>
    obtain ⟨inner, first, rfl⟩ := Option.map_eq_some_iff.mp found
    have shorter := inductionHypothesis first
    simp only [List.length_cons]
    omega
  | case3 rest =>
    simp only [Option.some.injEq] at found
    simp [← found]
  | case4 c rest _ _ inductionHypothesis =>
    obtain ⟨inner, first, rfl⟩ := Option.map_eq_some_iff.mp found
    have shorter := inductionHypothesis first
    simp only [List.length_cons]
    omega

/-- The tokens of a text, unless a character begins none or a quote is not closed. -/
def ofChars? : List Char → Option (List Token)
  | [] => some []
  | c :: rest =>
    if isSpace c then ofChars? rest
    else match sign? c with
      | some token => (ofChars? rest).map (token :: ·)
      | none =>
        if c = '"' then
          match _found : readQuoted? rest with
          | some read => (ofChars? read.2).map (.quoted (String.ofList read.1) :: ·)
          | none => none
        else if isWordChar c then
          (ofChars? (rest.dropWhile isWordChar)).map
            (ofWord (String.ofList (c :: rest.takeWhile isWordChar)) :: ·)
        else none
termination_by text => text.length
decreasing_by
  · simp
  · simp
  · have shorter := length_readQuoted? _found
    simp only [List.length_cons]
    omega
  · have shorter := (List.dropWhile_suffix (l := rest) isWordChar).length_le
    simp only [List.length_cons]
    omega

def scan? (text : String) : Option (List Token) := ofChars? text.toList

end Token

/-! ### Grammar -/

/-- A word, bare or between quotes. -/
inductive Term (text : String) : Token → Prop where
  | word : Term text (.word text)
  | quoted : Term text (.quoted text)

inductive Phrase : List String → List Token → Prop where
  | single {text : String} {token : Token} (term : Term text token) : Phrase [text] [token]
  /-- The last word may go on. -/
  | begun {text : String} {token : Token} (term : Term text token) : Phrase [text] [token, .star]
  | joined {words others : List String} {tokens further : List Token}
      (first : Phrase words tokens) (more : Phrase others further) :
      Phrase (words ++ others) (tokens ++ .plus :: further)

inductive Phrases : List (List String) → List Token → Prop where
  | one {words : List String} {tokens : List Token} (phrase : Phrase words tokens) :
      Phrases [words] tokens
  | more {words : List String} {phrases : List (List String)} {tokens further : List Token}
      (phrase : Phrase words tokens) (others : Phrases phrases further) :
      Phrases (words :: phrases) (tokens ++ further)

/-- How near the phrases of a group stand, if that is said. -/
inductive Distance : List Token → Prop where
  | usual : Distance []
  | given {digits : String} (digit : digits.toList.all Char.isDigit = true) :
      Distance [.comma, .word digits]

/-- A phrase or a group. -/
inductive Group : MatchExpression → List Token → Prop where
  | phrase {words : List String} {tokens : List Token} (phrase : Phrase words tokens) :
      Group (.phrase words) tokens
  /-- A phrase at the beginning of a column. -/
  | initial {words : List String} {tokens : List Token} (phrase : Phrase words tokens) :
      Group (.phrase words) (.caret :: tokens)
  | near {phrases : List (List String)} {tokens distance : List Token}
      (members : Phrases phrases tokens) (apart : Distance distance) :
      Group (.near phrases)
        (.word "NEAR" :: .leftParen :: (tokens ++ (distance ++ [.rightParen])))

inductive Terms : List String → List Token → Prop where
  | one {text : String} {token : Token} (term : Term text token) : Terms [text] [token]
  | more {text : String} {texts : List String} {token : Token} {tokens : List Token}
      (term : Term text token) (others : Terms texts tokens) :
      Terms (text :: texts) (token :: tokens)

/-- The names of columns: a single one, or some between braces. -/
inductive Columns : List String → List Token → Prop where
  | single {name : String} {token : Token} (term : Term name token) : Columns [name] [token]
  | braced {names : List String} {tokens : List Token} (terms : Terms names tokens) :
      Columns names (.leftBrace :: (tokens ++ [.rightBrace]))

/-- What stands before a group or parentheses, and how it changes their meaning. -/
inductive Filter : (MatchExpression → MatchExpression) → List Token → Prop where
  | within {names : List String} {tokens : List Token} (columns : Columns names tokens) :
      Filter (.within names) (tokens ++ [.colon])
  | outside {names : List String} {tokens : List Token} (columns : Columns names tokens) :
      Filter (.outside names) (.minus :: (tokens ++ [.colon]))

/-- A group, or a filter and the group that it governs. -/
inductive Item : MatchExpression → List Token → Prop where
  | everywhere {body : MatchExpression} {tokens : List Token} (group : Group body tokens) :
      Item body tokens
  | filtered {body : MatchExpression} {change : MatchExpression → MatchExpression}
      {front tokens : List Token} (filter : Filter change front) (group : Group body tokens) :
      Item (change body) (front ++ tokens)

/-- Items that follow one another, which must all be found. -/
inductive Items : MatchExpression → List Token → Prop where
  | one {item : MatchExpression} {tokens : List Token} (first : Item item tokens) :
      Items item tokens
  | more {item others : MatchExpression} {tokens further : List Token} (first : Item item tokens)
      (rest : Items others further) : Items (.both item others) (tokens ++ further)

/-- The tokens of an expression. -/
inductive Derives : MatchExpression → List Token → Prop where
  | items {expression : MatchExpression} {tokens : List Token} (items : Items expression tokens) :
      Derives expression tokens
  | grouped {body : MatchExpression} {tokens : List Token} (inside : Derives body tokens) :
      Derives body (.leftParen :: (tokens ++ [.rightParen]))
  | filtered {body : MatchExpression} {change : MatchExpression → MatchExpression}
      {front tokens : List Token} (filter : Filter change front) (inside : Derives body tokens) :
      Derives (change body) (front ++ .leftParen :: (tokens ++ [.rightParen]))
  | both {left right : MatchExpression} {tokens further : List Token}
      (first : Derives left tokens) (second : Derives right further) :
      Derives (.both left right) (tokens ++ .and :: further)
  | either {left right : MatchExpression} {tokens further : List Token}
      (first : Derives left tokens) (second : Derives right further) :
      Derives (.either left right) (tokens ++ .or :: further)
  | without {left right : MatchExpression} {tokens further : List Token}
      (first : Derives left tokens) (second : Derives right further) :
      Derives (.without left right) (tokens ++ .not :: further)

/-- A text is read as an expression. -/
def Reads (text : String) (expression : MatchExpression) : Prop :=
  ∃ tokens, Token.scan? text = some tokens ∧ Derives expression tokens

end MatchExpression

end SearchIndex.Search
