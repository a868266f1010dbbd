/-!
Contract: names and texts as they stand in SQL.

A quote inside a quoted text is written twice, so the first quote that is not followed by another
one closes the text. Every name and text that enters a statement goes through the writers of this
module. A column may stand bare if it begins with an ASCII letter or an underscore and goes on with
these and digits.
-/

namespace SearchIndex.Sql

/-- A text with every occurrence of the quote written twice. -/
def doubled (quote : Char) (text : List Char) : List Char :=
  text.flatMap fun c => if c = quote then [c, c] else [c]

/-- Reads a quoted text after its opening quote: the text, and what follows its closing quote. A
text without a closing quote runs to the end. -/
def readQuoted (quote : Char) : List Char → List Char × List Char
  | [] => ([], [])
  | c :: rest =>
    if c = quote then
      match rest with
      | d :: after =>
        if d = quote then
          let (text, left) := readQuoted quote after
          (c :: text, left)
        else ([], d :: after)
      | [] => ([], [])
    else
      let (text, left) := readQuoted quote rest
      (c :: text, left)

/-- Reading a quoted text leaves no more than it was given. -/
theorem length_readQuoted (quote : Char) (text : List Char) :
    (readQuoted quote text).2.length ≤ text.length := by
  fun_induction readQuoted quote text <;> simp_all <;> omega

def readBracketed (text : List Char) : List Char × List Char :=
  (text.takeWhile (· != ']'), (text.dropWhile (· != ']')).drop 1)

/-- Reading a bracketed text leaves no more than it was given. -/
theorem length_readBracketed (text : List Char) :
    (readBracketed text).2.length ≤ text.length := by
  have shorter := (List.dropWhile_suffix (l := text) (· != ']')).length_le
  simp only [readBracketed, List.length_drop]
  omega

def quoted (quote : Char) (text : String) : String :=
  String.ofList (quote :: doubled quote text.toList ++ [quote])

/-- A text as it may stand between single quotes. -/
def escaped (text : String) : String :=
  String.ofList (doubled '\'' text.toList)

def literal (text : String) : String := quoted '\'' text

def identifier (name : String) : String := quoted '"' name

/-- Whether a character may begin a bare name. -/
def isBareStart (c : Char) : Bool := c.isAlpha || c == '_'

/-- Whether a character may go on with a bare name. -/
def isBareRest (c : Char) : Bool := c.isAlphanum || c == '_'

/-- Whether a name may stand without quotes. -/
def isBare (name : String) : Bool :=
  match name.toList with
  | [] => false
  | c :: rest => isBareStart c && rest.all isBareRest

def column (name : String) : String :=
  if isBare name then name else identifier name

end SearchIndex.Sql
