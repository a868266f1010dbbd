/-!
Contract: comparisons that ignore the case of ASCII letters, and search for a run of characters.

Only the letters `A` to `Z` have a lower form here: `Char.toLower` leaves every other character
as it is.
-/

namespace SearchIndex.Text

/-- A text with its ASCII capitals made small. -/
def lowered (text : String) : String :=
  String.ofList (text.toList.map Char.toLower)

/-- Equality of two texts up to the case of ASCII letters. -/
def sameLetters (left right : String) : Bool :=
  left.toList.map Char.toLower == right.toList.map Char.toLower

/-- Whether a run of characters occurs somewhere in a text. -/
def occurs (run : List Char) : List Char → Bool
  | [] => run.isEmpty
  | c :: rest => run.isPrefixOf (c :: rest) || occurs run rest

/-- The texts in order, with a separator between neighbours. -/
def joined (separator : String) : List String → String
  | [] => ""
  | [text] => text
  | text :: next :: rest => text ++ separator ++ joined separator (next :: rest)

end SearchIndex.Text
