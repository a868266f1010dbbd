/-!
Contract: the fields of a text between separators.

A text without a separator is one field, and every separator adds one, so there is always a first
field and any of them may be empty.
-/

namespace SearchIndex.Text

/-- The first field of a text and those after it. -/
def splitFields (separator : Char) : List Char → List Char × List (List Char)
  | [] => ([], [])
  | c :: rest =>
    let (first, more) := splitFields separator rest
    if c = separator then ([], first :: more) else (c :: first, more)

def fields (separator : Char) (text : String) : List String :=
  let (first, more) := splitFields separator text.toList
  (first :: more).map String.ofList

end SearchIndex.Text
