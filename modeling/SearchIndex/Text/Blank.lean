/-!
Contract: white space, and the cuts that are made at it.

`isBlank` is the Unicode property White_Space. `trim` drops blanks at both ends of a text and
`words` cuts a text into its maximal runs without blanks.
-/

namespace SearchIndex.Text

/-- The 25 characters with the Unicode property White_Space. -/
def isBlank (c : Char) : Bool :=
  let n := c.toNat
  (9 ≤ n && n ≤ 13) || n == 0x20 || n == 0x85 || n == 0xA0 || n == 0x1680 ||
    (0x2000 ≤ n && n ≤ 0x200A) || n == 0x2028 || n == 0x2029 || n == 0x202F || n == 0x205F ||
    n == 0x3000

def trimEnd (text : List Char) : List Char :=
  (text.reverse.dropWhile isBlank).reverse

/-- Drops the blanks at both ends of a text. -/
def trim (text : List Char) : List Char :=
  trimEnd (text.dropWhile isBlank)

/-- The maximal runs of characters that are not blank, in order. -/
def words : List Char → List (List Char)
  | [] => []
  | c :: rest =>
    if isBlank c then words rest
    else (c :: rest.takeWhile fun d => !isBlank d) :: words (rest.dropWhile fun d => !isBlank d)
termination_by text => text.length
decreasing_by
  · simp
  · have shorter := (List.dropWhile_suffix (l := rest) fun d => !isBlank d).length_le
    simp only [List.length_cons]
    omega

/-- A text without the blanks at its ends. -/
def trimmed (text : String) : String :=
  String.ofList (trim text.toList)

end SearchIndex.Text
