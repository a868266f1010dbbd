import SearchIndex.Text.Blank

/-!
Contract: search texts without the sequences that structure SQL.

The denied sequences are removed, in capital or small letters and wherever they stand, until none
is left: a removal can join its two sides to a new one. Each round takes them from left to right
and does not look back into what it kept. At the end the blanks at both ends are dropped.
-/

namespace SearchIndex.Search

/-- The denied sequences, in small letters. No two of them match at the same place. -/
def denied : List (List Char) :=
  [";", "--", "/*", "*/", "union", "drop", "delete", "insert", "update", "create"].map
    String.toList

/-- The small letter that a character is compared as. The long s counts as an s. -/
def folded (c : Char) : Char :=
  if c = 'ſ' then 's' else c.toLower

def afterSequence? : (sequence text : List Char) → Option (List Char)
  | [], text => some text
  | _ :: _, [] => none
  | d :: sequence, c :: text => if folded c = d then afterSequence? sequence text else none

/-- What follows a denied sequence, if the text begins with one. -/
def afterDenied? (text : List Char) : Option (List Char) :=
  denied.findSome? fun sequence => afterSequence? sequence text

theorem length_afterSequence? {sequence text left : List Char}
    (found : afterSequence? sequence text = some left) :
    sequence.length + left.length = text.length := by
  induction sequence generalizing text with
  | nil => simp_all [afterSequence?]
  | cons d sequence inductionHypothesis =>
    cases text with
    | nil => simp [afterSequence?] at found
    | cons c text =>
      simp only [afterSequence?] at found
      split at found
      · have shorter := inductionHypothesis found
        simp only [List.length_cons]
        omega
      · simp at found

theorem length_of_mem_denied {sequence : List Char} (member : sequence ∈ denied) :
    0 < sequence.length := by
  revert member
  revert sequence
  decide

theorem length_afterDenied? {text left : List Char} (found : afterDenied? text = some left) :
    left.length < text.length := by
  obtain ⟨sequence, member, matched⟩ := List.exists_of_findSome?_eq_some found
  have positive := length_of_mem_denied member
  have total := length_afterSequence? matched
  omega

/-- One round: removes the denied sequences from left to right. -/
def removeDenied : List Char → List Char
  | [] => []
  | c :: rest =>
    match _found : afterDenied? (c :: rest) with
    | some left => removeDenied left
    | none => c :: removeDenied rest
termination_by text => text.length
decreasing_by
  · exact length_afterDenied? _found
  · simp

/-- Repeats the rounds until one removes nothing. -/
def settle (text : List Char) : List Char :=
  if (removeDenied text).length < text.length then settle (removeDenied text) else text
termination_by text.length

/-- A search text without denied sequences and without blanks at its ends. -/
def sanitize (text : String) : String :=
  String.ofList (Text.trim (settle text.toList))

end SearchIndex.Search
