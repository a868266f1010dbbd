import SearchIndex.Text.Ascii

/-!
Contract: the tokenizers of an index and their parameters.

A tokenizer has a kind and may have parameters. The numeric parameters hold any byte, so that one
out of range can be represented and refused.
-/

namespace SearchIndex

namespace Tokenizer

/-- How a text is cut into terms. -/
inductive Kind where
  /-- Words of any script. -/
  | unicode61
  /-- Words of any script, reduced to their English stems. -/
  | porter
  /-- Every run of three characters. -/
  | trigram
  /-- Words of ASCII letters. -/
  | ascii
deriving DecidableEq, Repr

namespace Kind

def all : List Kind := [.unicode61, .porter, .trigram, .ascii]

def name : Kind → String
  | .unicode61 => "unicode61"
  | .porter => "porter"
  | .trigram => "trigram"
  | .ascii => "ascii"

/-- The kind with a name, in capital or small letters. -/
def ofName? (name : String) : Option Kind :=
  all.find? fun kind => Text.sameLetters kind.name name

end Kind

/-- The parameters of a tokenizer, all of them optional. -/
structure Parameters where
  /-- How letters with marks are folded: 0, 1 or 2. -/
  removeDiacritics : Option UInt8
  /-- The categories of characters that belong to terms. -/
  categories : Option String
  /-- Further characters that belong to terms. -/
  tokenChars : Option String
  /-- Further characters that separate terms. -/
  separators : Option String
  /-- Whether letter case counts: 0 or 1. -/
  caseSensitive : Option UInt8
deriving DecidableEq, Repr

namespace Parameters

def none : Parameters := ⟨.none, .none, .none, .none, .none⟩

def isEmpty (parameters : Parameters) : Bool :=
  parameters.removeDiacritics.isNone && parameters.categories.isNone &&
    parameters.tokenChars.isNone && parameters.separators.isNone &&
    parameters.caseSensitive.isNone

def nonEmpty? (parameters : Parameters) : Option Parameters :=
  if parameters.isEmpty then .none else some parameters

end Parameters

end Tokenizer

/-- A kind of tokenizer with its parameters. -/
structure Tokenizer where
  kind : Tokenizer.Kind
  parameters : Option Tokenizer.Parameters
deriving DecidableEq, Repr

namespace Tokenizer

/-- A tokenizer without parameters. -/
def plain (kind : Kind) : Tokenizer := ⟨kind, none⟩

/-- The tokenizer of an index that names none. -/
def standard : Tokenizer := plain .unicode61

def modify (tokenizer : Tokenizer) (change : Parameters → Parameters) : Tokenizer :=
  { tokenizer with parameters := some (change (tokenizer.parameters.getD .none)) }

def withParameters (tokenizer : Tokenizer) (parameters : Parameters) : Tokenizer :=
  { tokenizer with parameters := some parameters }

/-- The tokenizer with a folding of marked letters. -/
def withRemoveDiacritics (tokenizer : Tokenizer) (value : UInt8) : Tokenizer :=
  tokenizer.modify fun parameters => { parameters with removeDiacritics := some value }

def withCategories (tokenizer : Tokenizer) (value : String) : Tokenizer :=
  tokenizer.modify fun parameters => { parameters with categories := some value }

/-- The tokenizer with further term characters. -/
def withTokenChars (tokenizer : Tokenizer) (value : String) : Tokenizer :=
  tokenizer.modify fun parameters => { parameters with tokenChars := some value }

def withSeparators (tokenizer : Tokenizer) (value : String) : Tokenizer :=
  tokenizer.modify fun parameters => { parameters with separators := some value }

def withCaseSensitive (tokenizer : Tokenizer) (value : UInt8) : Tokenizer :=
  tokenizer.modify fun parameters => { parameters with caseSensitive := some value }

end Tokenizer

end SearchIndex
