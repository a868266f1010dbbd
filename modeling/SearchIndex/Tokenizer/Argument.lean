import SearchIndex.Decimal.Integer
import SearchIndex.Sql.Quoted
import SearchIndex.Text.Blank
import SearchIndex.Tokenizer

/-!
Contract: a tokenizer as one line of arguments.

The line begins with the kind and goes on with names of parameters and their values. An argument
may stand bare or be quoted, where a doubled quote stands for one. `Tokenizer.encode` writes only
what the kind makes use of. `Tokenizer.decode` takes every line: without a known kind in front the
standard one is meant, and unknown names, values that are no number and a last name without a
value are passed over.
-/

namespace SearchIndex.Tokenizer

/-- Reads the argument that begins with `c`, which is no blank. -/
def readArgument (c : Char) (rest : List Char) : List Char × List Char :=
  match c with
  | '\'' | '"' | '\x60' => Sql.readQuoted c rest
  | '[' => Sql.readBracketed rest
  | c => (c :: rest.takeWhile fun d => !Text.isBlank d, rest.dropWhile fun d => !Text.isBlank d)

/-- Reading an argument leaves no more than what follows its first character. -/
theorem length_readArgument (c : Char) (rest : List Char) :
    (readArgument c rest).2.length ≤ rest.length := by
  unfold readArgument
  split
  · exact Sql.length_readQuoted _ _
  · exact Sql.length_readQuoted _ _
  · exact Sql.length_readQuoted _ _
  · exact Sql.length_readBracketed _
  · exact (List.dropWhile_suffix _).length_le

/-- The arguments of a line, without their quotes. -/
def argumentsOf : List Char → List String
  | [] => []
  | c :: rest =>
    if Text.isBlank c then argumentsOf rest
    else String.ofList (readArgument c rest).1 :: argumentsOf (readArgument c rest).2
termination_by line => line.length
decreasing_by
  · simp
  · have shorter := length_readArgument c rest
    simp only [List.length_cons]
    omega

def splitArguments (line : String) : List String := argumentsOf line.toList

def quoteArgument (text : String) : String := Sql.literal text

def Parameters.arguments (kind : Kind) (parameters : Parameters) : List String :=
  let number (name : String) (value : Option UInt8) : List String :=
    value.toList.map fun n => name ++ " " ++ Decimal.natural n.toNat
  let quoted (name : String) (value : Option String) : List String :=
    value.toList.map fun text => name ++ " " ++ quoteArgument text
  match kind with
  | .trigram => number "case_sensitive" parameters.caseSensitive
  | _ =>
    number "remove_diacritics" parameters.removeDiacritics ++
      quoted "categories" parameters.categories ++
      quoted "tokenchars" parameters.tokenChars ++
      quoted "separators" parameters.separators

/-- A tokenizer as a line of arguments. -/
def encode (tokenizer : Tokenizer) : String :=
  let arguments := match tokenizer.parameters with
    | some parameters => parameters.arguments tokenizer.kind
    | none => []
  Text.joined " " (tokenizer.kind.name :: arguments)

/-- Arguments taken two at a time; a last one without a partner is left out. -/
def pairs : List String → List (String × String)
  | name :: value :: rest => (name, value) :: pairs rest
  | _ => []

/-- Sets the parameter that an argument names, in capital or small letters. A number that cannot
be read unsets its parameter. -/
def Parameters.set (parameters : Parameters) (argument : String × String) : Parameters :=
  match Text.lowered argument.1 with
  | "remove_diacritics" => { parameters with removeDiacritics := Decimal.byte? argument.2 }
  | "case_sensitive" => { parameters with caseSensitive := Decimal.byte? argument.2 }
  | "categories" => { parameters with categories := some argument.2 }
  | "tokenchars" => { parameters with tokenChars := some argument.2 }
  | "separators" => { parameters with separators := some argument.2 }
  | _ => parameters

def takeKind (arguments : List String) : Kind × List String :=
  match arguments with
  | [] => (.unicode61, [])
  | first :: rest =>
    match Kind.ofName? first with
    | some kind => (kind, rest)
    | none => (.unicode61, arguments)

/-- Drops the name of the kind whose words are stemmed. -/
def dropBase (kind : Kind) (arguments : List String) : List String :=
  match kind, arguments with
  | .porter, base :: rest =>
    match Kind.ofName? base with
    | some .unicode61 => rest
    | some .ascii => rest
    | _ => arguments
  | _, arguments => arguments

def ofArguments (arguments : List String) : Tokenizer :=
  let (kind, rest) := takeKind arguments
  ⟨kind, ((pairs (dropBase kind rest)).foldl Parameters.set .none).nonEmpty?⟩

def decode (line : String) : Tokenizer := ofArguments (splitArguments line)

end SearchIndex.Tokenizer
