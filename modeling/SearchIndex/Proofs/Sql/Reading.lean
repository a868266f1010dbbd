import SearchIndex.Proofs.Decimal.Literal
import SearchIndex.Proofs.Sql.Quotation
import SearchIndex.Proofs.Text.Reading
import SearchIndex.Proofs.Text.Trim
import SearchIndex.Sql.Token

/-!
Contract: how the tokens of a text begin.

Owns: one equation of `Token.ofChars` for each way a text can begin, with a blank, a sign, a word, a
number or a quoted text; and `Stops`, which says that a blank, a comma, a semicolon, a parenthesis
or nothing follows, so that a name, a text or a number before it is read as one token.

The names and texts that enter a statement are arbitrary. What keeps them apart from their
surroundings is that each is closed by a quote of its own, or is bare and ended by the character
that follows it.
-/

namespace SearchIndex.Sql

namespace Token

/-! ### Blanks and comments -/

@[simp]
theorem ofChars_nil : ofChars [] = [] := by
  rw [ofChars.eq_def]

theorem ofChars_cons (c : Char) (rest : List Char) :
    ofChars (c :: rest) =
      if Text.isBlank c then ofChars rest
      else match afterComment? c rest with
        | some left => ofChars left
        | none => (lexeme c rest).1 :: ofChars (lexeme c rest).2 := by
  rw [ofChars.eq_def]
  dsimp only
  congr 1
  split <;> simp [*]

theorem ofChars_blank {c : Char} (blank : Text.isBlank c = true) (rest : List Char) :
    ofChars (c :: rest) = ofChars rest := by
  rw [ofChars_cons, if_pos blank]

@[simp]
theorem ofChars_space (rest : List Char) : ofChars (' ' :: rest) = ofChars rest :=
  ofChars_blank (by decide) rest

theorem afterComment?_eq_none {c : Char} (dash : c ≠ '-') (slash : c ≠ '/') (rest : List Char) :
    afterComment? c rest = none := by
  unfold afterComment?
  split
  · contradiction
  · contradiction
  · rfl

theorem ofChars_lexeme {c : Char} {rest : List Char} (visible : Text.isBlank c = false)
    (noComment : afterComment? c rest = none) :
    ofChars (c :: rest) = (lexeme c rest).1 :: ofChars (lexeme c rest).2 := by
  rw [ofChars_cons, if_neg (by simp [visible]), noComment]

/-! ### Signs -/

/-- Characters that are read alone: they begin nothing longer and are no blanks. -/
private theorem ofChars_sign {c : Char} {token : Token} (visible : Text.isBlank c = false)
    (dash : c ≠ '-') (slash : c ≠ '/') (alone : ∀ rest, lexeme c rest = (token, rest))
    (rest : List Char) : ofChars (c :: rest) = token :: ofChars rest := by
  rw [ofChars_lexeme visible (afterComment?_eq_none dash slash rest), alone]

@[simp]
theorem ofChars_leftParen (rest : List Char) :
    ofChars ('(' :: rest) = .leftParen :: ofChars rest :=
  ofChars_sign (by decide) (by decide) (by decide) (fun _ => rfl) rest

@[simp]
theorem ofChars_rightParen (rest : List Char) :
    ofChars (')' :: rest) = .rightParen :: ofChars rest :=
  ofChars_sign (by decide) (by decide) (by decide) (fun _ => rfl) rest

@[simp]
theorem ofChars_comma (rest : List Char) : ofChars (',' :: rest) = .comma :: ofChars rest :=
  ofChars_sign (by decide) (by decide) (by decide) (fun _ => rfl) rest

@[simp]
theorem ofChars_equals (rest : List Char) : ofChars ('=' :: rest) = .equals :: ofChars rest :=
  ofChars_sign (by decide) (by decide) (by decide) (fun _ => rfl) rest

@[simp]
theorem ofChars_dot (rest : List Char) : ofChars ('.' :: rest) = .dot :: ofChars rest :=
  ofChars_sign (by decide) (by decide) (by decide) (fun _ => rfl) rest

@[simp]
theorem ofChars_semicolon (rest : List Char) :
    ofChars (';' :: rest) = .semicolon :: ofChars rest :=
  ofChars_sign (by decide) (by decide) (by decide) (fun _ => rfl) rest

@[simp]
theorem ofChars_star (rest : List Char) : ofChars ('*' :: rest) = .other '*' :: ofChars rest :=
  ofChars_sign (by decide) (by decide) (by decide) (fun _ => rfl) rest

theorem ofChars_dash {rest : List Char} (single : '-' ∉ rest.head?) :
    ofChars ('-' :: rest) = .other '-' :: ofChars rest := by
  have noComment : afterComment? '-' rest = none := by
    unfold afterComment?
    split
    · simp at single
    · contradiction
    · rfl
  rw [ofChars_lexeme (by decide) noComment]
  rfl

/-! ### Words and numbers -/

-- Only the numbers of blanks are looked up in the table of letters and digits.
private theorem whiteSpace_apart :
    ∀ n ∈ Text.whiteSpace, isWordChar (Char.ofNat n) = false := by
  decide +kernel

theorem isBlank_of_isWordChar {c : Char} (word : isWordChar c = true) :
    Text.isBlank c = false := by
  refine Bool.eq_false_iff.mpr fun blank => ?_
  have noWord := whiteSpace_apart c.toNat (Text.isBlank_iff.mp blank)
  rw [Char.ofNat_toNat, word] at noWord
  contradiction

theorem isAlpha_iff_toNat {c : Char} :
    c.isAlpha = true ↔ 65 ≤ c.toNat ∧ c.toNat ≤ 90 ∨ 97 ≤ c.toNat ∧ c.toNat ≤ 122 := by
  change (decide ('A'.val ≤ c.val ∧ c.val ≤ 'Z'.val) ||
    (decide ('a'.val ≤ c.val) && decide (c.val ≤ 'z'.val))) = true ↔ _
  rw [Bool.or_eq_true, Bool.and_eq_true, decide_eq_true_eq, decide_eq_true_eq, decide_eq_true_eq]
  rfl

theorem isDigit_iff_toNat {c : Char} : c.isDigit = true ↔ 48 ≤ c.toNat ∧ c.toNat ≤ 57 :=
  Char.isDigit_iff_toNat

theorem isWordChar_of_isAlphanum {c : Char} (plain : c.isAlphanum = true) :
    isWordChar c = true := by
  have small : c.toNat < 0x80 := by
    rcases Bool.or_eq_true_iff.mp plain with letter | digit
    · have range := isAlpha_iff_toNat.mp letter
      omega
    · have range := isDigit_iff_toNat.mp digit
      omega
  rw [isWordChar, Text.isAlphanumeric, if_pos small, plain]
  rfl

theorem isWordChar_of_isDigit {c : Char} (digit : c.isDigit = true) : isWordChar c = true :=
  isWordChar_of_isAlphanum (by rw [Char.isAlphanum, digit, Bool.or_true])

theorem isNumberChar_of_isDigit {c : Char} (digit : c.isDigit = true) :
    isNumberChar c = true := by
  rw [isNumberChar, Char.isAlphanum, digit, Bool.or_true]
  rfl

theorem isWordChar_of_isBareStart {c : Char} (start : isBareStart c = true) :
    isWordChar c = true := by
  rcases Bool.or_eq_true_iff.mp start with letter | low
  · exact isWordChar_of_isAlphanum (by rw [Char.isAlphanum, letter, Bool.true_or])
  · rw [beq_iff_eq.mp low]
    decide

theorem isWordChar_of_isBareRest {c : Char} (bare : isBareRest c = true) :
    isWordChar c = true := by
  rcases Bool.or_eq_true_iff.mp bare with plain | low
  · exact isWordChar_of_isAlphanum plain
  · rw [beq_iff_eq.mp low]
    decide

theorem isDigit_of_isAlpha {c : Char} (letter : c.isAlpha = true) : c.isDigit = false := by
  refine Bool.eq_false_iff.mpr fun digit => ?_
  have letterRange := isAlpha_iff_toNat.mp letter
  have digitRange := isDigit_iff_toNat.mp digit
  omega

/-- Only a letter has another lower form, and that is a letter too. -/
theorem toLower_eq_self_or (c : Char) :
    c.toLower = c ∨ c.isAlpha = true ∧ c.toLower.isAlpha = true := by
  unfold Char.toLower
  split
  · next upper =>
      right
      have low : 65 ≤ c.val.toNat := upper.1
      have high : c.val.toNat ≤ 90 := upper.2
      have lowered : (c.val + ('a'.val - 'A'.val)).toNat = c.val.toNat + 32 := by
        have step : ('a'.val - 'A'.val).toNat = 32 := by decide
        rw [UInt32.toNat_add, step]
        omega
      rw [isAlpha_iff_toNat, isAlpha_iff_toNat]
      refine ⟨.inl ⟨low, high⟩, .inr ?_⟩
      change 97 ≤ (c.val + ('a'.val - 'A'.val)).toNat ∧ (c.val + ('a'.val - 'A'.val)).toNat ≤ 122
      omega
  · exact .inl rfl

theorem eq_of_toLower {c lower : Char} (same : c.toLower = lower) (other : lower.isAlpha = false) :
    c = lower := by
  rcases toLower_eq_self_or c with kept | ⟨_, letter⟩
  · rw [← same, kept]
  · rw [same, other] at letter
    contradiction

theorem isAlpha_of_toLower {c : Char} (letter : c.toLower.isAlpha = true) : c.isAlpha = true := by
  rcases toLower_eq_self_or c with kept | ⟨before, _⟩
  · rwa [kept] at letter
  · exact before

theorem isWordChar_of_toLower {c : Char} (plain : c.toLower.isAlphanum = true) :
    isWordChar c = true := by
  apply isWordChar_of_isAlphanum
  rcases toLower_eq_self_or c with kept | ⟨letter, _⟩
  · rwa [kept] at plain
  · rw [Char.isAlphanum, letter, Bool.true_or]

theorem isDigit_of_isBareStart {c : Char} (start : isBareStart c = true) : c.isDigit = false := by
  rcases Bool.or_eq_true_iff.mp start with letter | low
  · exact isDigit_of_isAlpha letter
  · rw [beq_iff_eq.mp low]
    decide

theorem exists_toList_of_isBare {name : String} (bare : isBare name = true) :
    ∃ first others, name.toList = first :: others ∧ isBareStart first = true ∧
      ∀ c ∈ others, isBareRest c = true := by
  unfold isBare at bare
  split at bare
  · contradiction
  · next first others split =>
      rw [Bool.and_eq_true, List.all_eq_true] at bare
      exact ⟨first, others, split, bare⟩

/-- What begins with a word's character is neither quoted nor a sign. -/
theorem lexeme_run {c : Char} (word : isWordChar c = true) (rest : List Char) :
    lexeme c rest =
      if c.isDigit then
        (.number (String.ofList (c :: rest.takeWhile isNumberChar)), rest.dropWhile isNumberChar)
      else
        (.word (String.ofList (c :: rest.takeWhile isWordChar)), rest.dropWhile isWordChar) := by
  unfold lexeme
  split
  all_goals first
    | exact absurd word (by decide)
    | simp only [word, if_true]

theorem afterComment?_of_isWordChar {c : Char} (word : isWordChar c = true) (rest : List Char) :
    afterComment? c rest = none := by
  refine afterComment?_eq_none ?_ ?_ rest
  · rintro rfl
    exact absurd word (by decide)
  · rintro rfl
    exact absurd word (by decide)

private theorem ofChars_run {c : Char} (word : isWordChar c = true) (rest : List Char) :
    ofChars (c :: rest) =
      if c.isDigit then
        .number (String.ofList (c :: rest.takeWhile isNumberChar)) ::
          ofChars (rest.dropWhile isNumberChar)
      else
        .word (String.ofList (c :: rest.takeWhile isWordChar)) ::
          ofChars (rest.dropWhile isWordChar) := by
  rw [ofChars_lexeme (isBlank_of_isWordChar word) (afterComment?_of_isWordChar word rest),
    lexeme_run word]
  split <;> rfl

theorem ofChars_wordChar {c : Char} (word : isWordChar c = true) (letter : c.isDigit = false)
    (rest : List Char) :
    ofChars (c :: rest) =
      .word (String.ofList (c :: rest.takeWhile isWordChar)) ::
        ofChars (rest.dropWhile isWordChar) := by
  rw [ofChars_run word, if_neg (by simp [letter])]

theorem ofChars_digit {c : Char} (digit : c.isDigit = true) (rest : List Char) :
    ofChars (c :: rest) =
      .number (String.ofList (c :: rest.takeWhile isNumberChar)) ::
        ofChars (rest.dropWhile isNumberChar) := by
  rw [ofChars_run (isWordChar_of_isDigit digit), if_pos digit]

/-! ### Names, texts and numbers of a statement -/

/-- Whether a character ends every name, text and number before it. -/
def isStop (c : Char) : Bool :=
  c == ' ' || c == ',' || c == ';' || c == '(' || c == ')'

/-- Whether a text ends every name, text and number before it. -/
def Stops (rest : List Char) : Prop := ∀ c ∈ rest.head?, isStop c = true

@[simp]
theorem stops_nil : Stops [] := by
  simp [Stops]

@[simp]
theorem stops_cons {c : Char} {rest : List Char} : Stops (c :: rest) ↔ isStop c = true := by
  simp [Stops]

section Pieces

variable {rest : List Char}

theorem Stops.fails (stops : Stops rest) {p : Char → Bool}
    (apart : [' ', ',', ';', '(', ')'].any p = false) : rest.head?.any p = false := by
  cases rest with
  | nil => rfl
  | cons c rest =>
      have stop := stops_cons.mp stops
      simp only [isStop, Bool.or_eq_true, beq_iff_eq] at stop
      have listed : c ∈ [' ', ',', ';', '(', ')'] := by simpa [or_assoc] using stop
      rw [List.head?_cons, Option.any_some]
      exact Bool.eq_false_iff.mpr (List.any_eq_false.mp apart c listed)

theorem Stops.not_mem (stops : Stops rest) {c : Char} (apart : isStop c = false) :
    c ∉ rest.head? := by
  intro member
  have stop := stops c member
  rw [apart] at stop
  contradiction

theorem ofChars_singleQuote (rest : List Char) :
    ofChars ('\'' :: rest) =
      .string (String.ofList (readQuoted '\'' rest).1) :: ofChars (readQuoted '\'' rest).2 := by
  rw [ofChars_lexeme (by decide) (afterComment?_eq_none (by decide) (by decide) rest)]
  rfl

theorem ofChars_doubleQuote (rest : List Char) :
    ofChars ('"' :: rest) =
      .quoted (String.ofList (readQuoted '"' rest).1) :: ofChars (readQuoted '"' rest).2 := by
  rw [ofChars_lexeme (by decide) (afterComment?_eq_none (by decide) (by decide) rest)]
  rfl

/-- A name between double quotes is one token, whatever it holds. -/
theorem ofChars_identifier (name : String) (closes : '"' ∉ rest.head?) :
    ofChars ((identifier name).toList ++ rest) = .quoted name :: ofChars rest := by
  rw [identifier, toList_quoted_append, ofChars_doubleQuote,
    readQuoted_doubled '"' name.toList closes, String.ofList_toList]

/-- A text between single quotes is one token, whatever it holds. -/
theorem ofChars_literal (text : String) (closes : '\'' ∉ rest.head?) :
    ofChars ((literal text).toList ++ rest) = .string text :: ofChars rest := by
  rw [literal, toList_quoted_append, ofChars_singleQuote,
    readQuoted_doubled '\'' text.toList closes, String.ofList_toList]

theorem ofChars_number {text : List Char} (starts : text.head?.any Char.isDigit = true)
    (inside : ∀ c ∈ text, isNumberChar c = true) (ends : rest.head?.any isNumberChar = false) :
    ofChars (text ++ rest) = .number (String.ofList text) :: ofChars rest := by
  cases text with
  | nil => contradiction
  | cons first others =>
      have digit : first.isDigit = true := starts
      have further : ∀ c ∈ others, isNumberChar c = true :=
        fun c member => inside c (List.mem_cons_of_mem first member)
      rw [List.cons_append, ofChars_digit digit, Text.takeWhile_append_stop further ends,
        Text.dropWhile_append_stop further ends]

theorem ofChars_natural (n : Nat) (ends : rest.head?.any isNumberChar = false) :
    ofChars ((Decimal.natural n).toList ++ rest) =
      .number (Decimal.natural n) :: ofChars rest := by
  obtain ⟨first, others, split, digit, _⟩ := Decimal.exists_toList_natural n
  have starts : (Decimal.natural n).toList.head?.any Char.isDigit = true := by
    rw [split, List.head?_cons, Option.any_some, digit]
  have inside : ∀ c ∈ (Decimal.natural n).toList, isNumberChar c = true :=
    fun _ member => isNumberChar_of_isDigit (Decimal.isDigit_of_mem_natural member)
  rw [ofChars_number starts inside ends, String.ofList_toList]

theorem ofChars_bare {name : String} (bare : isBare name = true)
    (ends : rest.head?.any isWordChar = false) :
    ofChars (name.toList ++ rest) = .word name :: ofChars rest := by
  obtain ⟨first, others, split, start, inside⟩ := exists_toList_of_isBare bare
  have words : ∀ c ∈ others, isWordChar c = true :=
    fun c member => isWordChar_of_isBareRest (inside c member)
  rw [split, List.cons_append, ofChars_wordChar (isWordChar_of_isBareStart start)
    (isDigit_of_isBareStart start), Text.takeWhile_append_stop words ends,
    Text.dropWhile_append_stop words ends, ← split, String.ofList_toList]

/-- The token of a column's name, which is quoted only where it must be. -/
def column (name : String) : Token :=
  if isBare name then .word name else .quoted name

theorem name?_column (name : String) : (column name).name? = some name := by
  unfold column
  split <;> rfl

/-- A column's name is one token, whatever it holds. -/
theorem ofChars_column (name : String) (ends : rest.head?.any isWordChar = false)
    (closes : '"' ∉ rest.head?) :
    ofChars ((Sql.column name).toList ++ rest) = column name :: ofChars rest := by
  unfold Sql.column column
  split
  · next bare => exact ofChars_bare bare ends
  · exact ofChars_identifier name closes

/-! ### Real numbers -/

/-- The tokens of a literal without its sign. A sign of the exponent stands between two numbers. -/
def magnitudeTokens (magnitude : Decimal.Magnitude) : List Token :=
  match magnitude.exponent with
  | none => [.number (String.ofList magnitude.mantissa)]
  | some ⟨false, digits⟩ =>
    [.number (String.ofList (magnitude.mantissa ++ 'e' :: digits.characters))]
  | some ⟨true, digits⟩ =>
    [.number (String.ofList (magnitude.mantissa ++ ['e'])), .other '-',
      .number (String.ofList digits.characters)]

def realTokens (literal : Decimal.Literal) : List Token :=
  (if literal.negative then [.other '-'] else []) ++ magnitudeTokens literal.magnitude

theorem starts_digits (digits : Decimal.Digits) (rest : List Char) :
    (digits.characters ++ rest).head?.any Char.isDigit = true := by
  obtain ⟨first, others, split⟩ := List.exists_cons_of_ne_nil digits.nonempty
  have digit : first.isDigit = true := digits.digits first (by simp [split])
  rw [split, List.cons_append, List.head?_cons, Option.any_some, digit]

theorem starts_mantissa (magnitude : Decimal.Magnitude) (rest : List Char) :
    (magnitude.mantissa ++ rest).head?.any Char.isDigit = true := by
  rw [Decimal.Magnitude.mantissa, List.append_assoc]
  exact starts_digits magnitude.whole _

/-- A dash in front of a digit begins no comment. -/
theorem ofChars_dash_digit (starts : rest.head?.any Char.isDigit = true) :
    ofChars ('-' :: rest) = .other '-' :: ofChars rest := by
  refine ofChars_dash fun dash => ?_
  rw [dash] at starts
  contradiction

theorem isNumberChar_of_mem_digits (digits : Decimal.Digits) :
    ∀ c ∈ digits.characters, isNumberChar c = true :=
  fun c member => isNumberChar_of_isDigit (digits.digits c member)

theorem isNumberChar_of_mem_mantissa (magnitude : Decimal.Magnitude) :
    ∀ c ∈ magnitude.mantissa, isNumberChar c = true := by
  intro c member
  rcases List.mem_append.mp member with whole | fraction
  · exact isNumberChar_of_mem_digits magnitude.whole c whole
  · split at fraction
    · next digits _ =>
        rcases List.mem_cons.mp fraction with rfl | digit
        · decide
        · exact isNumberChar_of_mem_digits digits c digit
    · contradiction

theorem ofChars_digits (digits : Decimal.Digits) (ends : rest.head?.any isNumberChar = false) :
    ofChars (digits.characters ++ rest) =
      .number (String.ofList digits.characters) :: ofChars rest := by
  have starts := starts_digits digits []
  rw [List.append_nil] at starts
  exact ofChars_number starts (isNumberChar_of_mem_digits digits) ends

theorem ofChars_magnitude (magnitude : Decimal.Magnitude)
    (ends : rest.head?.any isNumberChar = false) :
    ofChars (magnitude.characters ++ rest) = magnitudeTokens magnitude ++ ofChars rest := by
  have mantissa := isNumberChar_of_mem_mantissa magnitude
  have mark : isNumberChar 'e' = true := by decide
  unfold Decimal.Magnitude.characters magnitudeTokens
  cases magnitude.exponent with
  | none =>
      have starts := starts_mantissa magnitude []
      rw [List.append_nil] at starts ⊢
      exact ofChars_number starts mantissa ends
  | some exponent =>
      obtain ⟨negative, digits⟩ := exponent
      cases negative with
      | false =>
          have inside : ∀ c ∈ magnitude.mantissa ++ 'e' :: digits.characters,
              isNumberChar c = true :=
            List.forall_mem_append.mpr ⟨mantissa,
              List.forall_mem_cons.mpr ⟨mark, isNumberChar_of_mem_digits digits⟩⟩
          exact ofChars_number (starts_mantissa magnitude _) inside ends
      | true =>
          have inside : ∀ c ∈ magnitude.mantissa ++ ['e'], isNumberChar c = true :=
            List.forall_mem_append.mpr ⟨mantissa, List.forall_mem_singleton.mpr mark⟩
          have dash : (magnitude.mantissa ++
              'e' :: (Decimal.signText true ++ digits.characters)) ++ rest =
                (magnitude.mantissa ++ ['e']) ++ '-' :: (digits.characters ++ rest) := by
            simp [Decimal.signText]
          rw [dash, ofChars_number (starts_mantissa magnitude _) inside rfl,
            ofChars_dash_digit (starts_digits digits rest), ofChars_digits digits ends]
          rfl

theorem ofChars_real (literal : Decimal.Literal) (ends : rest.head?.any isNumberChar = false) :
    ofChars (literal.text.toList ++ rest) = realTokens literal ++ ofChars rest := by
  obtain ⟨negative, magnitude⟩ := literal
  have unsigned := ofChars_magnitude magnitude ends
  rw [Decimal.Literal.text, String.toList_ofList, List.append_assoc]
  cases negative with
  | false => exact unsigned
  | true =>
      have starts : (magnitude.characters ++ rest).head?.any Char.isDigit = true := by
        rw [Decimal.Magnitude.characters, List.append_assoc]
        exact starts_mantissa magnitude _
      rw [Decimal.signText, if_pos rfl, List.singleton_append, ofChars_dash_digit starts, unsigned]
      rfl

/-! ### Lists -/

/-- Parts between commas are read one after another, with commas between them. -/
theorem ofChars_joined {α : Type} {text : α → String} {tokens : α → List Token} {parts : List α}
    (read : ∀ part ∈ parts, ∀ rest, Stops rest →
      ofChars ((text part).toList ++ rest) = tokens part ++ ofChars rest)
    (stops : Stops rest) :
    ofChars ((Text.joined ", " (parts.map text)).toList ++ rest) =
      [.comma].intercalate (parts.map tokens) ++ ofChars rest := by
  refine Text.read_joined Stops ", " ?_ ?_ read stops
  · intro rest
    simp
  · intro rest
    simp [isStop]

end Pieces

end Token

end SearchIndex.Sql
