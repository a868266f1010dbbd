import Mathlib.Data.List.DropRight
import SearchIndex.Json.Reader
import SearchIndex.Json.Writer
import SearchIndex.Proofs.Decimal.Digits
import SearchIndex.Proofs.Text.Reading

/-!
Contract: documents are read back from their text.

Owns: `Reads`, by which a document is read in front of any rest from the lines it is written on;
that strings, truth values, natural numbers, and objects and lists of documents with this property
have it; and `parse_pretty`, a document that has it is read back.

The reader takes fuel with every value, member and character. What a text needs of it is bounded by
twice its length, and the members of an object and the items of a list are read by induction with
that bound. Only a number can be gone on by what follows it.
-/

namespace SearchIndex.Json

open Reader Writer

/-! ### Strings -/

theorem length_le_escaped (text : List Char) : text.length ≤ (text.flatMap escapeChar).length := by
  induction text with
  | nil => exact Nat.le_refl 0
  | cons c text inductionHypothesis =>
      have nonempty : 0 < (escapeChar c).length := by
        unfold escapeChar
        split <;> try exact Nat.succ_pos _
        split <;> exact Nat.succ_pos _
      rw [List.flatMap_cons, List.length_append, List.length_cons]
      omega

/-- The number of a control character is read back from its two digits. -/
theorem number?_control :
    ∀ n < 0x20, Text.Hex.number? ['0', '0', Nat.digitChar (n / 16), Nat.digitChar (n % 16)] =
      some n := by
  decide

theorem escape_control {c : Char} (control : c.toNat < 0x20) (rest : List Char) :
    escape ('u' :: '0' :: '0' :: Nat.digitChar (c.toNat / 16) :: Nat.digitChar (c.toNat % 16) ::
      rest) = .ok (c, rest) := by
  have digits := number?_control c.toNat control
  simp only [escape, numericEscape, fourDigits, digits, bind, Except.bind]
  rw [if_neg (by omega), if_neg (by omega), Char.ofNat_toNat]

/-- A character is read back in front of any rest that is read. -/
theorem stringBody_escapeChar (c : Char) {fuel : Nat} {rest after : List Char} {body : List Char}
    (read : stringBody fuel rest = .ok (body, after)) :
    stringBody (fuel + 1) (escapeChar c ++ rest) = .ok (c :: body, after) := by
  unfold escapeChar
  split
  iterate 7
    simp only [List.cons_append, List.nil_append, stringBody, escape, read, bind, Except.bind]
  next quote backslash backspace feed line ret tab =>
    split
    · next control =>
        simp only [List.cons_append, List.nil_append, stringBody, escape_control control, read,
          bind, Except.bind]
    · next printed =>
        rw [List.singleton_append, stringBody]
        · rw [if_neg printed, read]
          rfl
        · exact quote
        · exact backslash

theorem stringBody_escaped (text : List Char) {fuel : Nat} (enough : text.length < fuel)
    (rest : List Char) :
    stringBody fuel (text.flatMap escapeChar ++ '"' :: rest) = .ok (text, rest) := by
  induction text generalizing fuel with
  | nil =>
      cases fuel with
      | zero => contradiction
      | succ fuel => rfl
  | cons c text inductionHypothesis =>
      cases fuel with
      | zero => contradiction
      | succ fuel =>
          rw [List.flatMap_cons, List.append_assoc]
          exact stringBody_escapeChar c (inductionHypothesis (Nat.lt_of_succ_lt_succ enough))

theorem string_escaped {text : String} {fuel : Nat}
    (enough : (text.toList.flatMap escapeChar).length < fuel) (rest : List Char) :
    Reader.string fuel (text.toList.flatMap escapeChar ++ '"' :: rest) = .ok (text, rest) := by
  have long := length_le_escaped text.toList
  rw [Reader.string, stringBody_escaped text.toList (by omega)]
  simp only [bind, Except.bind, String.ofList_toList]

/-! ### Values -/

/-- Whether a character goes on a number that stands before it. -/
def continuesNumber (c : Char) : Bool := c.isDigit || c == '.' || c == 'e' || c == 'E'

/-- A document is read back from the lines it is written on, in front of any rest that does not go
on a number. -/
def Reads (level depth : Nat) (document : Json) : Prop :=
  ∀ (fuel : Nat) (rest : List Char), rest.head?.any continuesNumber = false →
    2 * (prettyText level document).toList.length ≤ fuel →
    value fuel depth ((prettyText level document).toList ++ rest) = .ok (document, rest)

theorem reads_boolean (level depth : Nat) (truth : Bool) : Reads level depth (.boolean truth) := by
  intro fuel rest _ enough
  have written : (prettyText level (.boolean truth)).toList =
      if truth then ['t', 'r', 'u', 'e'] else ['f', 'a', 'l', 's', 'e'] := by
    cases truth <;> simp [prettyText, compactText]
  rw [written] at enough ⊢
  cases truth <;> cases fuel <;> simp_all [value, skipSpace, word, Except.map]

theorem reads_string (level depth : Nat) (text : String) : Reads level depth (.string text) := by
  intro fuel rest _ enough
  have written : (prettyText level (.string text)).toList =
      '"' :: (text.toList.flatMap escapeChar ++ ['"']) := by
    rw [prettyText, compactText, quoted, String.toList_ofList, List.cons_append]
    all_goals simp
  rw [written] at enough ⊢
  simp only [List.length_cons, List.length_append, List.length_nil] at enough
  cases fuel with
  | zero => omega
  | succ fuel =>
      rw [List.cons_append, List.append_assoc, List.singleton_append, value]
      change (Reader.string fuel (text.toList.flatMap escapeChar ++ '"' :: rest)).map
        (fun step => (Json.string step.1, step.2)) = _
      rw [string_escaped (by omega)]
      rfl

/-! ### Numbers -/

theorem wholeNumber_digits {n : Nat} (small : n < UInt64.size) (rest : List Char) :
    wholeNumber false (Decimal.natural n).toList rest = .ok (.natural n, rest) := by
  rw [wholeNumber, Decimal.toList_natural, Nat.ofDigitChars_ten_toDigits]
  exact if_pos small

theorem number_digits {n : Nat} (small : n < UInt64.size) {rest : List Char}
    (ends : rest.head?.any continuesNumber = false) :
    number false ((Decimal.natural n).toList ++ rest) = .ok (.natural n, rest) := by
  obtain ⟨first, others, split, digit, -⟩ := Decimal.exists_toList_natural n
  have inside : ∀ c ∈ (Decimal.natural n).toList, c.isDigit = true :=
    fun _ => Decimal.isDigit_of_mem_natural
  have stop : rest.head?.any Char.isDigit = false := by
    cases rest with
    | nil => rfl
    | cons c rest =>
        simp only [List.head?_cons, Option.any_some, continuesNumber, Bool.or_eq_false_iff] at ends
        exact ends.1.1.1
  have whole := Text.takeWhile_append_stop inside stop
  have left := Text.dropWhile_append_stop inside stop
  have noZero : ¬ (first = '0' ∧ 1 < (Decimal.natural n).toList.length) := by
    rintro ⟨rfl, long⟩
    rcases Nat.eq_zero_or_pos n with rfl | positive
    · rw [Decimal.toList_natural, Nat.toDigits_zero] at long
      exact Nat.lt_irrefl 1 long
    · exact Decimal.head?_natural_ne_zero positive (by rw [split]; rfl)
  rw [split, List.cons_append] at whole left ⊢
  rw [number, whole, left, ← split]
  simp only [digit, Bool.not_true, Bool.false_eq_true, if_false, if_neg noZero]
  split
  case h_4 => exact wholeNumber_digits small rest
  all_goals contradiction

/-- A digit begins a number. -/
theorem value_digit {c : Char} (digit : c.isDigit = true) (fuel depth : Nat) (rest : List Char) :
    value (fuel + 1) depth (c :: rest) = number false (c :: rest) := by
  have visible : skipSpace (c :: rest) = c :: rest := by
    refine List.dropWhile_cons_of_neg fun space => ?_
    simp only [Bool.or_eq_true, beq_iff_eq] at space
    obtain ((rfl | rfl) | rfl) | rfl := space <;> contradiction
  rw [value, visible]
  split
  case h_9 same =>
    cases same
    exact if_pos digit
  all_goals
    next same => cases same <;> contradiction

theorem reads_natural (level depth : Nat) {n : Nat} (small : n < UInt64.size) :
    Reads level depth (.natural n) := by
  intro fuel rest ends enough
  have written : (prettyText level (.natural n)).toList = (Decimal.natural n).toList := by
    simp [natural, prettyText, compactText, Decimal.integer]
  obtain ⟨first, others, split, digit, -⟩ := Decimal.exists_toList_natural n
  rw [written] at enough ⊢
  cases fuel with
  | zero => simp [split] at enough
  | succ fuel =>
      rw [split, List.cons_append, value_digit digit, ← List.cons_append, ← split]
      exact number_digits small ends

theorem reads_byte (level depth : Nat) (n : UInt8) : Reads level depth (.natural n.toNat) :=
  reads_natural level depth (Nat.lt_trans n.toNat_lt_size (by decide))

theorem reads_word (level depth : Nat) (n : UInt32) : Reads level depth (.natural n.toNat) :=
  reads_natural level depth (Nat.lt_trans n.toNat_lt_size (by decide))

/-! ### Objects -/

theorem skipSpace_lineAt (level : Nat) (rest : List Char) :
    skipSpace ((lineAt level).toList ++ rest) = skipSpace rest := by
  have blanks (count : Nat) : skipSpace (List.replicate count ' ' ++ rest) = skipSpace rest := by
    induction count with
    | zero => rfl
    | succ count inductionHypothesis => exact inductionHypothesis
  rw [lineAt, String.toList_ofList]
  exact blanks _

/-- A line end does not go on a number. -/
theorem head?_lineAt (level : Nat) (rest : List Char) :
    ((lineAt level).toList ++ rest).head?.any continuesNumber = false := by
  rw [lineAt, String.toList_ofList]
  rfl

/-- A blank before a value is passed over. -/
theorem value_space (fuel depth : Nat) {text : List Char} {document : Json} {rest : List Char}
    (read : value fuel depth text = .ok (document, rest)) :
    value fuel depth (' ' :: text) = .ok (document, rest) := by
  cases fuel with
  | zero =>
      rw [value] at read
      contradiction
  | succ fuel =>
      have same : skipSpace (' ' :: text) = skipSpace text := rfl
      rw [value, same, ← value]
      exact read

/-- A member, after the opening quote of its name. -/
def memberText (level : Nat) (entry : String × Json) : List Char :=
  entry.1.toList.flatMap escapeChar ++ '"' :: ':' :: ' ' :: (prettyText level entry.2).toList

/-- The members after the first one. -/
def tailText (level : Nat) (entries : List (String × Json)) : List Char :=
  entries.flatMap fun entry => ',' :: (lineAt level).toList ++ '"' :: memberText level entry

theorem prettyMembers_cons (level : Nat) (entry : String × Json) (entries : List (String × Json)) :
    (prettyMembers level (entry :: entries)).toList =
      (lineAt level).toList ++ '"' :: memberText level entry ++ tailText level entries := by
  induction entries generalizing entry with
  | nil =>
      rw [prettyMembers]
      simp [quoted, memberText, tailText]
  | cons next entries inductionHypothesis =>
      rw [prettyMembers]
      · simp only [String.toList_append, inductionHypothesis]
        simp [quoted, memberText, tailText]
      · simp

theorem members_end (fuel depth outer : Nat) (rest : List Char) :
    members (fuel + 1) depth false ((lineAt outer).toList ++ '\x7d' :: rest) = .ok ([], rest) := by
  have close : skipSpace ('\x7d' :: rest) = '\x7d' :: rest := rfl
  rw [members, skipSpace_lineAt, close]
  rfl

section Members

variable {fuel depth level : Nat} {text rest : List Char} {entries : List (String × Json)}

theorem members_first (read : member fuel depth text = .ok (entries, rest)) :
    members (fuel + 1) depth true ((lineAt level).toList ++ '"' :: text) = .ok (entries, rest) := by
  have quote : skipSpace ('"' :: text) = '"' :: text := rfl
  rw [members, skipSpace_lineAt, quote]
  exact read

theorem members_next (read : member fuel depth text = .ok (entries, rest)) :
    members (fuel + 1) depth false (',' :: (lineAt level).toList ++ '"' :: text) =
      .ok (entries, rest) := by
  have comma (after : List Char) : skipSpace (',' :: after) = ',' :: after := rfl
  have quote : skipSpace ('"' :: text) = '"' :: text := rfl
  rw [List.cons_append, members, comma]
  simp [skipSpace_lineAt, quote, read]

/-- A member is read when its value and the members after it are. -/
theorem member_append {entry : String × Json} {after : List Char}
    (enough : (entry.1.toList.flatMap escapeChar).length < fuel)
    (readValue : value fuel depth ((prettyText level entry.2).toList ++ after) =
      .ok (entry.2, after))
    (readMore : members fuel depth false after = .ok (entries, rest)) :
    member (fuel + 1) depth (memberText level entry ++ after) = .ok (entry :: entries, rest) := by
  have colon (after : List Char) : skipSpace (':' :: after) = ':' :: after := rfl
  rw [memberText, List.append_assoc, member]
  simp only [List.cons_append, string_escaped enough, bind, Except.bind, colon,
    value_space fuel depth readValue, readMore]

end Members

/-- The members of an object are read up to its end, from the name of the first one on. -/
theorem member_memberText {level depth : Nat} {entry : String × Json}
    {entries : List (String × Json)}
    (reads : ∀ other ∈ entry :: entries, Reads level depth other.2) {fuel : Nat}
    (enough : 2 * (memberText level entry ++ tailText level entries).length ≤ fuel)
    (outer : Nat) (rest : List Char) :
    member fuel depth (memberText level entry ++ (tailText level entries ++
        ((lineAt outer).toList ++ '\x7d' :: rest))) = .ok (entry :: entries, rest) := by
  have lengths (entry : String × Json) : (memberText level entry).length =
      (entry.1.toList.flatMap escapeChar).length + 3 +
        (prettyText level entry.2).toList.length := by
    simp only [memberText, List.length_append, List.length_cons]
    omega
  have readValue := reads entry List.mem_cons_self
  have long := lengths entry
  induction entries generalizing entry fuel with
  | nil =>
      simp only [tailText, List.flatMap_nil, List.append_nil, List.nil_append] at enough ⊢
      obtain ⟨fuel, rfl⟩ : ∃ less, fuel = less + 2 := ⟨fuel - 2, by omega⟩
      exact member_append (by omega) (readValue (fuel + 1) _ (head?_lineAt outer _) (by omega))
        (members_end fuel depth outer rest)
  | cons next entries inductionHypothesis =>
      have split : tailText level (next :: entries) =
          ',' :: (lineAt level).toList ++
            '"' :: (memberText level next ++ tailText level entries) := by
        simp [tailText]
      simp only [split, List.length_append, List.length_cons] at enough
      obtain ⟨fuel, rfl⟩ : ∃ less, fuel = less + 2 := ⟨fuel - 2, by omega⟩
      have others : member fuel depth (memberText level next ++ (tailText level entries ++
          ((lineAt outer).toList ++ '\x7d' :: rest))) = .ok (next :: entries, rest) :=
        inductionHypothesis (fun other member => reads other (List.mem_cons_of_mem _ member))
          (by simp only [List.length_append]; omega)
          (reads next (List.mem_cons_of_mem _ List.mem_cons_self)) (lengths next)
      simp only [split, List.append_assoc, List.cons_append]
      exact member_append (by omega) (readValue (fuel + 1) _ (by rfl) (by omega))
        (members_next others)

theorem value_members {fuel depth : Nat} {text rest : List Char} {entries : List (String × Json)}
    (read : members fuel depth true text = .ok (entries, rest)) :
    value (fuel + 1) (depth + 1) ('\x7b' :: text) = .ok (.object entries, rest) := by
  have brace : skipSpace ('\x7b' :: text) = '\x7b' :: text := rfl
  rw [value, brace]
  simp [read, bind, Except.bind]

theorem reads_object {level depth : Nat} {entries : List (String × Json)}
    (reads : ∀ entry ∈ entries, Reads (level + 1) depth entry.2) :
    Reads level (depth + 1) (.object entries) := by
  intro fuel rest _ enough
  cases entries with
  | nil =>
      have written : (prettyText level (.object [])).toList = ['\x7b', '\x7d'] := by
        simp [prettyText]
      rw [written] at enough ⊢
      simp only [List.length_cons, List.length_nil] at enough
      obtain ⟨fuel, rfl⟩ : ∃ less, fuel = less + 2 := ⟨fuel - 2, by omega⟩
      have close : skipSpace ('\x7d' :: rest) = '\x7d' :: rest := rfl
      have nothing : members (fuel + 1) depth true ('\x7d' :: rest) = .ok ([], rest) := by
        rw [members, close]
        rfl
      exact value_members nothing
  | cons entry entries =>
      have written : (prettyText level (.object (entry :: entries))).toList =
          '\x7b' :: ((lineAt (level + 1)).toList ++ '"' :: (memberText (level + 1) entry ++
            (tailText (level + 1) entries ++ ((lineAt level).toList ++ ['\x7d'])))) := by
        rw [prettyText]
        · simp only [String.toList_append, prettyMembers_cons]
          simp
        · simp
      rw [written] at enough ⊢
      simp only [List.length_append, List.length_cons, List.length_nil] at enough
      obtain ⟨fuel, rfl⟩ : ∃ less, fuel = less + 2 := ⟨fuel - 2, by omega⟩
      have others : member fuel depth (memberText (level + 1) entry ++
          (tailText (level + 1) entries ++ ((lineAt level).toList ++ '\x7d' :: rest))) =
            .ok (entry :: entries, rest) :=
        member_memberText reads (by simp only [List.length_append]; omega) level rest
      simp only [List.append_assoc, List.cons_append, List.nil_append]
      exact value_members (members_first others)

theorem forall_mem_some {document : Json} {property : Json → Prop} :
    (∀ other ∈ some document, property other) ↔ property document := by
  simp

/-- An object of the members that are present. -/
theorem reads_ofFields {level depth : Nat} {fields : List (String × Option Json)}
    (reads : ∀ field ∈ fields, ∀ document ∈ field.2, Reads (level + 1) depth document) :
    Reads level (depth + 1) (.ofFields fields) := by
  refine reads_object fun entry member => ?_
  obtain ⟨field, fieldMember, written⟩ := List.mem_filterMap.mp member
  obtain ⟨document, present, rfl⟩ := Option.map_eq_some_iff.mp written
  exact reads field fieldMember document present

/-! ### Lists -/

/-- A value begins, after blanks, with a character that does not end a list. -/
theorem exists_skipSpace {fuel depth : Nat} {text : List Char} {step : Json × List Char}
    (read : value fuel depth text = .ok step) :
    ∃ c rest, skipSpace text = c :: rest ∧ c ≠ ']' ∧ value fuel depth (c :: rest) = .ok step := by
  have again : skipSpace (skipSpace text) = skipSpace text := List.dropWhile_idempotent _ _
  cases fuel with
  | zero =>
      rw [value] at read
      contradiction
  | succ fuel =>
      cases visible : skipSpace text with
      | nil =>
          rw [value, visible] at read
          contradiction
      | cons c rest =>
          rw [visible] at again
          refine ⟨c, rest, rfl, ?_, ?_⟩
          · rintro rfl
            rw [value, visible] at read
            contradiction
          · rw [value, again, ← visible, ← value]
            exact read

/-- The items after the first one. -/
def itemsText (level : Nat) (list : List Json) : List Char :=
  list.flatMap fun item => ',' :: (lineAt level).toList ++ (prettyText level item).toList

theorem prettyItems_cons (level : Nat) (item : Json) (list : List Json) :
    (prettyItems level (item :: list)).toList =
      (lineAt level).toList ++ (prettyText level item).toList ++ itemsText level list := by
  induction list generalizing item with
  | nil =>
      rw [prettyItems]
      simp [itemsText]
  | cons next list inductionHypothesis =>
      rw [prettyItems]
      · simp only [String.toList_append, inductionHypothesis]
        simp [itemsText]
      · simp

theorem items_end (fuel depth outer : Nat) (rest : List Char) :
    items (fuel + 1) depth false ((lineAt outer).toList ++ ']' :: rest) = .ok ([], rest) := by
  have close : skipSpace (']' :: rest) = ']' :: rest := rfl
  rw [items, skipSpace_lineAt, close]
  rfl

/-- What follows an item does not go on a number. -/
theorem head?_itemsText (level outer : Nat) (list : List Json) (rest : List Char) :
    (itemsText level list ++ ((lineAt outer).toList ++ ']' :: rest)).head?.any continuesNumber =
      false := by
  cases list with
  | nil => exact head?_lineAt outer _
  | cons item list => rfl

section Items

variable {fuel depth level : Nat} {text after rest : List Char} {item : Json} {list : List Json}

theorem items_first (readItem : value fuel depth text = .ok (item, after))
    (readMore : items fuel depth false after = .ok (list, rest)) :
    items (fuel + 1) depth true ((lineAt level).toList ++ text) = .ok (item :: list, rest) := by
  obtain ⟨c, others, visible, noEnd, readVisible⟩ := exists_skipSpace readItem
  rw [items, skipSpace_lineAt, visible]
  simp [readVisible, readMore, bind, Except.bind]

theorem items_next (readItem : value fuel depth text = .ok (item, after))
    (readMore : items fuel depth false after = .ok (list, rest)) :
    items (fuel + 1) depth false (',' :: (lineAt level).toList ++ text) =
      .ok (item :: list, rest) := by
  have comma (after : List Char) : skipSpace (',' :: after) = ',' :: after := rfl
  obtain ⟨c, others, visible, noEnd, readVisible⟩ := exists_skipSpace readItem
  rw [List.cons_append, items, comma]
  simp only [Char.reduceEq, imp_self, Bool.false_eq_true, if_false, if_true, skipSpace_lineAt,
    visible, bind, Except.bind]
  split
  · contradiction
  · next same => exact (noEnd (List.cons.inj same).1).elim
  · simp only [readVisible, readMore]

theorem items_itemsText (reads : ∀ item ∈ list, Reads level depth item)
    (enough : 2 * (itemsText level list).length < fuel) (outer : Nat) (rest : List Char) :
    items fuel depth false (itemsText level list ++ ((lineAt outer).toList ++ ']' :: rest)) =
      .ok (list, rest) := by
  induction list generalizing fuel with
  | nil =>
      obtain ⟨fuel, rfl⟩ : ∃ less, fuel = less + 1 := ⟨fuel - 1, by omega⟩
      exact items_end fuel depth outer rest
  | cons item list inductionHypothesis =>
      obtain ⟨first, others⟩ := List.forall_mem_cons.mp reads
      have split : itemsText level (item :: list) =
          ',' :: (lineAt level).toList ++ ((prettyText level item).toList ++
            itemsText level list) := by
        simp [itemsText]
      simp only [split, List.length_append, List.length_cons] at enough
      obtain ⟨fuel, rfl⟩ : ∃ less, fuel = less + 1 := ⟨fuel - 1, by omega⟩
      have readMore : items fuel depth false _ = _ := inductionHypothesis others (by omega)
      rw [split, List.append_assoc, List.append_assoc]
      exact items_next (first fuel _ (head?_itemsText level outer list rest) (by omega)) readMore

end Items

theorem value_items {fuel depth : Nat} {text rest : List Char} {list : List Json}
    (read : items fuel depth true text = .ok (list, rest)) :
    value (fuel + 1) (depth + 1) ('[' :: text) = .ok (.array list, rest) := by
  have bracket : skipSpace ('[' :: text) = '[' :: text := rfl
  rw [value, bracket]
  simp [read, bind, Except.bind]

theorem reads_array {level depth : Nat} {list : List Json}
    (reads : ∀ item ∈ list, Reads (level + 1) depth item) :
    Reads level (depth + 1) (.array list) := by
  intro fuel rest _ enough
  cases list with
  | nil =>
      have written : (prettyText level (.array [])).toList = ['[', ']'] := by
        simp [prettyText]
      rw [written] at enough ⊢
      simp only [List.length_cons, List.length_nil] at enough
      obtain ⟨fuel, rfl⟩ : ∃ less, fuel = less + 2 := ⟨fuel - 2, by omega⟩
      have close : skipSpace (']' :: rest) = ']' :: rest := rfl
      have nothing : items (fuel + 1) depth true (']' :: rest) = .ok ([], rest) := by
        rw [items, close]
        rfl
      exact value_items nothing
  | cons item list =>
      obtain ⟨first, others⟩ := List.forall_mem_cons.mp reads
      have written : (prettyText level (.array (item :: list))).toList =
          '[' :: ((lineAt (level + 1)).toList ++ ((prettyText (level + 1) item).toList ++
            (itemsText (level + 1) list ++ ((lineAt level).toList ++ [']'])))) := by
        rw [prettyText]
        · simp only [String.toList_append, prettyItems_cons]
          simp
        · simp
      rw [written] at enough ⊢
      simp only [List.length_append, List.length_cons, List.length_nil] at enough
      obtain ⟨fuel, rfl⟩ : ∃ less, fuel = less + 2 := ⟨fuel - 2, by omega⟩
      have readMore : items fuel depth false _ = _ :=
        items_itemsText others (by omega) level rest
      simp only [List.append_assoc, List.cons_append, List.nil_append]
      exact value_items (items_first
        (first fuel _ (head?_itemsText (level + 1) level list rest) (by omega)) readMore)

theorem reads_strings (level depth : Nat) (texts : List String) :
    Reads level (depth + 1) (.strings texts) :=
  reads_array (List.forall_mem_map.mpr fun text _ => reads_string (level + 1) depth text)

/-! ### Documents -/

theorem parse_pretty {document : Json} (reads : Reads 0 127 document) :
    parse document.pretty = .ok document := by
  have read := reads (2 * document.pretty.toList.length + 2) [] rfl (Nat.le_add_right _ _)
  rw [List.append_nil, ← pretty] at read
  unfold parse
  simp only [read, bind, Except.bind]
  rfl

end SearchIndex.Json
