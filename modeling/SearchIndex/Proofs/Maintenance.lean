import SearchIndex.Maintenance
import SearchIndex.Proofs.Decimal.Digits
import SearchIndex.Proofs.Sql.Reading
import SearchIndex.Proofs.Text.Trim

/-!
Contract: a command is read back from its text, and from every other setting of that text.

Owns: `Means`, what a name and an argument stand for, with `parse_eq_ok_iff`; `Respelled`, texts
that differ in the letter case of the name and in the blanks around the name and the argument; and
`commands_read_back`, by which every accepted text is read like the text of its command, however it
is respelled.

A text is cut at its first equals sign before anything is trimmed, so the blanks next to the sign
belong to the name on its left and the argument on its right. A name never holds the sign, in
whatever letters it is written.
-/

namespace SearchIndex.Maintenance

open Text (Padded)

/-! ### Meanings -/

/-- The command that a name in small letters and an argument stand for. -/
inductive Means : String → Option String → Maintenance → Prop where
  | rebuild : Means "rebuild" none .rebuild
  | optimize : Means "optimize" none .optimize
  | integrityCheck : Means "integrity-check" none .integrityCheck
  | deleteAll : Means "delete-all" none .deleteAll
  | merge {argument : String} {pages : Int64} (read : Decimal.long? argument = some pages) :
      Means "merge" (some argument) (.merge pages)
  | automerge {argument : String} {level : UInt8} (read : Decimal.byte? argument = some level)
      (bounded : level ≤ 16) : Means "automerge" (some argument) (.automerge level)

/-- A level of automatic merging is at most 16. -/
def Bounded : Maintenance → Prop
  | .automerge level => level ≤ 16
  | _ => True

/-- A text is accepted exactly if the two sides of its first equals sign mean something. -/
theorem parse_eq_ok_iff {text : String} {command : Maintenance} :
    parse text = .ok command ↔
      Means (String.ofList ((cut text.toList).1.map Char.toLower))
        ((cut text.toList).2.map String.ofList) command := by
  unfold parse
  generalize cut text.toList = parts
  obtain ⟨name, argument⟩ := parts
  dsimp only
  generalize String.ofList (name.map Char.toLower) = small
  generalize argument.map String.ofList = given
  constructor
  · intro accepted
    split at accepted
    · cases accepted; exact .rebuild
    · cases accepted; exact .optimize
    · cases accepted; exact .integrityCheck
    · cases accepted; exact .deleteAll
    · split at accepted
      · next read => cases accepted; exact .merge read
      · contradiction
    · split at accepted
      · next read =>
          split at accepted
          · next bounded => cases accepted; exact .automerge read bounded
          · contradiction
      · contradiction
    · contradiction
  · intro means
    cases means with
    | merge read => simp only [read]
    | automerge read bounded => simp only [read]; exact if_pos bounded
    | _ => rfl

theorem Means.bounded {name : String} {argument : Option String} {command : Maintenance}
    (means : Means name argument command) : command.Bounded := by
  cases means with
  | automerge _ bounded => exact bounded
  | _ => trivial

/-- A command within its bounds is meant by its own name and argument. -/
theorem means_of_bounded {command : Maintenance} (bounded : command.Bounded) :
    Means command.name (command.argument?.map Decimal.integer) command := by
  cases command with
  | rebuild => exact .rebuild
  | optimize => exact .optimize
  | integrityCheck => exact .integrityCheck
  | deleteAll => exact .deleteAll
  | merge pages => exact .merge (Decimal.long?_integer pages)
  | automerge level => exact .automerge (Decimal.byte?_natural level) bounded

/-! ### Cutting a text -/

section Cut

variable {name argument : List Char}

theorem cut_of_not_mem (plain : '=' ∉ name) : cut name = (Text.trim name, none) := by
  have inside : ∀ c ∈ name, (c != '=') = true :=
    fun c member => bne_iff_ne.mpr fun same => plain (same ▸ member)
  rw [cut, List.dropWhile_eq_nil_iff.mpr inside]

theorem cut_append (plain : '=' ∉ name) (argument : List Char) :
    cut (name ++ '=' :: argument) = (Text.trim name, some (Text.trim argument)) := by
  have inside : ∀ c ∈ name, (c != '=') = true :=
    fun c member => bne_iff_ne.mpr fun same => plain (same ▸ member)
  rw [cut, Text.dropWhile_append_stop inside rfl, Text.takeWhile_append_stop inside rfl]

end Cut

theorem name_mem_names (command : Maintenance) : command.name ∈ names := by
  cases command <;> simp [name, names]

/-- A written command is cut into its name and its argument. -/
theorem cut_render (command : Maintenance) :
    cut command.render.toList = (command.name.toList,
      command.argument?.map fun argument => (Decimal.integer argument).toList) := by
  have plain : ∀ name ∈ names, '=' ∉ name.toList ∧ Text.trim name.toList = name.toList := by decide
  have named := plain _ command.name_mem_names
  unfold render
  cases command.argument? with
  | none => rw [cut_of_not_mem named.1, named.2, Option.map_none]
  | some argument =>
      have text : (command.name ++ "=" ++ Decimal.integer argument).toList =
          command.name.toList ++ '=' :: (Decimal.integer argument).toList := by simp
      dsimp only
      rw [text, cut_append named.1, named.2, Option.map_some,
        Text.trim_of_visible fun _ => Decimal.isBlank_of_mem_integer]

theorem parse_render {command : Maintenance} (bounded : command.Bounded) :
    parse command.render = .ok command := by
  have small : ∀ name ∈ names, String.ofList (name.toList.map Char.toLower) = name := by decide
  rw [parse_eq_ok_iff, cut_render, small _ command.name_mem_names, Option.map_map]
  simpa [Function.comp_def] using means_of_bounded bounded

/-! ### Other settings of a text -/

/-- Names that differ in the case of ASCII letters and in the blanks around them. -/
inductive SameName : List Char → List Char → Prop where
  | intro {name other left right : List Char}
      (letters : other.map Char.toLower = name.map Char.toLower) (around : Padded name left)
      (aroundOther : Padded other right) : SameName left right

/-- Arguments that differ in the blanks around them. -/
inductive SameArgument : List Char → List Char → Prop where
  | intro {argument left right : List Char} (around : Padded argument left)
      (aroundOther : Padded argument right) : SameArgument left right

/-- Texts with the same name and the same argument behind their first equals sign, or without. -/
inductive Respelled : List Char → List Char → Prop where
  | name {left right : List Char} (plain : '=' ∉ left) (same : SameName left right) :
      Respelled left right
  | argument {left right given other : List Char} (plain : '=' ∉ left)
      (same : SameName left right) (kept : SameArgument given other) :
      Respelled (left ++ '=' :: given) (right ++ '=' :: other)

/-- Only letters have another lower form, and they are no blanks. -/
theorem isBlank_toLower (c : Char) : Text.isBlank c.toLower = Text.isBlank c := by
  have visible {letter : Char} (alphabetic : letter.isAlpha = true) :
      Text.isBlank letter = false :=
    Sql.Token.isBlank_of_isWordChar
      (Sql.Token.isWordChar_of_isAlphanum (by rw [Char.isAlphanum, alphabetic, Bool.true_or]))
  rcases Sql.Token.toLower_eq_self_or c with kept | ⟨before, after⟩
  · rw [kept]
  · rw [visible before, visible after]

theorem map_toLower_trim (text : List Char) :
    (Text.trim text).map Char.toLower = Text.trim (text.map Char.toLower) := by
  have same : Text.isBlank ∘ Char.toLower = Text.isBlank := funext isBlank_toLower
  rw [Text.trim, Text.trim, Text.trimEnd, Text.trimEnd, List.dropWhile_map, ← List.map_reverse,
    List.dropWhile_map, same, List.map_reverse]

section Respelled

variable {left right : List Char}

theorem SameName.map_trim (same : SameName left right) :
    (Text.trim right).map Char.toLower = (Text.trim left).map Char.toLower := by
  obtain ⟨letters, around, aroundOther⟩ := same
  rw [around.trim_eq, aroundOther.trim_eq, map_toLower_trim, map_toLower_trim, letters]

theorem SameArgument.trim_eq (same : SameArgument left right) :
    Text.trim right = Text.trim left := by
  obtain ⟨around, aroundOther⟩ := same
  rw [around.trim_eq, aroundOther.trim_eq]

/-- Neither letters nor blanks are equals signs. -/
theorem SameName.not_mem (same : SameName left right) (plain : '=' ∉ left) : '=' ∉ right := by
  obtain @⟨name, other, _, _, letters, ⟨_, _⟩, ⟨opening, closing⟩⟩ := same
  have apart : Text.isBlank '=' = false := by decide
  have inName : '=' ∉ name := fun member => plain (by simp [member])
  have inOther : '=' ∉ other := by
    intro member
    -- The sign is no letter, so it is the lower form of itself only.
    have lowered : '=' ∈ name.map Char.toLower := letters ▸ List.mem_map_of_mem member
    obtain ⟨c, inside, same⟩ := List.mem_map.mp lowered
    exact inName (Sql.Token.eq_of_toLower same (by decide) ▸ inside)
  simp only [List.mem_append, not_or]
  refine ⟨fun member => ?_, inOther, fun member => ?_⟩
  · simp [opening _ member] at apart
  · simp [closing _ member] at apart

theorem Respelled.cut_eq (respelled : Respelled left right) :
    (cut right).1.map Char.toLower = (cut left).1.map Char.toLower ∧
      (cut right).2 = (cut left).2 := by
  cases respelled with
  | name plain same =>
      rw [cut_of_not_mem plain, cut_of_not_mem (same.not_mem plain)]
      exact ⟨same.map_trim, rfl⟩
  | argument plain same kept =>
      rw [cut_append plain, cut_append (same.not_mem plain)]
      exact ⟨same.map_trim, congrArg some kept.trim_eq⟩

end Respelled

/-- Every command within its bounds is read back from its text. Every accepted text gives such a
command, and so does every respelled text, the same one. -/
theorem commands_read_back :
    (∀ command : Maintenance, command.Bounded → parse command.render = .ok command) ∧
      ∀ (text : String) (command : Maintenance), parse text = .ok command →
        command.Bounded ∧ parse command.render = .ok command ∧
          ∀ other : String, Respelled text.toList other.toList → parse other = .ok command := by
  refine ⟨fun _ => parse_render, fun text command accepted => ?_⟩
  have means := parse_eq_ok_iff.mp accepted
  refine ⟨means.bounded, parse_render means.bounded, fun other respelled => ?_⟩
  obtain ⟨name, argument⟩ := respelled.cut_eq
  rw [parse_eq_ok_iff, name, argument]
  exact means

/-- The least argument, with a sign and zeros before its digits. -/
theorem commands_read_back_least :
    Respelled "Merge=-0009223372036854775808".toList
        "\u2003mERGE\t= -0009223372036854775808\n".toList ∧
      parse "Merge=-0009223372036854775808" = .ok (.merge Int64.minValue) ∧
      parse (render (.merge Int64.minValue)) = .ok (.merge Int64.minValue) ∧
      parse "\u2003mERGE\t= -0009223372036854775808\n" = .ok (.merge Int64.minValue) := by
  have accepted : parse "Merge=-0009223372036854775808" = .ok (.merge Int64.minValue) := by
    decide +kernel
  have name : SameName "Merge".toList "\u2003mERGE\t".toList :=
    @SameName.intro "Merge".toList "mERGE".toList _ _ (by decide)
      (@Padded.intro _ [] [] (List.forall_mem_nil _) (List.forall_mem_nil _))
      (@Padded.intro _ ['\u2003'] ['\t'] (List.forall_mem_singleton.mpr rfl)
        (List.forall_mem_singleton.mpr rfl))
  have argument : SameArgument "-0009223372036854775808".toList
      " -0009223372036854775808\n".toList :=
    @SameArgument.intro "-0009223372036854775808".toList _ _
      (@Padded.intro _ [] [] (List.forall_mem_nil _) (List.forall_mem_nil _))
      (@Padded.intro _ [' '] ['\n'] (List.forall_mem_singleton.mpr rfl)
        (List.forall_mem_singleton.mpr rfl))
  have respelled : Respelled "Merge=-0009223372036854775808".toList
      "\u2003mERGE\t= -0009223372036854775808\n".toList := by
    have text : "Merge=-0009223372036854775808".toList =
        "Merge".toList ++ '=' :: "-0009223372036854775808".toList := by decide +kernel
    have other : "\u2003mERGE\t= -0009223372036854775808\n".toList =
        "\u2003mERGE\t".toList ++ '=' :: " -0009223372036854775808\n".toList := by decide +kernel
    rw [text, other]
    exact .argument (by decide) name argument
  obtain ⟨-, written, settings⟩ := commands_read_back.2 _ _ accepted
  exact ⟨respelled, accepted, written, settings _ respelled⟩

end SearchIndex.Maintenance
