import SqlTree.Proofs.Parse.Targets
import SqlTree.Proofs.Render.Openings

/-!
# Plain select lists

The entries of a select list that are made of words: columns, everything, and calls of an aggregate
function, each possibly with another name.  Such a list hides no FROM and closes every parenthesis
that it opens.
-/

namespace SqlTree

open Parse (Passes)
open Lexer (EndsWord)

/-- The text is a word or an asterisk. -/
def IsWordOrAll (text : String) : Prop :=
  IsWord text ∨ text = "*"

instance (text : String) : Decidable (IsWordOrAll text) :=
  inferInstanceAs (Decidable (_ ∨ _))

/-- The name after AS, if there is one, is a word. -/
def IsPlainAsName (asName : Option String) : Prop :=
  ∀ name ∈ asName, IsWord name

instance (asName : Option String) : Decidable (IsPlainAsName asName) :=
  inferInstanceAs (Decidable (∀ name ∈ asName, IsWord name))

/-- The entry is made of words. -/
def SelectItem.IsPlain : SelectItem → Prop
  | .column named => IsWordOrAll named.name ∧ IsPlainAsName named.asName
  | .fragment text => text = "*"
  | .aggregate call => IsWordOrAll call.argument ∧ IsPlainAsName call.asName

instance (item : SelectItem) : Decidable item.IsPlain :=
  match item with
  | .column _ => inferInstanceAs (Decidable (_ ∧ _))
  | .fragment _ => inferInstanceAs (Decidable (_ = _))
  | .aggregate _ => inferInstanceAs (Decidable (_ ∧ _))

/-! ## What plain entries say -/

/-- The script writes the characters, which spell the lexemes, and a search for FROM passes over
them. -/
structure Script.Tells (script : Script) (characters : List Char) (lexemes : List Lexeme) :
    Prop where
  writes : script.Writes characters
  spells : Spells characters lexemes
  passes : Passes lexemes

namespace Script.Tells

variable {first second : Script} {firstCharacters secondCharacters : List Char}
  {firstLexemes secondLexemes : List Lexeme}

theorem empty : Script.empty.Tells [] [] :=
  ⟨writes_empty, .nil, .nil⟩

theorem append (tellsFirst : first.Tells firstCharacters firstLexemes)
    (tellsSecond : second.Tells secondCharacters secondLexemes)
    (endsWord : EndsWord secondCharacters) :
    (first ++ second).Tells (firstCharacters ++ secondCharacters)
      (firstLexemes ++ secondLexemes) where
  writes := tellsFirst.writes.append tellsSecond.writes
  spells := tellsFirst.spells.append tellsSecond.spells endsWord
  passes := tellsFirst.passes.append tellsSecond.passes

theorem word (word : Word) : (Script.text word.text).Tells word.text.toList [word.lexeme] :=
  ⟨writes_text _, word.spells, .word word⟩

end Script.Tells

theorem exists_tells_of_isWordOrAll {text : String} (plain : IsWordOrAll text) :
    ∃ lexeme, (Script.text text).Tells text.toList [lexeme] := by
  rcases plain with isWord | rfl
  · exact ⟨_, .word isWord.word⟩
  · have spells : Spells "*".toList [⟨.asterisk, "*"⟩] := Spells.nil.mark (by decide) (by decide)
    exact ⟨_, Script.writes_text _, spells, .single (by simp)⟩

theorem exists_tells_asName {asName : Option String} (plain : IsPlainAsName asName) :
    ∃ characters lexemes, (asNameScript asName).Tells characters lexemes ∧
      EndsWord characters := by
  cases asName with
  | none => exact ⟨[], [], .empty, Lexer.endsWord_nil⟩
  | some name =>
    have isWord : IsWord name := plain name rfl
    have visible : Text.isBlank name = false := isWord.word.isBlank_text
    have spells := ((Keyword.leads .as).append_spells isWord.word.spells).blank
    have passes : Passes ([Keyword.lexeme .as] ++ [isWord.word.lexeme]) :=
      .append (.single (by decide)) (.word isWord.word)
    refine ⟨" AS ".toList ++ name.toList, _, ⟨?_, spells, passes⟩, Lexer.endsWord_blank _⟩
    simp only [asNameScript, visible]
    exact (Script.writes_text " AS ").append (Script.writes_text name)

theorem AggregateFunction.isWord_text (function : AggregateFunction) : IsWord function.text := by
  cases function <;> decide

/-- The name of an aggregate function. -/
def AggregateFunction.word (function : AggregateFunction) : Word :=
  function.isWord_text.word

theorem exists_leads_distinct (distinct : Bool) :
    ∃ characters lexemes,
      (if distinct then Script.text "DISTINCT " else .empty).Writes characters ∧
      Leads characters lexemes ∧ Passes lexemes := by
  cases distinct with
  | false => exact ⟨[], [], Script.writes_empty, .nil, .nil⟩
  | true => exact ⟨_, _, Script.writes_text _, Keyword.leads .distinct, .single (by decide)⟩

theorem exists_tells_aggregate {call : Aggregate} (argumentPlain : IsWordOrAll call.argument)
    (asNamePlain : IsPlainAsName call.asName) :
    ∃ characters lexemes, call.script.Tells characters lexemes := by
  obtain ⟨asCharacters, asLexemes, tellsAs, endsAs⟩ := exists_tells_asName asNamePlain
  obtain ⟨argument, tellsArgument⟩ := exists_tells_of_isWordOrAll argumentPlain
  obtain ⟨distinctCharacters, distinctLexemes, writesDistinct, leadsDistinct, passesDistinct⟩ :=
    exists_leads_distinct call.distinct
  have spellsArgument := tellsArgument.spells.append tellsAs.spells.closing
    (Lexer.endsWord_closing asCharacters)
  have spellsCall := (leadsDistinct.append_spells spellsArgument).opening.ofWord
    call.function.word (Lexer.endsWord_cons (by decide) _)
  have passesCall := (Passes.word call.function.word).append
    ((passesDistinct.append tellsArgument.passes).enclose.append tellsAs.passes)
  refine ⟨_, _, ?_, spellsCall, by simpa [Lexeme.enclose] using passesCall⟩
  have writes := ((((Script.writes_text call.function.text).append (Script.writes_text "(")).append
    writesDistinct).append tellsArgument.writes).append (Script.writes_text ")") |>.append
      tellsAs.writes
  simpa [Aggregate.script, AggregateFunction.word, IsWord.word] using writes

namespace SelectItem

theorem exists_tells {item : SelectItem} (plain : item.IsPlain) :
    ∃ characters lexemes, item.script.Tells characters lexemes := by
  cases item with
  | column named =>
    obtain ⟨lexeme, tellsName⟩ := exists_tells_of_isWordOrAll plain.1
    obtain ⟨asCharacters, asLexemes, tellsAs, endsAs⟩ := exists_tells_asName plain.2
    exact ⟨_, _, tellsName.append tellsAs endsAs⟩
  | fragment text =>
    obtain ⟨lexeme, tellsAll⟩ := exists_tells_of_isWordOrAll (.inr plain)
    exact ⟨_, _, tellsAll⟩
  | aggregate call => exact exists_tells_aggregate plain.1 plain.2

theorem exists_tells_list {items : List SelectItem} (plain : ∀ item ∈ items, item.IsPlain) :
    ∃ characters lexemes,
      (Script.commaSeparated (items.map SelectItem.script)).Tells characters lexemes := by
  induction items with
  | nil => exact ⟨_, _, .empty⟩
  | cons item items ih =>
    obtain ⟨itemCharacters, itemLexemes, tellsItem⟩ := exists_tells (plain item (by simp))
    cases items with
    | nil => exact ⟨_, _, tellsItem⟩
    | cons next items =>
      obtain ⟨characters, lexemes, tells⟩ := ih fun other member => plain other (by simp [member])
      have comma : Spells (", ".toList ++ characters) ([⟨.comma, ","⟩] ++ lexemes) :=
        tells.spells.blank.mark (by decide) (by decide)
      have tellsBehind : (Script.text ", " ++
          Script.commaSeparated ((next :: items).map SelectItem.script)).Tells
            (", ".toList ++ characters) ([⟨.comma, ","⟩] ++ lexemes) :=
        ⟨(Script.writes_text ", ").append tells.writes, comma,
          .append (.single (by simp)) tells.passes⟩
      have tellsAll := tellsItem.append tellsBehind (Lexer.endsWord_cons (by decide) _)
      rw [← Script.append_assoc] at tellsAll
      exact ⟨_, _, tellsAll⟩

end SelectItem

end SqlTree
