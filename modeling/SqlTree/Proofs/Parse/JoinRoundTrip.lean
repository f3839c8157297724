import SqlTree.Proofs.Parse.Formula
import SqlTree.Proofs.Parse.Joins

/-!
# Rendered joins are read back

What a join made of words is rendered as is read back as the same join exactly if its condition has
no more than 512 comparisons and is no more than 128 high.  A comparison stands without parentheses,
so that it adds nothing to the height.
-/

namespace SqlTree

open Parse
open Lexer (EndsWord)

/-- A table named by words. -/
structure PlainTable where
  name : Word
  asName : Option Word

/-- A join made of words: a cross join, or one of another kind with a condition. -/
inductive PlainJoin where
  | cross (table : PlainTable)
  | conditional (kind : JoinKind) (takesCondition : kind ≠ .cross) (table : PlainTable)
      (condition : Formula)

theorem Formula.isEmpty_joinCondition (formula : Formula) :
    formula.joinCondition.isEmpty = false := by
  induction formula with
  | test left right =>
    simp [joinCondition, JoinCondition.isEmpty, Column.isEmpty, Word.isBlank_text]
  | joined left connective right leftIH rightIH =>
    simp [joinCondition, JoinCondition.isEmpty, leftIH, rightIH]

namespace PlainTable

def table (given : PlainTable) : Table :=
  { name := given.name.text, asName := given.asName.map Word.text }

def text (given : PlainTable) : String :=
  match given.asName with
  | some asName => given.name.text ++ " AS " ++ asName.text
  | none => given.name.text

def lexemes (given : PlainTable) : List Lexeme :=
  match given.asName with
  | some asName => [given.name.lexeme, Keyword.lexeme .as, asName.lexeme]
  | none => [given.name.lexeme]

theorem isEmpty_table (given : PlainTable) : given.table.isEmpty = false :=
  given.name.isBlank_text

theorem write_table {mode : RenderMode} (given : PlainTable) :
    (given.table.write : Writer (Context mode) Unit) = emit given.text := by
  obtain ⟨name, asName⟩ := given
  cases asName with
  | none => simp [table, Table.write, writeAsName, text]
  | some asName =>
    simp [table, Table.write, writeAsName, text, asName.isBlank_text, emit_emit,
      String.append_assoc]

theorem spells (given : PlainTable) {characters : List Char} {lexemes : List Lexeme}
    (following : Spells characters lexemes) (endsWord : EndsWord characters) :
    Spells (given.text.toList ++ characters) (given.lexemes ++ lexemes) := by
  obtain ⟨name, asName⟩ := given
  cases asName with
  | none => exact following.ofWord name endsWord
  | some asName =>
    have spellsAs :=
      (following.ofWord asName endsWord).blank.keyword .as (Lexer.endsWord_blank _)
    have spells := spellsAs.blank.ofWord name (Lexer.endsWord_blank _)
    simpa [text, PlainTable.lexemes, Keyword.spelling] using spells

theorem names (given : PlainTable) {tokens : List Token}
    (spelled : tokens.map Token.lexeme = given.lexemes) : NamesTable tokens given.table := by
  obtain ⟨name, asName⟩ := given
  cases asName with
  | none =>
    obtain ⟨nameToken, rfl, spelledName⟩ := List.map_eq_singleton_iff.mp spelled
    have nameText : nameToken.text = name.text := congrArg Lexeme.text spelledName
    rw [table, ← nameText]
    exact .plain (congrArg Lexeme.kind spelledName)
  | some asName =>
    obtain ⟨nameToken, rest, rfl, spelledName, spelled⟩ := List.map_eq_cons_iff.mp spelled
    obtain ⟨as, rest, rfl, spelledAs, spelled⟩ := List.map_eq_cons_iff.mp spelled
    obtain ⟨asToken, rfl, spelledAsName⟩ := List.map_eq_singleton_iff.mp spelled
    have nameText : nameToken.text = name.text := congrArg Lexeme.text spelledName
    have asText : asToken.text = asName.text := congrArg Lexeme.text spelledAsName
    rw [table, ← nameText, Option.map_some, ← asText]
    exact .renamed (congrArg Lexeme.kind spelledName) (congrArg Lexeme.kind spelledAs)
      (congrArg Lexeme.kind spelledAsName)

end PlainTable

namespace PlainJoin

def join : PlainJoin → Join
  | cross table => { kind := .cross, table := table.table, condition := none }
  | conditional kind _ table condition =>
    { kind, table := table.table, condition := some condition.joinCondition }

/-- The number of comparisons in the condition, if there is one. -/
def tests : PlainJoin → Nat
  | cross _ => 0
  | conditional _ _ _ condition => condition.tests

/-- The height of the condition, if there is one, a comparison being of height zero. -/
def height : PlainJoin → Nat
  | cross _ => 0
  | conditional _ _ _ condition => condition.height 0

def text : PlainJoin → String
  | cross table => JoinKind.cross.text ++ " " ++ table.text
  | conditional kind _ table condition =>
    kind.text ++ " " ++ table.text ++ " ON " ++ condition.text .bare

theorem write_join {mode : RenderMode} (given : PlainJoin) :
    (given.join.write : Writer (Context mode) Unit) = emit given.text := by
  cases given with
  | cross table =>
    simp [join, Join.write, table.isEmpty_table, requirePart, table.write_table, emit_emit, text,
      String.append_assoc]
  | conditional kind takesCondition table condition =>
    simp [join, Join.write, table.isEmpty_table, requirePart, table.write_table, emit_emit, text,
      takesCondition, Join.writeCondition, condition.isEmpty_joinCondition,
      condition.write_joinCondition, String.append_assoc]

theorem spells_kind (kind : JoinKind) {characters : List Char} {lexemes : List Lexeme}
    (following : Spells characters lexemes) :
    Spells (kind.text.toList ++ ' ' :: characters)
      (kind.keyword.lexeme :: Keyword.lexeme .join :: lexemes) := by
  have spellsJoin := following.blank.keyword .join (Lexer.endsWord_blank _)
  have spells := spellsJoin.blank.keyword kind.keyword (Lexer.endsWord_blank _)
  cases kind <;> exact spells

theorem names_cross (table : PlainTable) :
    NamesJoin (TokenStream.ofText (cross table).text).ahead (some table.table)
      (cross table).join := by
  have spells : Spells (cross table).text.toList
      (JoinKind.cross.keyword.lexeme :: Keyword.lexeme .join :: table.lexemes) := by
    have spellsTable := table.spells Spells.nil Lexer.endsWord_nil
    simpa [text] using spells_kind .cross spellsTable
  obtain ⟨word, rest, tokensEq, spelledWord, spelled⟩ := List.map_eq_cons_iff.mp spells.ofText
  obtain ⟨join, rest, rfl, spelledJoin, spelledTable⟩ := List.map_eq_cons_iff.mp spelled
  rw [tokensEq]
  exact .cross (congrArg Lexeme.kind spelledWord) (congrArg Lexeme.kind spelledJoin)
    (table.names spelledTable)

/-- The tokens of a join with a condition are those of its kind, of its table and of its condition.
-/
theorem names_conditional (kind : JoinKind) (takesCondition : kind ≠ .cross) (table : PlainTable)
    (condition : Formula) :
    ∃ kindTokens targetTokens conditionTokens,
      (TokenStream.ofText (conditional kind takesCondition table condition).text).ahead =
        kindTokens ++ (targetTokens ++ conditionTokens) ∧
      NamesKind kindTokens kind ∧ NamesTarget targetTokens (some table.table) ∧
      Derives .condition conditionTokens (condition.phrase .bare) := by
  have spells : Spells (conditional kind takesCondition table condition).text.toList
      (kind.keyword.lexeme :: Keyword.lexeme .join ::
        (table.lexemes ++ Keyword.lexeme .on :: condition.lexemes .bare)) := by
    have spellsCondition := condition.spells .bare Spells.nil Lexer.endsWord_nil
    have spellsOn := spellsCondition.blank.keyword .on (Lexer.endsWord_blank _)
    have spellsTable := table.spells spellsOn.blank (Lexer.endsWord_blank _)
    simpa [text, Keyword.spelling] using spells_kind kind spellsTable
  obtain ⟨word, rest, tokensEq, spelledWord, spelled⟩ := List.map_eq_cons_iff.mp spells.ofText
  obtain ⟨join, rest, rfl, spelledJoin, spelled⟩ := List.map_eq_cons_iff.mp spelled
  obtain ⟨tableTokens, rest, rfl, spelledTable, spelled⟩ := List.map_eq_append_iff.mp spelled
  obtain ⟨on, conditionTokens, rfl, spelledOn, spelledCondition⟩ := List.map_eq_cons_iff.mp spelled
  refine ⟨[word, join], tableTokens ++ [on], conditionTokens, ?_, ?_, ?_, ?_⟩
  · rw [tokensEq]
    simp
  · exact .named takesCondition (congrArg Lexeme.kind spelledWord)
      (congrArg Lexeme.kind spelledJoin)
  · exact .table (table.names spelledTable) (congrArg Lexeme.kind spelledOn)
  · exact .single (condition.derives .bare spelledCondition)

/-- A rendered join is read back as the same join, its kind, table and condition included, if its
condition is within the bounds, a comparison being of height zero, and is refused otherwise. -/
theorem parse_rendered_join (given : PlainJoin) :
    ∃ context, (Node.join given.join).render .raw = .ok context ∧
      if given.tests ≤ 512 ∧ given.height ≤ 128 then
        Parse.join context.sql = .ok given.join
      else
        ∃ error, Parse.join context.sql = .error error ∧ error.grammar = .joinCondition := by
  have rendered : (Node.join given.join).render .raw = .ok { sql := given.text } := by
    change (given.join.write : Writer (Context .raw) Unit).render = _
    rw [given.write_join, Writer.render_emit]
  refine ⟨_, rendered, ?_⟩
  rw [Parse.join]
  cases given with
  | cross table =>
    rw [if_pos (by simp [tests, height]), report_eq_ok_iff]
    exact (names_cross table).readJoin
  | conditional kind takesCondition table condition =>
    obtain ⟨kindTokens, targetTokens, conditionTokens, tokensEq, namesKind, namesTarget, derives⟩ :=
      names_conditional kind takesCondition table condition
    have proper := TokenStream.proper_ofText (conditional kind takesCondition table condition).text
    have phraseTests := condition.tests_phrase .bare
    have phraseDepth : (condition.phrase .bare).depth = condition.height 0 :=
      condition.depth_phrase .bare
    rw [tokensEq] at proper
    rw [namesKind.readJoin_eq (.of_target namesTarget derives) tokensEq]
    split
    · next within =>
      have room : (condition.phrase .bare).tests ≤ maxTests := by
        rw [phraseTests]
        exact within.1
      have shallow : (condition.phrase .bare).depth ≤ maxDepth := by
        rw [phraseDepth]
        exact within.2
      rw [report_eq_ok_iff,
        namesTarget.readConditionJoin derives proper.of_append room shallow _ kind,
        condition.joinCondition_phrase]
      rfl
    · next beyond =>
      have exceeds : maxTests < (condition.phrase .bare).tests ∨
          maxDepth < (condition.phrase .bare).depth := by
        simp only [tests, height] at beyond
        rw [phraseTests, phraseDepth]
        unfold maxTests maxDepth
        omega
      obtain ⟨failure, failed, -⟩ := namesTarget.readConditionJoin_exceeding derives
        proper.of_append exceeds
        (TokenStream.ofText (conditional kind takesCondition table condition).text).stop kind
      rw [failed]
      exact ⟨_, rfl, rfl⟩

end PlainJoin

end SqlTree
