import SqlTree.Proofs.Parse.Filters
import SqlTree.Proofs.Parse.Formula

/-!
# Rendered conditions are read back

What a formula is rendered as is read back as the same expression, whatever its shape, exactly if it
has no more than 512 comparisons and is no more than 128 high.  Every operator brings parentheses of
its own, so that the text is as deep as the tree is high, whichever way its chains lean.  A long
chain can therefore be read where it is written without parentheses, and not be read back once it
has been rendered.
-/

namespace SqlTree

open Parse
open Lexer (EndsWord)

/-- A condition begins with no keyword. -/
theorem withoutKeyword_of_derives {nonterminal : Nonterminal} {tokens : List Token}
    {phrase : Phrase} (derives : Derives nonterminal tokens phrase) (keyword : Keyword) :
    withoutKeyword keyword tokens = tokens := by
  rcases derives.start with ⟨left, equals, rest, rfl, leftWord, -⟩ | ⟨opening, rest, rfl, opens⟩
  · simp [withoutKeyword, leftWord]
  · simp [withoutKeyword, opens]

namespace ConditionClause

theorem parse_of_derives (clause : ConditionClause) {text : String} {phrase : Phrase}
    (derives : Derives .condition (TokenStream.ofText text).ahead phrase)
    (room : phrase.tests ≤ maxTests) (shallow : phrase.depth ≤ maxDepth) :
    clause.parse text = .ok phrase.expression := by
  rw [← withoutKeyword_of_derives derives clause.keyword] at derives
  rw [parse_eq, Parse.filter, report_eq_ok_iff, readFilter_eq_ok_iff]
  exact ⟨phrase, derives, room, shallow, rfl⟩

theorem parse_of_exceeding (clause : ConditionClause) {text : String} {phrase : Phrase}
    (derives : Derives .condition (TokenStream.ofText text).ahead phrase)
    (exceeds : maxTests < phrase.tests ∨ maxDepth < phrase.depth) :
    ∃ error, clause.parse text = .error error ∧ error.grammar = .condition := by
  rw [← withoutKeyword_of_derives derives clause.keyword] at derives
  obtain ⟨failure, failed, -⟩ := readFilter_exceeding clause.keyword text derives exceeds
  rw [parse_eq, Parse.filter, failed]
  exact ⟨_, rfl, rfl⟩

end ConditionClause

/-! ## Formulas -/

namespace Formula

theorem render_expression (formula : Formula) :
    (Node.expression formula.expression).render .raw = .ok { sql := formula.text .enclosed } := by
  change (formula.expression.write : Writer (Context .raw) Unit).render = _
  rw [formula.write_expression, Writer.render_emit]

/-- The tokens of the formula's text derive its phrase. -/
theorem derives_text (formula : Formula) :
    Derives .condition (TokenStream.ofText (formula.text .enclosed)).ahead
      (formula.phrase .enclosed) := by
  have spells := formula.spells .enclosed Spells.nil Lexer.endsWord_nil
  rw [List.append_nil, List.append_nil] at spells
  exact .single (formula.derives .enclosed spells.ofText)

theorem depth_phrase_enclosed (formula : Formula) :
    (formula.phrase .enclosed).depth = formula.height 1 :=
  formula.depth_phrase .enclosed

theorem parse_text (clause : ConditionClause) (formula : Formula)
    (room : formula.tests ≤ maxTests) (shallow : formula.height 1 ≤ maxDepth) :
    clause.parse (formula.text .enclosed) = .ok formula.expression := by
  rw [← formula.tests_phrase .enclosed] at room
  rw [← formula.depth_phrase_enclosed] at shallow
  rw [clause.parse_of_derives formula.derives_text room shallow, formula.expression_phrase]

theorem parse_text_exceeding (clause : ConditionClause) (formula : Formula)
    (exceeds : maxTests < formula.tests ∨ maxDepth < formula.height 1) :
    ∃ error, clause.parse (formula.text .enclosed) = .error error ∧
      error.grammar = .condition := by
  rw [← formula.tests_phrase .enclosed, ← formula.depth_phrase_enclosed] at exceeds
  exact clause.parse_of_exceeding formula.derives_text exceeds

end Formula

/-! ## Chains -/

/-- Comparisons joined one after the other. -/
inductive Chain where
  | single (left right : Word)
  | more (before : Chain) (connective : Connective) (left right : Word)

namespace Chain

/-- The formula that the chain is read as, put together from the left. -/
def formula : Chain → Formula
  | single left right => .test left right
  | more before connective left right => .joined before.formula connective (.test left right)

/-- The text of the chain, without parentheses. -/
def text : Chain → String
  | single left right => left.text ++ " = " ++ right.text
  | more before connective left right =>
    before.text ++ " " ++ connective.text ++ " " ++ left.text ++ " = " ++ right.text

def phrase : Chain → Phrase
  | single left right => .test left.text right.text
  | more before connective left right =>
    .joined before.phrase connective (.test left.text right.text)

def lexemes : Chain → List Lexeme
  | single left right => [left.lexeme, ⟨.equals, "="⟩, right.lexeme]
  | more before connective left right =>
    before.lexemes ++ connective.keyword.lexeme :: [left.lexeme, ⟨.equals, "="⟩, right.lexeme]

/-- Put together from the left, a chain is as high as it is long. -/
theorem height_formula (chain : Chain) : chain.formula.height 1 = chain.formula.tests := by
  induction chain with
  | single left right => rfl
  | more before connective left right ih =>
    have someTest : 1 ≤ before.formula.tests := by cases before <;> simp [formula, Formula.tests]
    simp only [formula, Formula.height, Formula.tests, ih]
    omega

theorem tests_phrase (chain : Chain) : chain.phrase.tests = chain.formula.tests := by
  induction chain with
  | single left right => rfl
  | more before connective left right ih =>
    simp only [phrase, formula, Phrase.tests, Formula.tests, ih]

theorem depth_phrase (chain : Chain) : chain.phrase.depth = 0 := by
  induction chain with
  | single left right => rfl
  | more before connective left right ih =>
    simp only [phrase, Phrase.depth, ih, Nat.max_self]

theorem expression_phrase (chain : Chain) :
    chain.phrase.expression = chain.formula.expression := by
  induction chain with
  | single left right => rfl
  | more before connective left right ih =>
    simp only [phrase, formula, Phrase.expression, Formula.expression, ih]

theorem spells (chain : Chain) {characters : List Char} {lexemes : List Lexeme}
    (following : Spells characters lexemes) (endsWord : EndsWord characters) :
    Spells (chain.text.toList ++ characters) (chain.lexemes ++ lexemes) := by
  induction chain generalizing characters lexemes with
  | single left right =>
    have spells := following.comparison left right endsWord
    simpa [text, Chain.lexemes] using spells
  | more before connective left right ih =>
    have spellsTest := following.comparison left right endsWord
    have spellsWord := spellsTest.blank.keyword connective.keyword (Lexer.endsWord_blank _)
    have spells := ih spellsWord.blank (Lexer.endsWord_blank _)
    rw [connective.spelling_keyword] at spells
    simpa [text, Chain.lexemes] using spells

theorem derives (chain : Chain) {tokens : List Token}
    (spelled : tokens.map Token.lexeme = chain.lexemes) :
    Derives .condition tokens chain.phrase := by
  induction chain generalizing tokens with
  | single left right => exact .single (.of_comparison spelled)
  | more before connective left right ih =>
    obtain ⟨beforeTokens, rest, rfl, spelledBefore, spelled⟩ := List.map_eq_append_iff.mp spelled
    obtain ⟨word, testTokens, rfl, spelledWord, spelledTest⟩ := List.map_eq_cons_iff.mp spelled
    exact .joined (ih spelledBefore) (congrArg Lexeme.kind spelledWord) (.of_comparison spelledTest)

/-- Without parentheses, a chain is read up to the greatest number of comparisons. -/
theorem parse_text (clause : ConditionClause) (chain : Chain)
    (room : chain.formula.tests ≤ maxTests) :
    clause.parse chain.text = .ok chain.formula.expression := by
  have spells := chain.spells Spells.nil Lexer.endsWord_nil
  rw [List.append_nil, List.append_nil] at spells
  have shallow : chain.phrase.depth ≤ maxDepth := by
    rw [chain.depth_phrase]
    exact Nat.zero_le _
  rw [← chain.tests_phrase] at room
  rw [clause.parse_of_derives (chain.derives spells.ofText) room shallow, chain.expression_phrase]

end Chain

/-- A rendered formula is read back as the same expression if it is within the bounds, a comparison
being of height one, and is refused otherwise.  So a chain of more than 128 comparisons that is read
where it stands without parentheses is not read back once it has been rendered. -/
theorem ConditionClause.parse_rendered_formula (clause : ConditionClause) :
    (∀ formula : Formula,
      ∃ context, (Node.expression formula.expression).render .raw = .ok context ∧
        if formula.tests ≤ 512 ∧ formula.height 1 ≤ 128 then
          clause.parse context.sql = .ok formula.expression
        else
          ∃ error, clause.parse context.sql = .error error ∧ error.grammar = .condition) ∧
    (∀ chain : Chain, 128 < chain.formula.tests → chain.formula.tests ≤ 512 →
      clause.parse chain.text = .ok chain.formula.expression ∧
      ∃ context, (Node.expression chain.formula.expression).render .raw = .ok context ∧
        ∃ error, clause.parse context.sql = .error error ∧ error.grammar = .condition) := by
  constructor
  · intro formula
    refine ⟨_, formula.render_expression, ?_⟩
    split
    · next within => exact formula.parse_text clause within.1 within.2
    · next beyond =>
      apply formula.parse_text_exceeding clause
      unfold maxTests maxDepth
      omega
  · intro chain long room
    refine ⟨chain.parse_text clause room, _, chain.formula.render_expression, ?_⟩
    apply chain.formula.parse_text_exceeding clause
    right
    rw [chain.height_formula]
    exact long

end SqlTree
