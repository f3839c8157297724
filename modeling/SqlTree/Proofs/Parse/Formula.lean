import SqlTree.Proofs.Parse.Grammar
import SqlTree.Proofs.Render.PlainText
import SqlTree.Proofs.Token.Spelling
import SqlTree.Proofs.Token.Words

/-!
# Formulas

Equalities of two words, put together by AND and OR in any shape.  A formula is written as an
expression, where every comparison is enclosed in parentheses, or as the condition of a join, where
comparisons stand bare.  Either way, the text spells tokens that derive a phrase with the
comparisons of the formula, in which as many parentheses are open at one time as the formula is
high.
-/

namespace SqlTree

/-- A word that is no keyword. -/
structure Word where
  text : String
  nonempty : text ≠ ""
  inWord : ∀ character ∈ text.toList, isWordCharacter character = true
  noKeyword : Keyword.lookup text = none

def Word.lexeme (word : Word) : Lexeme :=
  ⟨.literal, word.text⟩

theorem Word.toList_ne_nil (word : Word) : word.text.toList ≠ [] := by
  intro empty
  exact word.nonempty (String.toList_eq_nil_iff.mp empty)

theorem Word.isBlank_text (word : Word) : Text.isBlank word.text = false := by
  obtain ⟨first, others, characters⟩ := List.exists_cons_of_ne_nil word.toList_ne_nil
  have inWord : isWordCharacter first = true := word.inWord first (by simp [characters])
  simp [Text.isBlank, characters, isSpace_of_isWordCharacter inWord]

/-- The lexemes in parentheses. -/
def Lexeme.enclose (lexemes : List Lexeme) : List Lexeme :=
  ⟨.openParenthesis, "("⟩ :: (lexemes ++ [⟨.closeParenthesis, ")"⟩])

/-- Equalities of two words, put together by AND and OR. -/
inductive Formula where
  | test (left right : Word)
  | joined (left : Formula) (connective : Connective) (right : Formula)

/-- How the comparisons of a formula are written. -/
inductive ComparisonForm where
  | enclosed
  | bare

/-- The comparison, enclosed if the form says so. -/
def ComparisonForm.around {Written : Type} (enclose : Written → Written) (comparison : Written) :
    ComparisonForm → Written
  | enclosed => enclose comparison
  | bare => comparison

namespace Formula

/-- The formula as an expression of identifiers. -/
def expression : Formula → Expression
  | test left right => .binary (.identifier left.text) (.comparison .equal) (.identifier right.text)
  | joined left connective right =>
    .binary left.expression (.connective connective) right.expression

/-- The formula as the condition of a join. -/
def joinCondition : Formula → JoinCondition
  | test left right => .equality { name := left.text } { name := right.text }
  | joined left connective right => .connected left.joinCondition connective right.joinCondition

/-- The number of comparisons. -/
def tests : Formula → Nat
  | test _ _ => 1
  | joined left _ right => left.tests + right.tests

/-- The height of the formula, in which a comparison has the given height. -/
def height (ofTest : Nat) : Formula → Nat
  | test _ _ => ofTest
  | joined left _ right => 1 + max (left.height ofTest) (right.height ofTest)

/-! ## Phrases -/

/-- The phrase that the text of the formula says. -/
def phrase (form : ComparisonForm) : Formula → Phrase
  | test left right => form.around .enclosed (.test left.text right.text)
  | joined left connective right =>
    .enclosed (.joined (left.phrase form) connective (right.phrase form))

theorem tests_phrase (form : ComparisonForm) (formula : Formula) :
    (formula.phrase form).tests = formula.tests := by
  induction formula with
  | test left right => cases form <;> rfl
  | joined left connective right leftIH rightIH =>
    simp only [phrase, Phrase.tests, tests, leftIH, rightIH]

theorem depth_phrase (form : ComparisonForm) (formula : Formula) :
    (formula.phrase form).depth = formula.height (form.around (· + 1) 0) := by
  induction formula with
  | test left right => cases form <;> rfl
  | joined left connective right leftIH rightIH =>
    simp only [phrase, Phrase.depth, height, leftIH, rightIH, Nat.add_comm]

theorem expression_phrase (form : ComparisonForm) (formula : Formula) :
    (formula.phrase form).expression = formula.expression := by
  induction formula with
  | test left right => cases form <;> rfl
  | joined left connective right leftIH rightIH =>
    simp only [phrase, Phrase.expression, expression, leftIH, rightIH]

theorem joinCondition_phrase (form : ComparisonForm) (formula : Formula) :
    (formula.phrase form).joinCondition = formula.joinCondition := by
  induction formula with
  | test left right => cases form <;> rfl
  | joined left connective right leftIH rightIH =>
    simp only [phrase, Phrase.joinCondition, joinCondition, leftIH, rightIH]

/-! ## Texts -/

/-- The text of the formula. -/
def text (form : ComparisonForm) : Formula → String
  | test left right =>
    form.around (fun comparison => "(" ++ comparison ++ ")") (left.text ++ " = " ++ right.text)
  | joined left connective right =>
    "(" ++ left.text form ++ " " ++ connective.text ++ " " ++ right.text form ++ ")"

variable {mode : RenderMode}

theorem spaced_equals (rest : String) : " " ++ ("=" ++ (" " ++ rest)) = " = " ++ rest := by
  rw [← String.append_assoc, ← String.append_assoc]
  rfl

theorem write_expression (formula : Formula) :
    (formula.expression.write : Writer (Context mode) Unit) = emit (formula.text .enclosed) := by
  induction formula with
  | test left right =>
    simp [expression, Expression.write, Operator.write, Operator.text, Comparison.text, text,
      ComparisonForm.around, emit_emit, String.append_assoc, spaced_equals]
  | joined left connective right leftIH rightIH =>
    simp [expression, Expression.write, Operator.write, Operator.text, text, leftIH, rightIH,
      emit_emit, String.append_assoc]

theorem write_joinCondition (formula : Formula) :
    (formula.joinCondition.write : Writer (Context mode) Unit) = emit (formula.text .bare) := by
  induction formula with
  | test left right =>
    simp [joinCondition, JoinCondition.write, Column.write, writeAsName, text,
      ComparisonForm.around, emit_emit, String.append_assoc]
  | joined left connective right leftIH rightIH =>
    simp [joinCondition, JoinCondition.write, text, leftIH, rightIH, emit_emit,
      String.append_assoc]

/-! ## Tokens -/

/-- The lexemes of the formula's text. -/
def lexemes (form : ComparisonForm) : Formula → List Lexeme
  | test left right =>
    form.around Lexeme.enclose [left.lexeme, ⟨.equals, "="⟩, right.lexeme]
  | joined left connective right =>
    Lexeme.enclose (left.lexemes form ++ connective.keyword.lexeme :: right.lexemes form)

end Formula

/-! ## What is spelled -/

open Lexer (EndsWord)

namespace Spells

variable {characters : List Char} {lexemes : List Lexeme}

theorem ofWord (word : Word) (spells : Spells characters lexemes)
    (endsWord : EndsWord characters) :
    Spells (word.text.toList ++ characters) (word.lexeme :: lexemes) := by
  have spellsWord := Spells.word word.toList_ne_nil word.inWord spells endsWord
  rw [wordKind, word.noKeyword] at spellsWord
  exact spellsWord

theorem opening (spells : Spells characters lexemes) :
    Spells ('(' :: characters) (⟨.openParenthesis, "("⟩ :: lexemes) :=
  spells.mark (by decide) (by decide)

theorem closing (spells : Spells characters lexemes) :
    Spells (')' :: characters) (⟨.closeParenthesis, ")"⟩ :: lexemes) :=
  spells.mark (by decide) (by decide)

theorem equals (spells : Spells characters lexemes) :
    Spells ('=' :: characters) (⟨.equals, "="⟩ :: lexemes) :=
  spells.mark (by decide) (by decide)

theorem comparison (left right : Word) (spells : Spells characters lexemes)
    (endsWord : EndsWord characters) :
    Spells (left.text.toList ++ ' ' :: '=' :: ' ' :: (right.text.toList ++ characters))
      (left.lexeme :: ⟨.equals, "="⟩ :: right.lexeme :: lexemes) := by
  have spellsRight := spells.ofWord right endsWord
  exact spellsRight.blank.equals.blank.ofWord left (Lexer.endsWord_blank _)

end Spells

theorem Connective.spelling_keyword (connective : Connective) :
    connective.keyword.spelling = connective.text := by
  cases connective <;> rfl

/-- The text of a formula spells its lexemes, in front of a text that goes on with no word. -/
theorem Formula.spells (form : ComparisonForm) (formula : Formula) {characters : List Char}
    {lexemes : List Lexeme} (following : Spells characters lexemes)
    (endsWord : EndsWord characters) :
    Spells ((formula.text form).toList ++ characters) (formula.lexemes form ++ lexemes) := by
  induction formula generalizing characters lexemes with
  | test left right =>
    cases form with
    | bare =>
      have spells := following.comparison left right endsWord
      simpa [text, Formula.lexemes, ComparisonForm.around] using spells
    | enclosed =>
      have spells := following.closing.comparison left right (Lexer.endsWord_closing characters)
      simpa [text, Formula.lexemes, ComparisonForm.around, Lexeme.enclose] using spells.opening
  | joined left connective right leftIH rightIH =>
    have spellsRight := rightIH following.closing (Lexer.endsWord_closing characters)
    have spellsWord := spellsRight.blank.keyword connective.keyword (Lexer.endsWord_blank _)
    have spellsLeft := leftIH spellsWord.blank (Lexer.endsWord_blank _)
    rw [connective.spelling_keyword] at spellsLeft
    simpa [text, Formula.lexemes, Lexeme.enclose] using spellsLeft.opening

/-! ## What is derived -/

theorem Derives.of_comparison {tokens : List Token} {left right : Word}
    (spelled : tokens.map Token.lexeme = [left.lexeme, ⟨.equals, "="⟩, right.lexeme]) :
    Derives .group tokens (.test left.text right.text) := by
  obtain ⟨leftToken, rest, rfl, spelledLeft, spelled⟩ := List.map_eq_cons_iff.mp spelled
  obtain ⟨equals, rest, rfl, spelledEquals, spelled⟩ := List.map_eq_cons_iff.mp spelled
  obtain ⟨rightToken, rfl, spelledRight⟩ := List.map_eq_singleton_iff.mp spelled
  have leftText : leftToken.text = left.text := congrArg Lexeme.text spelledLeft
  have rightText : rightToken.text = right.text := congrArg Lexeme.text spelledRight
  rw [← leftText, ← rightText]
  exact .test (congrArg Lexeme.kind spelledLeft) (congrArg Lexeme.kind spelledEquals)
    (congrArg Lexeme.kind spelledRight)

theorem Derives.of_enclosed {tokens : List Token} {inner : List Lexeme} {phrase : Phrase}
    (spelled : tokens.map Token.lexeme = Lexeme.enclose inner)
    (inside : ∀ tokens, tokens.map Token.lexeme = inner → Derives .condition tokens phrase) :
    Derives .group tokens (.enclosed phrase) := by
  obtain ⟨opening, rest, rfl, spelledOpening, spelled⟩ := List.map_eq_cons_iff.mp spelled
  obtain ⟨innerTokens, last, rfl, spelledInner, spelled⟩ := List.map_eq_append_iff.mp spelled
  obtain ⟨closing, rfl, spelledClosing⟩ := List.map_eq_singleton_iff.mp spelled
  exact .enclosed (congrArg Lexeme.kind spelledOpening) (inside innerTokens spelledInner)
    (congrArg Lexeme.kind spelledClosing)

/-- Tokens that say the lexemes of a formula derive its phrase. -/
theorem Formula.derives (form : ComparisonForm) (formula : Formula) {tokens : List Token}
    (spelled : tokens.map Token.lexeme = formula.lexemes form) :
    Derives .group tokens (formula.phrase form) := by
  induction formula generalizing tokens with
  | test left right =>
    cases form with
    | bare => exact .of_comparison spelled
    | enclosed =>
      apply Derives.of_enclosed spelled
      intro inner spelledInner
      exact .single (.of_comparison spelledInner)
  | joined left connective right leftIH rightIH =>
    apply Derives.of_enclosed spelled
    intro inner spelledInner
    obtain ⟨leftTokens, rest, rfl, spelledLeft, spelled⟩ :=
      List.map_eq_append_iff.mp spelledInner
    obtain ⟨word, rightTokens, rfl, spelledWord, spelledRight⟩ := List.map_eq_cons_iff.mp spelled
    exact .joined (.single (leftIH spelledLeft)) (congrArg Lexeme.kind spelledWord)
      (rightIH spelledRight)

end SqlTree
