import SqlTree.Proofs.Parse.Formula

/-!
# Text in front of other text

What a text spells does not depend on what follows, unless a word goes on there.  A text that ends
behind its last word leads into any other text.  So the tokens of a long text are known as far as
its beginning is known, whatever the rest of it is.
-/

namespace SqlTree

open Lexer (EndsWord Cuts)

/-- In front of the rest, the text is cut into tokens that say the lexemes. -/
def SpellsBefore (rest characters : List Char) (lexemes : List Lexeme) : Prop :=
  ∀ offset, ∃ tokens, tokens.map Token.lexeme = lexemes ∧
    Cuts ⟨characters ++ rest, offset, false⟩ tokens
      ⟨rest, offset + byteLength characters, false⟩

/-- Whatever follows, the text is cut into tokens that say the lexemes. -/
def Leads (characters : List Char) (lexemes : List Lexeme) : Prop :=
  ∀ rest, SpellsBefore rest characters lexemes

section Append

variable {first second rest : List Char} {firstLexemes secondLexemes : List Lexeme}

theorem SpellsBefore.append (spellsFirst : SpellsBefore (second ++ rest) first firstLexemes)
    (spellsSecond : SpellsBefore rest second secondLexemes) :
    SpellsBefore rest (first ++ second) (firstLexemes ++ secondLexemes) := by
  intro offset
  obtain ⟨firstTokens, firstSpelled, cutsFirst⟩ := spellsFirst offset
  obtain ⟨secondTokens, secondSpelled, cutsSecond⟩ := spellsSecond (offset + byteLength first)
  refine ⟨firstTokens ++ secondTokens, ?_, ?_⟩
  · rw [List.map_append, firstSpelled, secondSpelled]
  · rw [List.append_assoc, byteLength_append, ← Nat.add_assoc]
    exact cutsFirst.trans cutsSecond

theorem Spells.before (spells : Spells first firstLexemes) (endsWord : EndsWord rest) :
    SpellsBefore rest first firstLexemes :=
  fun offset => spells rest offset endsWord

theorem Spells.append (spellsFirst : Spells first firstLexemes)
    (spellsSecond : Spells second secondLexemes) (endsWord : EndsWord second) :
    Spells (first ++ second) (firstLexemes ++ secondLexemes) :=
  fun _ offset ends =>
    (spellsFirst.before (endsWord.append ends)).append (spellsSecond.before ends) offset

theorem Leads.append (leadsFirst : Leads first firstLexemes)
    (leadsSecond : Leads second secondLexemes) :
    Leads (first ++ second) (firstLexemes ++ secondLexemes) :=
  fun rest => (leadsFirst (second ++ rest)).append (leadsSecond rest)

theorem Leads.spells (leads : Leads first firstLexemes) : Spells first firstLexemes :=
  fun rest offset _ => leads rest offset

theorem Leads.append_spells (leadsFirst : Leads first firstLexemes)
    (spellsSecond : Spells second secondLexemes) :
    Spells (first ++ second) (firstLexemes ++ secondLexemes) :=
  fun rest offset ends =>
    (leadsFirst (second ++ rest)).append (spellsSecond.before ends) offset

theorem Leads.nil : Leads [] [] :=
  fun _ _ => ⟨[], rfl, rfl⟩

/-- A blank ends the last word of a text. -/
theorem Spells.leads_blank (spells : Spells first firstLexemes) :
    Leads (first ++ [' ']) firstLexemes := by
  intro rest
  have blank : SpellsBefore rest [' '] [] :=
    fun offset => ⟨[], rfl, Lexer.cuts_blank rest offset false⟩
  have leads := (spells.before (Lexer.endsWord_blank rest)).append blank
  rw [List.append_nil] at leads
  exact leads

/-- An opening parenthesis ends the last word of a text. -/
theorem Spells.leads_opening (spells : Spells first firstLexemes) :
    Leads (first ++ ['(']) (firstLexemes ++ [⟨.openParenthesis, "("⟩]) := by
  intro rest
  have mark : SpellsBefore rest ['('] [⟨.openParenthesis, "("⟩] :=
    fun offset => ⟨_, rfl, Lexer.cuts_mark (by decide) (by decide) rest offset⟩
  exact (spells.before (Lexer.endsWord_cons (by decide) rest)).append mark

end Append

/-! ## Words -/

/-- The text is a word and no keyword. -/
def IsWord (text : String) : Prop :=
  text ≠ "" ∧ text.toList.all isWordCharacter = true ∧ Keyword.lookup text = none

instance (text : String) : Decidable (IsWord text) :=
  inferInstanceAs (Decidable (_ ∧ _ ∧ _))

def IsWord.word {text : String} (isWord : IsWord text) : Word :=
  ⟨text, isWord.1, List.all_eq_true.mp isWord.2.1, isWord.2.2⟩

theorem Word.spells (word : Word) : Spells word.text.toList [word.lexeme] := by
  have spells := Spells.nil.ofWord word Lexer.endsWord_nil
  rw [List.append_nil] at spells
  exact spells

theorem Keyword.spells (keyword : Keyword) :
    Spells keyword.spelling.toList [keyword.lexeme] := by
  have spells := Spells.nil.keyword keyword Lexer.endsWord_nil
  rw [List.append_nil] at spells
  exact spells

/-- A keyword and the blank behind it. -/
theorem Keyword.leads (keyword : Keyword) :
    Leads (keyword.spelling ++ " ").toList [keyword.lexeme] := by
  rw [String.toList_append]
  exact keyword.spells.leads_blank

/-- The text is the words with blanks between them. -/
inductive SpacedWords : (characters : List Char) → List Word → Prop where
  | nil : SpacedWords [] []
  | blank {characters : List Char} {words : List Word} (spaced : SpacedWords characters words) :
    SpacedWords (' ' :: characters) words
  | word {characters : List Char} {words : List Word} (word : Word)
      (spaced : SpacedWords characters words) (ends : EndsWord characters) :
    SpacedWords (word.text.toList ++ characters) (word :: words)

theorem SpacedWords.single (word : Word) : SpacedWords word.text.toList [word] := by
  have spaced := SpacedWords.word word .nil Lexer.endsWord_nil
  rw [List.append_nil] at spaced
  exact spaced

theorem SpacedWords.spells {characters : List Char} {words : List Word}
    (spaced : SpacedWords characters words) : Spells characters (words.map Word.lexeme) := by
  induction spaced with
  | nil => exact .nil
  | blank spaced ih => exact ih.blank
  | word word spaced ends ih => exact ih.ofWord word ends

/-! ## Tokens of a text -/

/-- The first tokens of a text are those that its beginning spells, and the rest of its tokens are
those that its rest is cut into. -/
theorem SpellsBefore.exists_stream {text : String} {characters rest : List Char}
    {lexemes : List Lexeme} (spells : SpellsBefore rest characters lexemes)
    (textEq : text.toList = characters ++ rest) :
    ∃ tokens offset, TokenStream.ofText text =
        TokenStream.prepend tokens (Lexer.stream ⟨rest, offset, false⟩) ∧
      tokens.map Token.lexeme = lexemes := by
  obtain ⟨tokens, spelled, cuts⟩ := spells 0
  refine ⟨tokens, 0 + byteLength characters, ?_, spelled⟩
  rw [TokenStream.ofText, Lexer.ofText, textEq]
  exact cuts

theorem SpellsBefore.exists_tokens {text : String} {characters rest : List Char}
    {lexemes : List Lexeme} (spells : SpellsBefore rest characters lexemes)
    (textEq : text.toList = characters ++ rest) :
    ∃ tokens behind, TokenStream.ofText text = TokenStream.prepend tokens behind ∧
      tokens.map Token.lexeme = lexemes := by
  obtain ⟨tokens, offset, streamEq, spelled⟩ := spells.exists_stream textEq
  exact ⟨tokens, _, streamEq, spelled⟩

end SqlTree
