import SqlTree.Proofs.Token.Cutting

/-!
# What a text spells

A text spells a sequence of lexemes if the lexer cuts it into tokens that say them, wherever it
stands and whatever follows, as long as the last word of the text ends with the text.  Texts are put
together from the back: a blank, a mark or a word in front of a text that is spelled already.
-/

namespace SqlTree

/-- What a token says, apart from the place where it stands. -/
structure Lexeme where
  kind : TokenKind
  text : String
  deriving DecidableEq, Repr

def Token.lexeme (token : Token) : Lexeme :=
  ⟨token.kind, token.text⟩

/-- A keyword in upper case. -/
def Keyword.lexeme (keyword : Keyword) : Lexeme :=
  ⟨.keyword keyword, keyword.spelling⟩

open Lexer (EndsWord Cuts)

/-- The text is cut into tokens that say the lexemes, unless a word goes on behind it. -/
def Spells (characters : List Char) (lexemes : List Lexeme) : Prop :=
  ∀ rest offset, EndsWord rest → ∃ tokens, tokens.map Token.lexeme = lexemes ∧
    Cuts ⟨characters ++ rest, offset, false⟩ tokens
      ⟨rest, offset + byteLength characters, false⟩

namespace Spells

theorem nil : Spells [] [] := by
  intro rest offset ends
  exact ⟨[], rfl, rfl⟩

theorem blank {characters : List Char} {lexemes : List Lexeme}
    (spells : Spells characters lexemes) : Spells (' ' :: characters) lexemes := by
  intro rest offset ends
  obtain ⟨tokens, spelled, cuts⟩ := spells rest (offset + 1) ends
  have cutsBlank := Lexer.cuts_blank (characters ++ rest) offset false
  have blankSize : ' '.utf8Size = 1 := rfl
  refine ⟨tokens, spelled, ?_⟩
  rw [byteLength_cons, blankSize, ← Nat.add_assoc]
  exact cutsBlank.trans cuts

theorem mark {mark : Char} (noWord : isWordCharacter mark = false)
    (visible : Lexer.isLayout false mark = false) {characters : List Char}
    {lexemes : List Lexeme} (spells : Spells characters lexemes) :
    Spells (mark :: characters) (⟨punctuationKind mark, punctuationText mark⟩ :: lexemes) := by
  intro rest offset ends
  obtain ⟨tokens, spelled, cuts⟩ := spells rest (offset + mark.utf8Size) ends
  have cutsMark := Lexer.cuts_mark noWord visible (characters ++ rest) offset
  refine ⟨⟨punctuationKind mark, punctuationText mark, ⟨offset, offset + mark.utf8Size⟩⟩ :: tokens,
    ?_, ?_⟩
  · rw [List.map_cons, spelled]
    rfl
  · rw [byteLength_cons, ← Nat.add_assoc]
    exact cutsMark.trans cuts

theorem word {word : String} (nonempty : word.toList ≠ [])
    (inWord : ∀ character ∈ word.toList, isWordCharacter character = true)
    {characters : List Char} {lexemes : List Lexeme} (spells : Spells characters lexemes)
    (endsWord : EndsWord characters) :
    Spells (word.toList ++ characters) (⟨wordKind word, word⟩ :: lexemes) := by
  intro rest offset ends
  obtain ⟨tokens, spelled, cuts⟩ := spells rest (offset + byteLength word.toList) ends
  have cutsWord := Lexer.cuts_word nonempty inWord (endsWord.append ends) offset false
  rw [String.ofList_toList] at cutsWord
  refine ⟨⟨wordKind word, word, ⟨offset, offset + byteLength word.toList⟩⟩ :: tokens, ?_, ?_⟩
  · rw [List.map_cons, spelled]
    rfl
  · rw [List.append_assoc, byteLength_append, ← Nat.add_assoc]
    exact cutsWord.trans cuts

/-- The tokens of a whole text say what it spells. -/
theorem ofText {text : String} {lexemes : List Lexeme} (spells : Spells text.toList lexemes) :
    (TokenStream.ofText text).ahead.map Token.lexeme = lexemes := by
  obtain ⟨tokens, spelled, cuts⟩ := spells [] 0 Lexer.endsWord_nil
  rw [List.append_nil] at cuts
  have tokensEq : (TokenStream.ofText text).ahead = tokens := by
    unfold TokenStream.ofText Lexer.ofText
    rw [cuts, Lexer.stream_nil]
    exact List.append_nil tokens
  rw [tokensEq, spelled]

end Spells

/-! ## Keywords -/

namespace Keyword

theorem lookup_spelling (keyword : Keyword) : lookup keyword.spelling = some keyword := by
  cases keyword <;> decide

theorem wordKind_spelling (keyword : Keyword) :
    wordKind keyword.spelling = .keyword keyword := by
  rw [wordKind, lookup_spelling]

theorem spelling_ne_nil (keyword : Keyword) : keyword.spelling.toList ≠ [] := by
  cases keyword <;> decide

theorem isWordCharacter_of_mem_spelling (keyword : Keyword) :
    ∀ character ∈ keyword.spelling.toList, isWordCharacter character = true := by
  have inWord : keyword.spelling.toList.all isWordCharacter = true := by
    cases keyword <;> decide
  exact List.all_eq_true.mp inWord

end Keyword

theorem Spells.keyword (keyword : Keyword) {characters : List Char} {lexemes : List Lexeme}
    (spells : Spells characters lexemes) (endsWord : EndsWord characters) :
    Spells (keyword.spelling.toList ++ characters) (keyword.lexeme :: lexemes) := by
  have spellsWord :=
    Spells.word keyword.spelling_ne_nil keyword.isWordCharacter_of_mem_spelling spells endsWord
  rw [keyword.wordKind_spelling] at spellsWord
  exact spellsWord

end SqlTree
