import SqlTree.Text.Blank
import SqlTree.Token.Lexer

/-!
# Tokens of a text

Every token of a text comes from one scan of the lexer.  So none of them is the end of the input,
and the text of a literal is not blank: it begins with a word character, which white space is not.
-/

namespace SqlTree

namespace Text

def areDisjoint (first second : List CodeRange) : Bool :=
  first.all fun range => second.all fun other => range.2 < other.1 || other.2 < range.1

theorem inRanges_of_areDisjoint {first second : List CodeRange}
    (disjoint : areDisjoint first second = true) {character : Char}
    (inFirst : inRanges first character = true) : inRanges second character = false := by
  obtain ⟨range, rangeMem, within⟩ := List.any_eq_true.mp inFirst
  have apart := List.all_eq_true.mp disjoint range rangeMem
  apply List.any_eq_false.mpr
  intro other otherMem
  have apartFromOther := List.all_eq_true.mp apart other otherMem
  simp only [Bool.and_eq_true, Bool.or_eq_true, decide_eq_true_eq] at *
  omega

theorem areDisjoint_alphanumericRanges_spaceRanges :
    areDisjoint alphanumericRanges spaceRanges = true := by
  decide +kernel

/-- White space holds no letters and no numbers. -/
theorem isSpace_of_isAlphanumeric {character : Char} (letter : isAlphanumeric character = true) :
    isSpace character = false := by
  unfold isAlphanumeric at letter
  split at letter
  · next ascii =>
    have amongAscii : ∀ code < 128,
        (Char.ofNat code).isAlphanum = true → isSpace (Char.ofNat code) = false := by
      decide +kernel
    have spelled := amongAscii character.toNat ascii
    rw [Char.ofNat_toNat] at spelled
    exact spelled letter
  · exact inRanges_of_areDisjoint areDisjoint_alphanumericRanges_spaceRanges letter

end Text

theorem isSpace_of_isWordCharacter {character : Char}
    (inWord : isWordCharacter character = true) : Text.isSpace character = false := by
  simp only [isWordCharacter, Bool.or_eq_true, beq_iff_eq] at inWord
  rcases inWord with (letter | rfl) | rfl
  · exact Text.isSpace_of_isAlphanumeric letter
  · decide
  · decide

namespace Lexer

/-- Every token of a stream comes from a scan that was not at the end of the text. -/
theorem exists_scan_of_mem {lexer : Lexer} {token : Token}
    (member : token ∈ lexer.stream.ahead) :
    ∃ position : Lexer, position.scan.1 = token ∧ token.isEnd = false := by
  fun_induction stream lexer with
  | case1 lexer atEnd => cases member
  | case2 lexer unfinished ih =>
    rcases List.mem_cons.mp member with rfl | member
    · exact ⟨lexer.skipLayout, rfl, by simpa using unfinished⟩
    · exact ih member

theorem punctuationKind_ne_literal (character : Char) : punctuationKind character ≠ .literal := by
  unfold punctuationKind
  split <;> simp

/-- A literal is the word at the lexer's position, which begins with a word character. -/
theorem isBlank_of_scan {lexer : Lexer} (literal : lexer.scan.1.kind = .literal) :
    Text.isBlank lexer.scan.1.text = false := by
  obtain ⟨rest, offset, lineFeeds⟩ := lexer
  cases rest with
  | nil => cases literal
  | cons character following =>
    cases inWord : isWordCharacter character with
    | false =>
      simp only [scan, inWord] at literal
      exact absurd literal (punctuationKind_ne_literal character)
    | true =>
      simp only [scan, inWord, word]
      simp [Text.isBlank, inWord, isSpace_of_isWordCharacter inWord]

end Lexer

/-- No token marks the end of the input, and no literal is blank. -/
def ProperTokens (tokens : List Token) : Prop :=
  ∀ token ∈ tokens,
    token.isEnd = false ∧ (token.kind = .literal → Text.isBlank token.text = false)

theorem ProperTokens.of_append {first second : List Token}
    (proper : ProperTokens (first ++ second)) :
    ProperTokens second :=
  fun token member => proper token (List.mem_append_right first member)

theorem ProperTokens.of_append_left {first second : List Token}
    (proper : ProperTokens (first ++ second)) :
    ProperTokens first :=
  fun token member => proper token (List.mem_append_left second member)

theorem TokenStream.proper_ofText (text : String) : ProperTokens (ofText text).ahead := by
  intro token member
  obtain ⟨position, rfl, unfinished⟩ := Lexer.exists_scan_of_mem member
  exact ⟨unfinished, Lexer.isBlank_of_scan⟩

end SqlTree
