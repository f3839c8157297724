import Mathlib.Data.List.Chain
import SqlTree.Proofs.Token.Tiling

/-!
# Atoms that are laid out

A text can be composed of atoms: words, punctuation marks and characters without a meaning.  They
stand in order with layout before, between and behind them, and the layout may be left out except
between two words.  The lexer finds the atoms again, each with its category and at its place.
-/

namespace SqlTree

open Lexer (EndsWord Cuts)

/-! ## Atoms -/

/-- A character that is a token with a category of its own. -/
inductive Punctuation where
  | asterisk
  | equals
  | semicolon
  | comma
  | colon
  | opening
  | closing
  deriving DecidableEq, Repr

namespace Punctuation

def all : List Punctuation :=
  [asterisk, equals, semicolon, comma, colon, opening, closing]

def character : Punctuation → Char
  | asterisk => '*'
  | equals => '='
  | semicolon => ';'
  | comma => ','
  | colon => ':'
  | opening => '('
  | closing => ')'

def kind : Punctuation → TokenKind
  | asterisk => .asterisk
  | equals => .equals
  | semicolon => .semicolon
  | comma => .comma
  | colon => .colon
  | opening => .openParenthesis
  | closing => .closeParenthesis

end Punctuation

/-- The characters that may stand between atoms. -/
def layoutCharacters : List Char :=
  [' ', '\t', '\r', '\n']

theorem isLayout_iff_mem_layoutCharacters (character : Char) :
    Lexer.isLayout false character = true ↔ character ∈ layoutCharacters := by
  simp [isLayout_iff, layoutCharacters]

/-- A character that is neither layout nor punctuation, and no part of a word. -/
structure IsMeaningless (character : Char) : Prop where
  visible : character ∉ layoutCharacters
  noWord : isWordCharacter character = false
  noPunctuation : character ∉ Punctuation.all.map Punctuation.character

/-- What a text is composed of. -/
inductive Atom where
  | word (characters : List Char) (nonempty : characters ≠ [])
      (inWord : ∀ character ∈ characters, isWordCharacter character = true)
  | punctuation (mark : Punctuation)
  | other (character : Char) (meaningless : IsMeaningless character)

namespace Atom

def characters : Atom → List Char
  | word characters _ _ => characters
  | punctuation mark => [mark.character]
  | other character _ => [character]

def IsWord : Atom → Prop
  | word _ _ _ => True
  | _ => False

/-- A word is a keyword if it spells one, in any mixture of cases, and a literal otherwise. -/
def kind : Atom → TokenKind
  | word characters _ _ =>
    match Keyword.lookup (String.ofList characters) with
    | some keyword => .keyword keyword
    | none => .literal
  | punctuation mark => mark.kind
  | other _ _ => .illegal

/-- The token that says the atom behind the other characters. -/
def token (before : List Char) (atom : Atom) : Token :=
  ⟨atom.kind, String.ofList atom.characters,
    ⟨byteLength before, byteLength (before ++ atom.characters)⟩⟩

/-- A character that is neither layout nor part of a word is cut off as an atom. -/
theorem cuts_single {character : Char} {atom : Atom} (noWord : isWordCharacter character = false)
    (visible : character ∉ layoutCharacters) (single : atom.characters = [character])
    (kindEq : atom.kind = punctuationKind character) (before rest : List Char) :
    Cuts ⟨atom.characters ++ rest, byteLength before, false⟩ [atom.token before]
      ⟨rest, byteLength (before ++ atom.characters), false⟩ := by
  have noLayout : Lexer.isLayout false character = false := by
    rw [← Bool.not_eq_true, isLayout_iff_mem_layoutCharacters]
    exact visible
  have noLineFeed : (character == '\n') = false := by
    apply beq_false_of_ne
    rintro rfl
    exact visible (by decide)
  have cutsMark := Lexer.cuts_mark noWord noLayout rest (byteLength before)
  rw [punctuationText, noLineFeed, if_neg (by simp), String.singleton_eq_ofList] at cutsMark
  rw [token, kindEq, single, byteLength_append]
  exact cutsMark

/-- An atom is cut off as a whole, unless it is a word that goes on behind it. -/
theorem cuts (atom : Atom) {rest : List Char} (ends : atom.IsWord → EndsWord rest)
    (before : List Char) :
    Cuts ⟨atom.characters ++ rest, byteLength before, false⟩ [atom.token before]
      ⟨rest, byteLength (before ++ atom.characters), false⟩ := by
  cases atom with
  | word characters nonempty inWord =>
    have cutsWord := Lexer.cuts_word nonempty inWord (ends trivial) (byteLength before) false
    rw [← byteLength_append] at cutsWord
    exact cutsWord
  | punctuation mark =>
    have noWord : isWordCharacter mark.character = false := by cases mark <;> decide
    have visible : mark.character ∉ layoutCharacters := by cases mark <;> decide
    have kindEq : (punctuation mark).kind = punctuationKind mark.character := by
      cases mark <;> rfl
    exact cuts_single noWord visible rfl kindEq before rest
  | other character meaningless =>
    have illegal : punctuationKind character = .illegal := by
      rw [punctuationKind_eq_illegal_iff, List.mem_cons, not_or]
      exact ⟨fun lineFeed => meaningless.visible (by simp [lineFeed, layoutCharacters]),
        meaningless.noPunctuation⟩
    have kindEq : (other character meaningless).kind = punctuationKind character := illegal.symm
    exact cuts_single meaningless.noWord meaningless.visible rfl kindEq before rest

/-- No word goes on with an atom that is none. -/
theorem endsWord_of_not_isWord {atom : Atom} (noWord : ¬ atom.IsWord) (rest : List Char) :
    EndsWord (atom.characters ++ rest) := by
  cases atom with
  | word characters nonempty inWord => exact absurd trivial noWord
  | punctuation mark =>
    have noWordCharacter : isWordCharacter mark.character = false := by cases mark <;> decide
    exact Lexer.endsWord_cons noWordCharacter rest
  | other character meaningless => exact Lexer.endsWord_cons meaningless.noWord rest

end Atom

/-! ## Layouts -/

/-- An atom and the layout in front of it. -/
structure PlacedAtom where
  gap : List Char
  layout : ∀ character ∈ gap, character ∈ layoutCharacters
  atom : Atom

/-- Two words do not touch. -/
def PlacedAtom.Apart (first second : PlacedAtom) : Prop :=
  first.atom.IsWord → second.atom.IsWord → second.gap ≠ []

/-- Atoms in order, with layout before, between and behind them. -/
structure Layout where
  placed : List PlacedAtom
  apart : placed.IsChain PlacedAtom.Apart
  last : List Char
  layout : ∀ character ∈ last, character ∈ layoutCharacters

namespace PlacedAtom

/-- The text of the atoms, with the last gap behind them. -/
def characters (last : List Char) : List PlacedAtom → List Char
  | [] => last
  | first :: rest => first.gap ++ (first.atom.characters ++ characters last rest)

/-- The tokens of the atoms, which are laid out behind the other characters. -/
def tokens (before : List Char) : List PlacedAtom → List Token
  | [] => []
  | first :: rest =>
    first.atom.token (before ++ first.gap)
      :: tokens (before ++ first.gap ++ first.atom.characters) rest

theorem isLayout_of_mem {gap : List Char}
    (layout : ∀ character ∈ gap, character ∈ layoutCharacters) :
    ∀ character ∈ gap, Lexer.isLayout false character = true :=
  fun character member =>
    (isLayout_iff_mem_layoutCharacters character).mpr (layout character member)

theorem endsWord_layout {gap : List Char}
    (layout : ∀ character ∈ gap, character ∈ layoutCharacters) : EndsWord gap := by
  intro character first
  exact isWordCharacter_of_isLayout
    (isLayout_of_mem layout character (List.mem_of_mem_head? first))

variable {last : List Char}

/-- A word ends where further atoms are placed, because no word touches it. -/
theorem endsWord_characters {first : PlacedAtom} {rest : List PlacedAtom}
    (apart : (first :: rest).IsChain Apart)
    (layout : ∀ character ∈ last, character ∈ layoutCharacters) (isWord : first.atom.IsWord) :
    EndsWord (characters last rest) := by
  cases rest with
  | nil => exact endsWord_layout layout
  | cons second others =>
    have apartHere : first.Apart second := (List.isChain_cons_cons.mp apart).1
    by_cases secondIsWord : second.atom.IsWord
    · exact Lexer.endsWord_append_of_layout (apartHere isWord secondIsWord)
        (isLayout_of_mem second.layout) _
    · exact (endsWord_layout second.layout).append
        (Atom.endsWord_of_not_isWord secondIsWord _)

/-- The atoms are cut off one after the other, each behind its gap. -/
theorem stream_characters {placed : List PlacedAtom} (apart : placed.IsChain Apart)
    (layout : ∀ character ∈ last, character ∈ layoutCharacters) (before : List Char) :
    Lexer.stream ⟨characters last placed, byteLength before, false⟩ =
      ⟨tokens before placed, byteLength (before ++ characters last placed)⟩ := by
  induction placed generalizing before with
  | nil =>
    have cutsLast := Lexer.cuts_layout (isLayout_of_mem layout) [] (byteLength before)
    rw [List.append_nil] at cutsLast
    rw [characters, cutsLast, Lexer.stream_nil, byteLength_append]
    rfl
  | cons first rest ih =>
    have cutsGap := Lexer.cuts_layout (isLayout_of_mem first.layout)
      (first.atom.characters ++ characters last rest) (byteLength before)
    have cutsAtom := first.atom.cuts (endsWord_characters apart layout) (before ++ first.gap)
    rw [← byteLength_append] at cutsGap
    rw [characters, cutsGap.trans cutsAtom, ih apart.tail]
    simp [TokenStream.prepend, tokens]

end PlacedAtom

namespace Layout

def text (layout : Layout) : String :=
  String.ofList (PlacedAtom.characters layout.last layout.placed)

/-- The tokens of the atoms, each at the place where its atom is laid out. -/
def tokens (layout : Layout) : List Token :=
  PlacedAtom.tokens [] layout.placed

end Layout

/-- However atoms are laid out, the tokens of the text are exactly the atoms in their order, each
with its category and the bytes it stands at, and the end of the input behind them. -/
theorem Lexer.tokens_of_layout (layout : Layout) :
    (ofText layout.text false).stream.toList =
      layout.tokens ++
        [⟨.endOfInput, "", ⟨layout.text.utf8ByteSize, layout.text.utf8ByteSize⟩⟩] := by
  have streamEq := PlacedAtom.stream_characters layout.apart layout.layout []
  have lengthEq : byteLength ([] ++ PlacedAtom.characters layout.last layout.placed) =
      layout.text.utf8ByteSize := by
    rw [List.nil_append, ← byteLength_toList, Layout.text, String.toList_ofList]
  rw [lengthEq] at streamEq
  rw [ofText, Layout.text, String.toList_ofList]
  exact congrArg TokenStream.toList streamEq

end SqlTree
