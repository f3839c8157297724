import SqlTree.Proofs.Render.Values
import SqlTree.Proofs.Token.Leading

/-!
# The beginnings of rendered texts

As long as a script writes texts alone, what it writes does not depend on the mode.  So the first
tokens of a rendered text are known as soon as the beginning of its script is, provided that the
script goes on with something that is set apart from the last word.
-/

namespace SqlTree

open Lexer (EndsWord)

theorem Piece.toList_textFrom_texts (mark : Nat → Scalar → String) (bound : Nat)
    (texts : List String) (rest : List Piece) :
    (textFrom mark bound (texts.map .text ++ rest)).toList =
      texts.flatMap String.toList ++ (textFrom mark bound rest).toList := by
  induction texts with
  | nil => rfl
  | cons content texts ih =>
    simp only [List.map_cons, List.cons_append, textFrom, String.toList_append, ih,
      List.flatMap_cons, List.append_assoc]

namespace Script

theorem violation_append {first second : Script} :
    (first ++ second).violation = none ↔ first.violation = none ∧ second.violation = none := by
  obtain ⟨pieces, violation⟩ := first
  change (append _ _).violation = none ↔ _
  cases violation <;> simp [append]

theorem pieces_append {first : Script} (unbroken : first.violation = none) (second : Script) :
    (first ++ second).pieces = first.pieces ++ second.pieces := by
  obtain ⟨pieces, violation⟩ := first
  subst unbroken
  rfl

/-! ## Texts alone -/

/-- The script is texts alone, which make up the characters. -/
def Writes (script : Script) (characters : List Char) : Prop :=
  script.violation = none ∧ ∃ texts : List String,
    script.pieces = texts.map .text ∧ texts.flatMap String.toList = characters

theorem writes_empty : empty.Writes [] :=
  ⟨rfl, [], rfl, rfl⟩

theorem writes_text (content : String) : (text content).Writes content.toList :=
  ⟨rfl, [content], rfl, List.append_nil _⟩

theorem Writes.append {first second : Script} {firstCharacters secondCharacters : List Char}
    (writesFirst : first.Writes firstCharacters) (writesSecond : second.Writes secondCharacters) :
    (first ++ second).Writes (firstCharacters ++ secondCharacters) := by
  obtain ⟨firstUnbroken, firstTexts, firstPieces, rfl⟩ := writesFirst
  obtain ⟨secondUnbroken, secondTexts, secondPieces, rfl⟩ := writesSecond
  refine ⟨violation_append.mpr ⟨firstUnbroken, secondUnbroken⟩, firstTexts ++ secondTexts, ?_,
    List.flatMap_append⟩
  rw [pieces_append firstUnbroken, firstPieces, secondPieces, List.map_append]

/-! ## Openings -/

/-- Unless it breaks off, the script opens with a text that spells the lexemes, whatever follows,
and goes on with the rest. -/
def Opens (script : Script) (lexemes : List Lexeme) (rest : Script) : Prop :=
  script.violation = none → rest.violation = none ∧ ∃ texts : List String,
    script.pieces = texts.map .text ++ rest.pieces ∧
      Leads (texts.flatMap String.toList) lexemes

namespace Opens

variable {script rest : Script} {lexemes : List Lexeme}

theorem refl (script : Script) : script.Opens [] script :=
  fun unbroken => ⟨unbroken, [], rfl, .nil⟩

theorem trans {middle : Script} {further : List Lexeme} (opens : script.Opens lexemes middle)
    (opensFurther : middle.Opens further rest) : script.Opens (lexemes ++ further) rest := by
  intro unbroken
  obtain ⟨middleUnbroken, texts, pieces, leads⟩ := opens unbroken
  obtain ⟨restUnbroken, furtherTexts, furtherPieces, furtherLeads⟩ := opensFurther middleUnbroken
  refine ⟨restUnbroken, texts ++ furtherTexts, ?_, ?_⟩
  · rw [pieces, furtherPieces, List.map_append, List.append_assoc]
  · rw [List.flatMap_append]
    exact leads.append furtherLeads

theorem append (opens : script.Opens lexemes rest) (further : Script) :
    (script ++ further).Opens lexemes (rest ++ further) := by
  intro unbroken
  obtain ⟨scriptUnbroken, furtherUnbroken⟩ := violation_append.mp unbroken
  obtain ⟨restUnbroken, texts, pieces, leads⟩ := opens scriptUnbroken
  refine ⟨violation_append.mpr ⟨restUnbroken, furtherUnbroken⟩, texts, ?_, leads⟩
  rw [pieces_append scriptUnbroken, pieces_append restUnbroken, pieces, List.append_assoc]

theorem of_writes {first : Script} {characters : List Char} (writes : first.Writes characters)
    (leads : Leads characters lexemes) (rest : Script) : (first ++ rest).Opens lexemes rest := by
  intro unbroken
  obtain ⟨firstUnbroken, texts, pieces, rfl⟩ := writes
  refine ⟨(violation_append.mp unbroken).2, texts, ?_, leads⟩
  rw [pieces_append firstUnbroken, pieces]

theorem text {content : String} (leads : Leads content.toList lexemes) (rest : Script) :
    (Script.text content ++ rest).Opens lexemes rest :=
  of_writes (writes_text content) leads rest

theorem require (part : RequiredPart) (isEmpty : Bool) (rest : Script) :
    (Script.require part isEmpty ++ rest).Opens [] rest := by
  intro unbroken
  cases isEmpty with
  | true => cases unbroken
  | false => exact ⟨unbroken, [], rfl, .nil⟩

end Opens

/-! ## What is set apart -/

/-- The script begins with a text whose first character is not part of a word, or is nothing. -/
def SetApart (script : Script) : Prop :=
  ∀ piece ∈ script.pieces.head?, ∃ content : String, piece = .text content ∧
    ∃ first ∈ content.toList.head?, isWordCharacter first = false

namespace SetApart

theorem empty : Script.empty.SetApart := by
  intro piece first
  cases first

theorem text {content : String} (first : Char) (isFirst : first ∈ content.toList.head?)
    (noWord : isWordCharacter first = false) (rest : Script) :
    (Script.text content ++ rest).SetApart := by
  intro piece isPiece
  rw [pieces_append rfl] at isPiece
  cases isPiece
  exact ⟨content, rfl, first, isFirst, noWord⟩

theorem append {first second : Script} (firstApart : first.SetApart)
    (secondApart : second.SetApart) : (first ++ second).SetApart := by
  obtain ⟨pieces, violation⟩ := first
  cases violation with
  | some violation => exact firstApart
  | none =>
    cases pieces with
    | nil => exact secondApart
    | cons piece pieces => exact firstApart

theorem clause (isAbsent : Bool) (script : Script) : (Script.clause isAbsent script).SetApart := by
  cases isAbsent with
  | true => exact .empty
  | false => exact .text ' ' (by decide) (by decide) script

theorem endsWord {script : Script} (apart : script.SetApart) (mark : Nat → Scalar → String)
    (bound : Nat) : EndsWord (Piece.textFrom mark bound script.pieces).toList := by
  obtain ⟨pieces, violation⟩ := script
  cases pieces with
  | nil => exact Lexer.endsWord_nil
  | cons piece pieces =>
    obtain ⟨content, rfl, first, isFirst, noWord⟩ := apart piece rfl
    obtain ⟨others, contentEq⟩ := List.head?_eq_some_iff.mp isFirst
    rw [Piece.textFrom, String.toList_append, contentEq]
    exact Lexer.endsWord_cons noWord _

end SetApart

end Script

namespace Node

variable {node : Node} {mode : RenderMode} {context : Context mode}

/-- What a rendered node leaves is what its script amounts to in the mode. -/
theorem eq_of_render (rendered : node.render mode = .ok context) :
    node.script.violation = none ∧ context =
      { sql := Piece.textFrom mode.mark 0 node.script.pieces
        arguments := mode.argumentsFrom 0 (Piece.boundValues node.script.pieces) } := by
  rw [render_eq] at rendered
  cases violation : node.script.violation with
  | some broken => simp [violation] at rendered
  | none =>
    simp only [violation] at rendered
    exact ⟨rfl, (Except.ok.inj rendered).symm⟩

theorem sql_eq_of_render (rendered : node.render mode = .ok context) :
    node.script.violation = none ∧ context.sql = Piece.textFrom mode.mark 0 node.script.pieces := by
  obtain ⟨unbroken, contextEq⟩ := eq_of_render rendered
  exact ⟨unbroken, congrArg Context.sql contextEq⟩

/-- A node whose script does not break off is rendered as its text in the mode. -/
theorem exists_render_of_unbroken (unbroken : node.script.violation = none) (mode : RenderMode) :
    ∃ context, node.render mode = .ok context ∧
      context.sql = Piece.textFrom mode.mark 0 node.script.pieces := by
  rw [render_eq, unbroken]
  exact ⟨_, rfl, rfl⟩

/-- The first tokens of a rendered node say what its script opens with. -/
theorem exists_tokens_of_opens (rendered : node.render mode = .ok context)
    {lexemes : List Lexeme} {rest : Script} (opens : node.script.Opens lexemes rest) :
    ∃ tokens behind, TokenStream.ofText context.sql = TokenStream.prepend tokens behind ∧
      tokens.map Token.lexeme = lexemes := by
  obtain ⟨unbroken, sqlEq⟩ := sql_eq_of_render rendered
  obtain ⟨-, texts, pieces, leads⟩ := opens unbroken
  apply (leads (Piece.textFrom mode.mark 0 rest.pieces).toList).exists_tokens
  rw [sqlEq, pieces, Piece.toList_textFrom_texts]

/-- Behind what the script opens with, the texts that it goes on with are cut by themselves, and so
is what is set apart from them. -/
theorem exists_stream_of_writes (rendered : node.render mode = .ok context)
    {lexemes further : List Lexeme} {first rest : Script} {characters : List Char}
    (opens : node.script.Opens lexemes (first ++ rest)) (writes : first.Writes characters)
    (spells : Spells characters further) (apart : rest.SetApart) :
    rest.violation = none ∧ ∃ tokens offset, TokenStream.ofText context.sql =
        TokenStream.prepend tokens
          (Lexer.stream ⟨(Piece.textFrom mode.mark 0 rest.pieces).toList, offset, false⟩) ∧
      tokens.map Token.lexeme = lexemes ++ further := by
  obtain ⟨unbroken, sqlEq⟩ := sql_eq_of_render rendered
  obtain ⟨allUnbroken, texts, pieces, leads⟩ := opens unbroken
  obtain ⟨firstUnbroken, firstTexts, firstPieces, rfl⟩ := writes
  refine ⟨(Script.violation_append.mp allUnbroken).2, ?_⟩
  have spellsAll := (leads _).append (spells.before (apart.endsWord mode.mark 0))
  apply spellsAll.exists_stream
  rw [sqlEq, pieces, Script.pieces_append firstUnbroken, firstPieces, Piece.toList_textFrom_texts,
    Piece.toList_textFrom_texts, List.append_assoc]

/-- A word that is set apart from what follows is a token behind what the script opens with. -/
theorem exists_tokens_of_opens_word (rendered : node.render mode = .ok context)
    {lexemes : List Lexeme} {word : Word} {rest : Script}
    (opens : node.script.Opens lexemes (.text word.text ++ rest)) (apart : rest.SetApart) :
    ∃ tokens behind, TokenStream.ofText context.sql = TokenStream.prepend tokens behind ∧
      tokens.map Token.lexeme = lexemes ++ [word.lexeme] := by
  obtain ⟨-, tokens, offset, streamEq, spelled⟩ :=
    exists_stream_of_writes rendered opens (Script.writes_text word.text) word.spells apart
  exact ⟨tokens, _, streamEq, spelled⟩

end Node

end SqlTree
