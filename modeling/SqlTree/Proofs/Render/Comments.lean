import Mathlib.Data.List.Basic
import SqlTree.Proofs.Render.PlainText

/-!
# Comments end where they should

The text of a comment cannot end the comment: between the marks of a comment every end of a comment
is broken by a blank, and neither the breaking nor the marks make a new one.  Nothing else of the
text is changed.
-/

namespace SqlTree

open Text (trimmed)

/-! ## Ends of comments -/

/-- An end of a comment begins with the character. -/
def BeginsCommentEnd (character : Char) (rest : List Char) : Prop :=
  character = '*' ∧ rest.head? = some '/'

/-- No end of a comment is among the characters. -/
def HasNoCommentEnd (characters : List Char) : Prop :=
  ¬ ['*', '/'] <:+: characters

theorem hasNoCommentEnd_nil : HasNoCommentEnd [] := by
  simp [HasNoCommentEnd]

theorem HasNoCommentEnd.cons {character : Char} {rest : List Char} (free : HasNoCommentEnd rest)
    (noEnd : ¬ BeginsCommentEnd character rest) : HasNoCommentEnd (character :: rest) := by
  intro holds
  rcases List.infix_cons_iff.mp holds with ⟨behind, here⟩ | later
  · obtain ⟨rfl, rfl⟩ := List.cons.inj here
    exact noEnd ⟨rfl, rfl⟩
  · exact free later

/-- Behind the only end of a comment there is nothing. -/
def EndsComment (characters : List Char) : Prop :=
  ∀ before after, characters = before ++ '*' :: '/' :: after → after = []

theorem endsComment_mark : EndsComment ['*', '/'] := by
  intro before after split
  have lengths := congrArg List.length split
  simp only [List.length_append, List.length_cons, List.length_nil] at lengths
  exact List.eq_nil_of_length_eq_zero (by omega)

theorem EndsComment.cons {character : Char} {rest : List Char} (ends : EndsComment rest)
    (noEnd : ¬ BeginsCommentEnd character rest) : EndsComment (character :: rest) := by
  intro before after split
  cases before with
  | nil =>
    obtain ⟨rfl, rfl⟩ := List.cons.inj split
    exact absurd ⟨rfl, rfl⟩ noEnd
  | cons first before =>
    obtain ⟨rfl, splitRest⟩ := List.cons.inj split
    exact ends before after splitRest

theorem EndsComment.cons_of_ne {character : Char} {rest : List Char} (ends : EndsComment rest)
    (noStar : character ≠ '*') : EndsComment (character :: rest) :=
  ends.cons fun begins => noStar begins.1

/-! ## Broken ends -/

theorem not_beginsCommentEnd {character : Char} {rest : List Char}
    (noEnd : ∀ others, character = '*' → rest = '/' :: others → False) :
    ¬ BeginsCommentEnd character rest := by
  rintro ⟨isStar, slashFirst⟩
  obtain ⟨others, restEq⟩ := List.head?_eq_some_iff.mp slashFirst
  exact noEnd others isStar restEq

/-- The first character stays, also in front of other characters. -/
theorem head?_withoutCommentEnds_append (characters behind : List Char) :
    (withoutCommentEnds characters ++ behind).head? = (characters ++ behind).head? := by
  fun_cases withoutCommentEnds characters <;> rfl

/-- In front of the mark at the end, no end of a comment is left. -/
theorem endsComment_withoutCommentEnds (characters : List Char) :
    EndsComment (withoutCommentEnds characters ++ [' ', '*', '/']) := by
  fun_induction withoutCommentEnds characters with
  | case1 rest ih =>
    have fromSlash : EndsComment ('/' :: _) := ih.cons_of_ne (by decide)
    have fromBlank : EndsComment (' ' :: '/' :: _) := fromSlash.cons_of_ne (by decide)
    exact fromBlank.cons fun begins => absurd begins.2 (by simp)
  | case2 character rest noEnd ih =>
    refine ih.cons fun ⟨isStar, slashFirst⟩ => ?_
    rw [head?_withoutCommentEnds_append] at slashFirst
    cases rest with
    | nil => simp at slashFirst
    | cons second others => exact not_beginsCommentEnd noEnd ⟨isStar, slashFirst⟩
  | case3 => exact endsComment_mark.cons_of_ne (by decide)

/-- The first part stands in front of the others and of what separates it from them. -/
theorem exists_intercalate_cons {Symbol : Type} (separator : List Symbol)
    (others : List (List Symbol)) :
    ∃ behind, ∀ first, separator.intercalate (first :: others) = first ++ behind := by
  cases others with
  | nil => exact ⟨[], fun first => by simp⟩
  | cons second others =>
    exact ⟨separator ++ separator.intercalate (second :: others), fun first => by simp⟩

/-- Between the ends of comments the characters stay the same, and only in these there is a blank
more. -/
theorem exists_parts_withoutCommentEnds (characters : List Char) :
    ∃ first others, (∀ part ∈ first :: others, HasNoCommentEnd part) ∧
      characters = ['*', '/'].intercalate (first :: others) ∧
      withoutCommentEnds characters = ['*', ' ', '/'].intercalate (first :: others) := by
  fun_induction withoutCommentEnds characters with
  | case1 rest ih =>
    obtain ⟨first, others, free, restEq, brokenEq⟩ := ih
    refine ⟨[], first :: others, List.forall_mem_cons.mpr ⟨hasNoCommentEnd_nil, free⟩, ?_, ?_⟩
    · rw [List.intercalate_cons_cons, ← restEq]
      rfl
    · rw [List.intercalate_cons_cons, ← brokenEq]
      rfl
  | case2 character rest noEnd ih =>
    obtain ⟨first, others, free, restEq, brokenEq⟩ := ih
    obtain ⟨firstFree, othersFree⟩ := List.forall_mem_cons.mp free
    obtain ⟨behind, joined⟩ := exists_intercalate_cons ['*', '/'] others
    obtain ⟨brokenBehind, brokenJoined⟩ := exists_intercalate_cons ['*', ' ', '/'] others
    rw [joined] at restEq
    rw [brokenJoined] at brokenEq
    have goesOn : ¬ BeginsCommentEnd character first := by
      rintro ⟨isStar, slashFirst⟩
      refine not_beginsCommentEnd noEnd ⟨isStar, ?_⟩
      rw [restEq, List.head?_append, slashFirst]
      rfl
    refine ⟨character :: first, others,
      List.forall_mem_cons.mpr ⟨firstFree.cons goesOn, othersFree⟩, ?_, ?_⟩
    · rw [joined, restEq, List.cons_append]
    · rw [brokenJoined, brokenEq, List.cons_append]
  | case3 => exact ⟨[], [], by simp [hasNoCommentEnd_nil], rfl, rfl⟩

/-! ## Comments -/

theorem Node.render_comment (text : String) (mode : RenderMode) :
    (comment text).render mode = .ok { sql := "/* " ++ commentText text ++ " */" } := by
  have written : ((comment text).write : Writer (Context mode) Unit) =
      emit ("/* " ++ (commentText text ++ " */")) := by
    rw [← emit_emit, ← emit_emit]
    rfl
  rw [render, written, Writer.render_emit, String.append_assoc]

theorem endsComment_comment (text : String) :
    EndsComment ("/* " ++ commentText text ++ " */").toList := by
  have ends := endsComment_withoutCommentEnds (trimmed text).toList
  have fromBlank : EndsComment (' ' :: _) := ends.cons_of_ne (by decide)
  have fromStar : EndsComment ('*' :: ' ' :: _) :=
    fromBlank.cons fun begins => absurd begins.2 (by simp)
  have fromMark : EndsComment ('/' :: '*' :: ' ' :: _) := fromStar.cons_of_ne (by decide)
  have charactersEq : ("/* " ++ commentText text ++ " */").toList =
      '/' :: '*' :: ' ' :: (withoutCommentEnds (trimmed text).toList ++ [' ', '*', '/']) := by
    simp [commentText]
  rw [charactersEq]
  exact fromMark

/-- In every mode a comment is its text between two marks, and the mark at its end is the only end
of a comment in it.  The text is the given one, trimmed, with a blank in each end of a comment that
stood in it: between these, nothing is changed. -/
theorem Node.comment_cannot_end_early (text : String) :
    ∃ between : String,
      (∀ mode, (comment text).render mode = .ok { sql := "/* " ++ between ++ " */" }) ∧
      (∀ before after, "/* " ++ between ++ " */" = before ++ "*/" ++ after → after = "") ∧
      ∃ parts : List String, (∀ part ∈ parts, ¬ "*/".toList <:+: part.toList) ∧
        trimmed text = "*/".intercalate parts ∧ between = "* /".intercalate parts := by
  refine ⟨commentText text, render_comment text, ?_, ?_⟩
  · intro before after split
    have charactersEq : ("/* " ++ commentText text ++ " */").toList =
        before.toList ++ '*' :: '/' :: after.toList := by
      rw [split, String.toList_append, String.toList_append, List.append_assoc]
      rfl
    exact String.toList_eq_nil_iff.mp (endsComment_comment text _ _ charactersEq)
  · obtain ⟨first, others, free, textEq, brokenEq⟩ :=
      exists_parts_withoutCommentEnds (trimmed text).toList
    have charactersOfParts :
        ((first :: others).map String.ofList).map String.toList = first :: others := by
      simp [Function.comp_def]
    refine ⟨(first :: others).map String.ofList, ?_, ?_, ?_⟩
    · rintro _ mapped
      obtain ⟨part, member, rfl⟩ := List.mem_map.mp mapped
      rw [String.toList_ofList, String.toList_ofList]
      exact free part member
    · rw [← String.toList_inj, String.toList_intercalate, charactersOfParts]
      exact textEq
    · rw [← String.toList_inj, String.toList_intercalate, charactersOfParts, commentText,
        String.toList_ofList]
      exact brokenEq

/-- Ends of comments that overlap with other signs of their kind are all broken. -/
theorem Node.comment_with_seams_cannot_end_early :
    (comment " **//*/* ").render .named = .ok { sql := "/* ** //* /* */" } ∧
    "/* ** //* /* */" = "/* ** //* /* " ++ "*/" ++ "" ∧
    ∀ before after, "/* ** //* /* */" = before ++ "*/" ++ after → after = "" := by
  obtain ⟨between, rendered, ends, -⟩ := Node.comment_cannot_end_early " **//*/* "
  have sqlEq : "/* " ++ between ++ " */" = "/* ** //* /* */" := by
    have broken : commentText " **//*/* " = "** //* /*" := by decide
    have same := (rendered .named).symm.trans (render_comment _ _)
    rw [broken] at same
    exact congrArg Context.sql (Except.ok.inj same)
  rw [sqlEq] at ends
  exact ⟨sqlEq ▸ rendered .named, by decide, ends⟩

end SqlTree
