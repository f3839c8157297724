import SqlTree.Proofs.Render.LegibleTrees
import SqlTree.Proofs.Render.Values

/-!
# Placeholders are read back

In a text that is legible, the placeholders that values have left are found by their beginning and
by the digits behind it, as many as there are.  They are numbered in the order in which they stand,
and when each of them is replaced by the value under its number, the text is the one with the values
in place.
-/

namespace SqlTree

/-! ## Cutting a text at its placeholders -/

/-- A character that stands for itself, or the digits of a placeholder. -/
inductive Segment where
  | character (character : Char)
  | placeholder (digits : List Char)
  deriving DecidableEq, Repr

namespace Segment

/-- Where the text goes on with the beginning of a placeholder and with digits: all of these digits,
and what follows them. -/
def number? (lead text : List Char) : Option (List Char × List Char) :=
  match text.dropPrefix? lead with
  | some behind =>
    if behind.takeWhile Char.isDigit = [] then none
    else some (behind.takeWhile Char.isDigit, behind.dropWhile Char.isDigit)
  | none => none

theorem length_lt_of_number? {lead text digits behind : List Char}
    (found : number? lead text = some (digits, behind)) : behind.length < text.length := by
  unfold number? at found
  split at found
  · next rest isRest =>
    obtain ⟨prefixed, textEq, -⟩ := List.dropPrefix?_eq_some_iff.mp isRest
    split at found
    · cases found
    · next someDigit =>
      cases found
      have digitsLength : 0 < (rest.takeWhile Char.isDigit).length :=
        List.length_pos_iff.mpr someDigit
      have lengths : (rest.takeWhile Char.isDigit).length
          + (rest.dropWhile Char.isDigit).length = rest.length := by
        rw [← List.length_append, List.takeWhile_append_dropWhile]
      rw [textEq, List.length_append]
      omega
  · cases found

/-- The text from left to right.  A placeholder takes all the digits that stand behind its
beginning; where there are none, the beginning is text like any other. -/
def cut (lead : List Char) : List Char → List Segment
  | [] => []
  | first :: rest =>
    match found : number? lead (first :: rest) with
    | some (digits, behind) =>
      have := length_lt_of_number? found
      .placeholder digits :: cut lead behind
    | none => .character first :: cut lead rest
termination_by text => text.length
decreasing_by
  · assumption
  · exact Nat.lt_succ_self rest.length

variable {lead text rest digits behind : List Char} {first : Char}

theorem cut_of_number? (found : number? lead text = some (digits, behind)) :
    cut lead text = .placeholder digits :: cut lead behind := by
  cases text with
  | nil => exact absurd (length_lt_of_number? found) (Nat.not_lt_zero _)
  | cons first rest =>
    rw [cut]
    split
    · next digits' behind' found' =>
      rw [found] at found'
      cases found'
      rfl
    · next none =>
      rw [found] at none
      cases none

theorem cut_of_no_number (none : number? lead (first :: rest) = none) :
    cut lead (first :: rest) = .character first :: cut lead rest := by
  rw [cut]
  split
  · next digits behind found =>
    rw [none] at found
    cases found
  · rfl

/-- Digits that go on no further are the number of a placeholder. -/
theorem cut_placeholder (someDigit : digits ≠ []) (allDigits : ∀ digit ∈ digits, digit.isDigit)
    (ends : ∀ next ∈ rest.head?, next.isDigit = false) :
    cut lead (lead ++ (digits ++ rest)) = .placeholder digits :: cut lead rest := by
  have restDigits : rest.takeWhile Char.isDigit = [] ∧ rest.dropWhile Char.isDigit = rest := by
    cases rest with
    | nil => exact ⟨rfl, rfl⟩
    | cons next rest => simp [ends next rfl]
  have dropped : (lead ++ (digits ++ rest)).dropPrefix? lead = some (digits ++ rest) :=
    List.dropPrefix?_eq_some_iff.mpr ⟨lead, rfl, BEq.rfl⟩
  have taken : (digits ++ rest).takeWhile Char.isDigit = digits := by
    rw [List.takeWhile_append_of_pos allDigits, restDigits.1, List.append_nil]
  have left : (digits ++ rest).dropWhile Char.isDigit = rest := by
    rw [List.dropWhile_append_of_pos allDigits, restDigits.2]
  apply cut_of_number?
  simp only [number?, dropped, taken, left, if_neg someDigit]

/-- What is free of the sign that placeholders begin with is passed over. -/
theorem cut_text {sign : Char} {lead : List Char} {text : List Char} (free : sign ∉ text)
    (rest : List Char) :
    cut (sign :: lead) (text ++ rest) = text.map .character ++ cut (sign :: lead) rest := by
  induction text with
  | nil => rfl
  | cons first text ih =>
    obtain ⟨firstFree, textFree⟩ : sign ≠ first ∧ sign ∉ text := by simpa using free
    have noLead : (first :: (text ++ rest)).dropPrefix? (sign :: lead) = none := by
      simp [List.dropPrefix?, Ne.symm firstFree]
    have none : number? (sign :: lead) (first :: (text ++ rest)) = none := by
      simp only [number?, noLead]
    rw [List.cons_append, cut_of_no_number none, ih textFree]
    rfl

end Segment

def Segment.placeholder? (lead : String) : Segment → Option String
  | .character _ => none
  | .placeholder digits => some (lead ++ String.ofList digits)

/-- The placeholders with the given beginning that a text has, from left to right. -/
def placeholdersIn (lead sql : String) : List String :=
  (Segment.cut lead.toList sql.toList).filterMap (Segment.placeholder? lead)

/-- What is put in the place of a segment: for a placeholder, the value that its digits stand for.
A placeholder that stands for no value is left as it is. -/
def Segment.filled (lead : String) (valueOf : String → Option Scalar) : Segment → List Char
  | .character unchanged => [unchanged]
  | .placeholder digits =>
    match valueOf (String.ofList digits) with
    | some value => value.inline.toList
    | none => lead.toList ++ digits

/-- The text with all its placeholders replaced at once by the values that their digits stand for.
-/
def withValues (lead : String) (valueOf : String → Option Scalar) (sql : String) : String :=
  String.ofList ((Segment.cut lead.toList sql.toList).flatMap (Segment.filled lead valueOf))

/-- The value bound under a number, which counts from one. -/
def Context.numbered? (context : Context .positional) (digits : String) : Option Scalar :=
  match Nat.ofDigitChars 10 digits.toList 0 with
  | index + 1 => context.arguments[index]?
  | 0 => none

/-! ## Legible pieces -/

theorem isDigit_of_isWordCharacter {character : Char}
    (noWord : isWordCharacter character = false) : character.isDigit = false := by
  rw [← Bool.not_eq_true]
  intro digit
  have ascii : character.toNat < 128 := by
    simp only [Char.isDigit, Bool.and_eq_true, decide_eq_true_eq] at digit
    have upper : character.val ≤ 57 := digit.2
    have := UInt32.le_iff_toNat_le.mp upper
    exact Nat.lt_of_le_of_lt this (by decide)
  have letter : Text.isAlphanumeric character = true := by
    rw [Text.isAlphanumeric_of_ascii ascii, Char.isAlphanum, digit, Bool.or_true]
  rw [isWordCharacter, letter] at noWord
  cases noWord

namespace Piece

/-- The segments that pieces leave when `bound` values have numbers already. -/
def segmentsFrom : (bound : Nat) → List Piece → List Segment
  | _, [] => []
  | bound, .text content :: rest => content.toList.map .character ++ segmentsFrom bound rest
  | bound, .bind _ :: rest =>
    .placeholder (toString (bound + 1)).toList :: segmentsFrom (bound + 1) rest

/-- The text of legible pieces is cut where one piece ends and the next one begins: a number is read
no further than its own digits, because what is set apart from it does not begin with a digit. -/
theorem Legible.cut_textFrom {sign : Char} {pieces : List Piece} (legible : Legible sign pieces)
    {lead : List Char} {mark : Nat → Scalar → String}
    (marks : ∀ number value, (mark number value).toList = sign :: lead ++ (toString number).toList)
    (bound : Nat) :
    Segment.cut (sign :: lead) (textFrom mark bound pieces).toList = segmentsFrom bound pieces := by
  induction legible generalizing bound with
  | nil => rw [textFrom, segmentsFrom, String.toList_empty, Segment.cut]
  | text free legible ih =>
    rw [textFrom, segmentsFrom, String.toList_append, Segment.cut_text free, ih]
  | @bind value rest apart legible ih =>
    have numberEq : (toString (bound + 1)).toList = Nat.toDigits 10 (bound + 1) := by
      rw [Nat.toString_eq_repr, Nat.toList_repr]
    have someDigit : (toString (bound + 1)).toList ≠ [] := by
      rw [numberEq]
      exact Nat.toDigits_ne_nil
    have allDigits : ∀ digit ∈ (toString (bound + 1)).toList, digit.isDigit := by
      intro digit isDigit
      rw [numberEq] at isDigit
      exact Nat.isDigit_of_mem_toDigits (by decide) (by decide) isDigit
    have ends : ∀ next ∈ (textFrom mark (bound + 1) rest).toList.head?, next.isDigit = false :=
      fun next isNext => isDigit_of_isWordCharacter (apart.endsWord mark (bound + 1) next isNext)
    rw [textFrom, segmentsFrom, String.toList_append, marks, List.append_assoc,
      Segment.cut_placeholder someDigit allDigits ends, ih]

/-- Every value leaves one placeholder, and they are numbered as they stand. -/
theorem filterMap_segmentsFrom (lead : String) (bound : Nat) (pieces : List Piece) :
    (segmentsFrom bound pieces).filterMap (Segment.placeholder? lead) =
      (List.range (boundValues pieces).length).map fun index =>
        lead ++ toString (bound + index + 1) := by
  induction pieces generalizing bound with
  | nil => rfl
  | cons piece rest ih =>
    cases piece with
    | text content =>
      have noPlaceholder : (content.toList.map Segment.character).filterMap
          (Segment.placeholder? lead) = [] := by
        simp [List.filterMap_map, Function.comp_def, Segment.placeholder?]
      rw [segmentsFrom, List.filterMap_append, noPlaceholder, ih]
      rfl
    | bind value =>
      have own : Segment.placeholder? lead (.placeholder (toString (bound + 1)).toList) =
          some (lead ++ toString (bound + 1)) := by
        simp only [Segment.placeholder?, String.ofList_toList]
      rw [segmentsFrom, List.filterMap_cons_some own, ih, boundValues, List.length_cons,
        List.range_succ_eq_map, List.map_cons, List.map_map]
      simp only [Function.comp_def, Nat.succ_eq_add_one, Nat.add_zero, Nat.add_assoc,
        Nat.add_comm 1]

/-- If the numbers stand for the values in their order, the values take the places that the raw mode
gives to them. -/
theorem flatMap_segmentsFrom {lead : String} {valueOf : String → Option Scalar} {bound : Nat}
    {pieces : List Piece}
    (valued : ∀ index, valueOf (toString (bound + index + 1)) = (boundValues pieces)[index]?)
    (rawBound : Nat) :
    (segmentsFrom bound pieces).flatMap (Segment.filled lead valueOf) =
      (textFrom RenderMode.raw.mark rawBound pieces).toList := by
  induction pieces generalizing bound rawBound with
  | nil => rfl
  | cons piece rest ih =>
    cases piece with
    | text content =>
      have unchanged : (content.toList.map Segment.character).flatMap
          (Segment.filled lead valueOf) = content.toList := by
        simp [List.flatMap_map, Segment.filled]
      rw [segmentsFrom, List.flatMap_append, unchanged, ih valued rawBound, textFrom,
        String.toList_append]
    | bind value =>
      have isValue : valueOf (toString (bound + 1)) = some value := valued 0
      have restValued : ∀ index,
          valueOf (toString (bound + 1 + index + 1)) = (boundValues rest)[index]? := by
        intro index
        have later := valued (index + 1)
        rw [← Nat.add_assoc, Nat.add_right_comm bound index 1] at later
        exact later
      have filled : Segment.filled lead valueOf (.placeholder (toString (bound + 1)).toList) =
          value.inline.toList := by
        simp only [Segment.filled, String.ofList_toList, isValue]
      rw [segmentsFrom, List.flatMap_cons, filled, ih restValued (rawBound + 1), textFrom,
        String.toList_append]
      rfl

end Piece

/-! ## Looking values up -/

/-- The digits of a number tell the number. -/
theorem ofDigitChars_toString (number : Nat) :
    Nat.ofDigitChars 10 (toString number).toList 0 = number := by
  rw [Nat.toString_eq_repr, Nat.toList_repr, Nat.ofDigitChars_ten_toDigits]

theorem RenderMode.argumentName_injective : Function.Injective argumentName := by
  intro first second same
  have sameDigits := congrArg String.toList same
  simp only [argumentName, String.toList_append, List.append_cancel_left_eq] at sameDigits
  rw [← ofDigitChars_toString first, sameDigits, ofDigitChars_toString]

theorem Context.numbered?_of_arguments {context : Context .positional} {values : List Scalar}
    (arguments : context.arguments = RenderMode.positional.argumentsFrom 0 values) (index : Nat) :
    context.numbered? (toString (0 + index + 1)) = values[index]? := by
  have argumentsEq : context.arguments = values := arguments
  simp only [numbered?, ofDigitChars_toString, argumentsEq, Nat.zero_add]

/-- No two arguments have the same name. -/
theorem RenderMode.find?_argumentsFrom (values : List Scalar) (bound index : Nat) :
    ((named.argumentsFrom bound values).find? fun argument =>
        argument.1 == argumentName (bound + index + 1)).map Prod.snd = values[index]? := by
  induction values generalizing bound index with
  | nil => rfl
  | cons value rest ih =>
    rw [argumentsFrom_cons]
    cases index with
    | zero => simp [arguments]
    | succ index =>
      have otherName : (argumentName (bound + 1) == argumentName (bound + (index + 1) + 1)) =
          false := by
        rw [beq_eq_false_iff_ne]
        intro same
        have := argumentName_injective same
        omega
      have sameNumber : bound + (index + 1) + 1 = bound + 1 + index + 1 := by omega
      rw [sameNumber] at otherName ⊢
      simpa [arguments, otherName] using ih (bound + 1) index

theorem Context.value?_of_arguments {context : Context .named} {values : List Scalar}
    (arguments : context.arguments = RenderMode.named.argumentsFrom 0 values) (index : Nat) :
    context.value? ("arg_" ++ toString (0 + index + 1)) = values[index]? := by
  rw [value?, arguments]
  exact RenderMode.find?_argumentsFrom values 0 index

/-! ## Reading a rendered node back -/

namespace Node

/-- Where the text that a value leaves is the lead and a number, and the numbers stand for the
values that the node binds, the placeholders in the text lead back to the values. -/
theorem read_back {node : Node} {mode : RenderMode} {context : Context mode} {lead : String}
    {sign : Char} {others : List Char} (leadEq : lead.toList = sign :: others)
    (isSign : sign ∈ signs) (free : FreeOf sign node.verbatimTexts)
    (marks : ∀ number value, mode.mark number value = lead ++ toString number)
    {valueOf : String → Option Scalar}
    (valued : ∀ index,
      valueOf (toString (0 + index + 1)) = (Piece.boundValues node.script.pieces)[index]?)
    (rendered : node.render mode = .ok context) :
    placeholdersIn lead context.sql =
      (List.range (Piece.boundValues node.script.pieces).length).map
        (fun index => lead ++ toString (index + 1)) ∧
    node.render .raw = .ok { sql := withValues lead valueOf context.sql } := by
  obtain ⟨unbroken, sqlEq⟩ := sql_eq_of_render rendered
  have marksLead : ∀ number value,
      (mode.mark number value).toList = sign :: others ++ (toString number).toList := by
    intro number value
    rw [marks, String.toList_append, leadEq]
  have cutSql : Segment.cut lead.toList context.sql.toList =
      Piece.segmentsFrom 0 node.script.pieces := by
    rw [leadEq, sqlEq]
    exact (legible_script isSign free).cut_textFrom marksLead 0
  constructor
  · rw [placeholdersIn, cutSql, Piece.filterMap_segmentsFrom]
    simp only [Nat.zero_add]
  · rw [render_eq, unbroken, withValues, cutSql, Piece.flatMap_segmentsFrom valued 0,
      String.ofList_toList]
    rfl

/-- The placeholders of a node can be read back, provided that the texts taken over from it are free
of the sign with which placeholders begin.  From left to right, the placeholders in the text are
numbered from one to the number of the arguments; if each of them is replaced by the argument with
its number or name, the text is that of the raw mode. -/
theorem placeholders_read_back (node : Node) :
    (FreeOf '$' node.verbatimTexts → ∀ context : Context .positional,
      node.render .positional = .ok context →
        placeholdersIn "$" context.sql =
          (List.range context.arguments.length).map (fun index => "$" ++ toString (index + 1)) ∧
        node.render .raw = .ok { sql := withValues "$" context.numbered? context.sql }) ∧
    (FreeOf ':' node.verbatimTexts → ∀ context : Context .named,
      node.render .named = .ok context →
        placeholdersIn ":arg_" context.sql =
          (List.range context.arguments.length).map
            (fun index => ":arg_" ++ toString (index + 1)) ∧
        node.render .raw = .ok
          { sql := withValues ":arg_" (fun digits => context.value? ("arg_" ++ digits))
              context.sql }) := by
  constructor
  · intro free context rendered
    have argumentsEq := congrArg Context.arguments (eq_of_render rendered).2
    have lengthEq : context.arguments.length =
        (Piece.boundValues node.script.pieces).length := by
      rw [argumentsEq]
      rfl
    rw [lengthEq]
    exact read_back rfl (by decide) free (fun _ _ => rfl)
      (Context.numbered?_of_arguments argumentsEq) rendered
  · intro free context rendered
    have argumentsEq := congrArg Context.arguments (eq_of_render rendered).2
    have lengthEq : context.arguments.length =
        (Piece.boundValues node.script.pieces).length := by
      rw [argumentsEq]
      exact List.length_mapIdx
    rw [lengthEq]
    exact read_back rfl (by decide) free RenderMode.mark_named
      (Context.value?_of_arguments argumentsEq) rendered

/-- An update in which a value looks like a placeholder. -/
def discountUpdate : Update where
  table := { name := "offers" }
  assignments := [⟨{ name := "note" }, .value (.text "$2 off")⟩]
  filter := some (.binary (.identifier "id") (.comparison .equal) (.value (.signed 10)))

/-- What is put in a place is not read again. -/
theorem placeholders_read_back_of_discountUpdate :
    FreeOf '$' (Node.update discountUpdate).verbatimTexts ∧
    ∃ context : Context .positional,
      (Node.update discountUpdate).render .positional = .ok context ∧
      context.sql = "UPDATE offers SET note = $1 WHERE (id = $2)" ∧
      placeholdersIn "$" context.sql = ["$1", "$2"] ∧
      withValues "$" context.numbered? context.sql =
        "UPDATE offers SET note = '$2 off' WHERE (id = 10)" := by
  have free : FreeOf '$' (Node.update discountUpdate).verbatimTexts := by decide +kernel
  have unbroken : discountUpdate.script.violation = none := by decide +kernel
  have positionalSql : Piece.textFrom RenderMode.positional.mark 0 discountUpdate.script.pieces =
      "UPDATE offers SET note = $1 WHERE (id = $2)" := by
    decide +kernel
  have rawSql : Piece.textFrom RenderMode.raw.mark 0 discountUpdate.script.pieces =
      "UPDATE offers SET note = '$2 off' WHERE (id = 10)" := by
    decide +kernel
  have values : Piece.boundValues discountUpdate.script.pieces =
      [.text "$2 off", .signed 10] := by
    decide +kernel
  have rendered := render_eq (.update discountUpdate) .positional
  have renderedRaw := render_eq (.update discountUpdate) .raw
  simp only [Node.script, unbroken, positionalSql, rawSql, values] at rendered renderedRaw
  obtain ⟨found, replaced⟩ :=
    (placeholders_read_back (.update discountUpdate)).1 free _ rendered
  rw [renderedRaw] at replaced
  exact ⟨free, _, rendered, rfl, found, (congrArg Context.sql (Except.ok.inj replaced)).symm⟩

end Node

end SqlTree
