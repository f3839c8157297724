import SqlTree.Proofs.Parse.Recognition
import SqlTree.Proofs.Render.Verbatim
import SqlTree.Proofs.Render.Violations

/-!
# Legible scripts

The text that a value leaves begins with a sign and ends with a number.  It can be told from
everything around it if no other text has the sign in it and if no number goes on in what follows.
Every clause is written that way as long as the texts that are taken over from it are free of the
sign.
-/

namespace SqlTree

open Text (isBlank trimmed)

/-! ## Scripts -/

/-- No text of the pieces has the sign in it, and every value is at the end or in front of a text
that cannot be read as part of a word. -/
inductive Piece.Legible (sign : Char) : List Piece → Prop
  | nil : Legible sign []
  | text {content : String} {rest : List Piece} (free : sign ∉ content.toList)
      (legible : Legible sign rest) : Legible sign (.text content :: rest)
  | bind {value : Scalar} {rest : List Piece} (apart : Script.SetApart ⟨rest, none⟩)
      (legible : Legible sign rest) : Legible sign (.bind value :: rest)

namespace Script

def Legible (sign : Char) (script : Script) : Prop :=
  Piece.Legible sign script.pieces

/-- The text is free of all signs. -/
def IsFixed (content : String) : Prop :=
  content.toList.all (fun character => !signs.contains character) = true

instance (content : String) : Decidable (IsFixed content) :=
  inferInstanceAs (Decidable (_ = true))

theorem IsFixed.free {content : String} (isFixed : IsFixed content) {sign : Char}
    (isSign : sign ∈ signs) : sign ∉ content.toList := by
  intro occurs
  have noSign := List.all_eq_true.mp isFixed sign occurs
  rw [List.contains_iff_mem.mpr isSign] at noSign
  cases noSign

/-- The text is free of all signs and cannot be read as part of a word in front of it. -/
def IsSeparator (content : String) : Prop :=
  IsFixed content ∧ content.toList.head?.any (fun first => !isWordCharacter first) = true

instance (content : String) : Decidable (IsSeparator content) :=
  inferInstanceAs (Decidable (_ ∧ _ = true))

theorem IsSeparator.setApart {content : String} (separates : IsSeparator content)
    (rest : Script) : (text content ++ rest).SetApart := by
  have noWord := separates.2
  cases isFirst : content.toList.head? with
  | none =>
    rw [isFirst] at noWord
    cases noWord
  | some first =>
    rw [isFirst, Option.any_some, Bool.not_eq_true'] at noWord
    exact .text first isFirst noWord rest

namespace Legible

variable {sign : Char} {script first second : Script}

theorem empty : Script.empty.Legible sign :=
  .nil

theorem abort (violation : Violation) : (Script.abort violation).Legible sign :=
  .nil

theorem text {content : String} (free : sign ∉ content.toList) :
    (Script.text content).Legible sign :=
  Piece.Legible.text free .nil

/-- Nothing has to be known of the place where a text meets what follows. -/
theorem text_append {content : String} (free : sign ∉ content.toList)
    (legible : script.Legible sign) : (Script.text content ++ script).Legible sign :=
  Piece.Legible.text free legible

/-- Where two scripts meet, the second one has to be set apart from a value. -/
theorem append (legibleFirst : first.Legible sign) (legibleSecond : second.Legible sign)
    (apart : second.SetApart) : (first ++ second).Legible sign := by
  obtain ⟨pieces, violation⟩ := first
  cases violation with
  | some violation => exact legibleFirst
  | none =>
    change Piece.Legible sign (pieces ++ second.pieces)
    change Piece.Legible sign pieces at legibleFirst
    induction legibleFirst with
    | nil => exact legibleSecond
    | text free legible ih => exact .text free ih
    | @bind value rest restApart legible ih =>
      -- Only behind the last piece of the first script does the second one matter.
      have together : Script.SetApart ⟨rest ++ second.pieces, none⟩ := by
        cases rest with
        | nil => exact apart
        | cons piece rest => exact restApart
      exact .bind together ih

theorem choice (condition : Prop) [Decidable condition] (legibleFirst : first.Legible sign)
    (legibleSecond : second.Legible sign) :
    (if condition then first else second).Legible sign := by
  split
  · exact legibleFirst
  · exact legibleSecond

theorem require_append (part : RequiredPart) (isEmpty : Bool) (legible : script.Legible sign) :
    (Script.require part isEmpty ++ script).Legible sign := by
  cases isEmpty with
  | true => exact abort _
  | false => exact legible

variable (isSign : sign ∈ signs)

include isSign

theorem fixed {content : String} (isFixed : IsFixed content) : (Script.text content).Legible sign :=
  text (isFixed.free isSign)

theorem fixed_append {content : String} (isFixed : IsFixed content)
    (legible : script.Legible sign) : (Script.text content ++ script).Legible sign :=
  text_append (isFixed.free isSign) legible

/-- A separator may follow anything. -/
theorem append_separator {content : String} (separates : IsSeparator content)
    (legibleFirst : first.Legible sign) (legibleSecond : second.Legible sign) :
    (first ++ (Script.text content ++ second)).Legible sign :=
  legibleFirst.append (fixed_append isSign separates.1 legibleSecond) (separates.setApart second)

theorem append_ending {content : String} (separates : IsSeparator content)
    (legible : script.Legible sign) : (script ++ Script.text content).Legible sign :=
  append_separator isSign separates legible empty

theorem value (scalar : Scalar) : (Script.value scalar).Legible sign :=
  choice _ (fixed isSign (by decide)) (.bind .empty .nil)

theorem clause (isAbsent : Bool) (legible : script.Legible sign) :
    (Script.clause isAbsent script).Legible sign :=
  choice _ empty (fixed_append isSign (by decide) legible)

theorem append_clause (isAbsent : Bool) (legibleFirst : first.Legible sign)
    (legible : script.Legible sign) : (first ++ Script.clause isAbsent script).Legible sign :=
  legibleFirst.append (clause isSign isAbsent legible) (.clause isAbsent script)

theorem leading_append (isAbsent : Bool) (legibleFirst : first.Legible sign)
    (legibleSecond : second.Legible sign) :
    (Script.leading isAbsent first ++ second).Legible sign := by
  cases isAbsent with
  | true => exact legibleSecond
  | false =>
    change (first ++ Script.text " " ++ second).Legible sign
    rw [Script.append_assoc]
    exact append_separator isSign (by decide) legibleFirst legibleSecond

theorem parenthesized (legible : script.Legible sign) : script.parenthesized.Legible sign := by
  rw [Script.parenthesized, Script.append_assoc]
  exact fixed_append isSign (by decide) (append_ending isSign (by decide) legible)

theorem commaSeparated {scripts : List Script}
    (legible : ∀ script ∈ scripts, script.Legible sign) :
    (Script.commaSeparated scripts).Legible sign := by
  unfold Script.commaSeparated
  induction scripts with
  | nil => exact empty
  | cons script rest ih =>
    obtain ⟨scriptLegible, restLegible⟩ := List.forall_mem_cons.mp legible
    cases rest with
    | nil => exact scriptLegible
    | cons next rest =>
      change (script ++ Script.text ", " ++ Script.separated ", " (next :: rest)).Legible sign
      rw [Script.append_assoc]
      exact append_separator isSign (by decide) scriptLegible (ih restLegible)

theorem list {Item : Type} {script : Item → Script} {items : List Item}
    (legible : ∀ item ∈ items, (script item).Legible sign) :
    (Script.commaSeparated (items.map script)).Legible sign := by
  apply commaSeparated isSign
  intro written member
  obtain ⟨item, isItem, rfl⟩ := List.mem_map.mp member
  exact legible item isItem

end Legible

end Script

open Script (Legible SetApart IsFixed)

/-! ## Clauses -/

section Trees

variable {sign : Char}

theorem AggregateFunction.isFixed_text (function : AggregateFunction) : IsFixed function.text := by
  cases function <;> decide

theorem Direction.isFixed_text (direction : Direction) : IsFixed direction.text := by
  cases direction <;> decide

theorem Connective.isFixed_text (word : Connective) : IsFixed word.text := by
  cases word <;> decide

theorem Comparison.isFixed_text (operator : Comparison) : IsFixed operator.text := by
  cases operator <;> decide

theorem Operator.isFixed_text (operator : Operator) : IsFixed operator.text := by
  cases operator with
  | connective word => exact word.isFixed_text
  | comparison sign => exact sign.isFixed_text

theorem JoinKind.isFixed_text (kind : JoinKind) : IsFixed kind.text := by
  cases kind <;> decide

theorem isDigit_of_mem_signs (isSign : sign ∈ signs) : sign.isDigit = false := by
  rcases List.mem_pair.mp isSign with rfl | rfl <;> rfl

/-- Numbers have no sign in them. -/
theorem isFixed_append_repr {content : String} (fixed : IsFixed content) (number : Nat) :
    IsFixed (content ++ toString number) := by
  rw [IsFixed, String.toList_append, List.all_append, Bool.and_eq_true]
  refine ⟨fixed, List.all_eq_true.mpr fun character occurs => ?_⟩
  rw [Nat.toString_eq_repr, Nat.toList_repr] at occurs
  have digit := Nat.isDigit_of_mem_toDigits (by decide) (by decide) occurs
  rw [Bool.not_eq_true', ← Bool.not_eq_true, List.contains_iff_mem]
  intro isSign
  rw [isDigit_of_mem_signs isSign] at digit
  cases digit

theorem mem_of_mem_trimmed {text : String} {character : Char}
    (occurs : character ∈ (trimmed text).toList) : character ∈ text.toList := by
  simp only [trimmed, Text.trimmedCharacters, String.toList_ofList, List.mem_reverse] at occurs
  have inFront := (List.dropWhile_sublist Text.isSpace).mem occurs
  exact (List.dropWhile_sublist Text.isSpace).mem (List.mem_reverse.mp inFront)

theorem mem_of_mem_withoutCommentEnds {characters : List Char} {character : Char}
    (occurs : character ∈ withoutCommentEnds characters) :
    character = ' ' ∨ character ∈ characters := by
  induction characters using withoutCommentEnds.induct with
  | case1 rest ih =>
    simp only [withoutCommentEnds, List.mem_cons] at occurs ⊢
    tauto
  | case2 first rest noEnd ih =>
    have kept : withoutCommentEnds (first :: rest) = first :: withoutCommentEnds rest := by
      rw [withoutCommentEnds]
      exact noEnd
    simp only [kept, List.mem_cons] at occurs ⊢
    tauto
  | case3 => exact .inr occurs

variable (isSign : sign ∈ signs)

theorem legible_outerTextScript {text : String} (free : sign ∉ text.toList) :
    (outerTextScript text).Legible sign :=
  Legible.text fun occurs => free (mem_of_mem_trimmed occurs)

include isSign

theorem legible_asNameScript {name : Option String} (free : FreeOf sign name.toList) :
    (asNameScript name).Legible sign := by
  cases name with
  | none => exact .empty
  | some name =>
    have nameFree : sign ∉ name.toList := (freeOf_cons.mp free).1
    exact .choice _ .empty (.fixed_append isSign (by decide) (.text nameFree))

theorem legible_commentScript {comment : String} (free : sign ∉ comment.toList) :
    (commentScript comment).Legible sign := by
  have noBlank : sign ≠ ' ' := by
    rcases List.mem_pair.mp isSign with rfl | rfl <;> decide
  have commentFree : sign ∉ (commentText comment).toList := by
    intro occurs
    rw [commentText, String.toList_ofList] at occurs
    rcases mem_of_mem_withoutCommentEnds occurs with isBlank | inTrimmed
    · exact noBlank isBlank
    · exact free (mem_of_mem_trimmed inTrimmed)
  rw [commentScript, Script.append_assoc]
  exact .fixed_append isSign (by decide) (.text_append commentFree (.fixed isSign (by decide)))

/-- A name and the name it is given after AS. -/
theorem legible_named {name : String} {asName : Option String}
    (free : FreeOf sign (name :: asName.toList)) :
    (.text name ++ asNameScript asName : Script).Legible sign := by
  obtain ⟨nameFree, asNameFree⟩ := freeOf_cons.mp free
  exact .text_append nameFree (legible_asNameScript isSign asNameFree)

theorem Column.legible_script {column : Column} (free : FreeOf sign column.verbatimTexts) :
    column.script.Legible sign :=
  legible_named isSign free

theorem Table.legible_script {table : Table} (free : FreeOf sign table.verbatimTexts) :
    table.script.Legible sign :=
  legible_named isSign free

theorem Aggregate.legible_script {call : Aggregate} (free : FreeOf sign call.verbatimTexts) :
    call.script.Legible sign := by
  obtain ⟨argumentFree, asNameFree⟩ := freeOf_cons.mp free
  have named := legible_asNameScript isSign asNameFree
  have closing : IsFixed ")" := by decide
  have fromArgument := Legible.text_append argumentFree (.fixed_append isSign closing named)
  simp only [Aggregate.script, Script.append_assoc]
  refine .fixed_append isSign call.function.isFixed_text (.fixed_append isSign (by decide) ?_)
  split
  · exact .fixed_append isSign (by decide) fromArgument
  · exact fromArgument

theorem SelectItem.legible_script {item : SelectItem} (free : FreeOf sign item.verbatimTexts) :
    item.script.Legible sign := by
  cases item with
  | column named => exact named.legible_script isSign free
  | fragment text => exact .text (freeOf_cons.mp free).1
  | aggregate call => exact call.legible_script isSign free

theorem Order.legible_script {order : Order} (free : FreeOf sign order.column.verbatimTexts) :
    order.script.Legible sign := by
  rw [Order.script, Script.append_assoc]
  exact .text_append (freeOf_cons.mp free).1
    (.fixed_append isSign (by decide) (.fixed isSign order.direction.isFixed_text))

theorem FromClause.legible_script {clause : FromClause}
    (free : FreeOf sign clause.table.verbatimTexts) : clause.script.Legible sign := by
  have fixedText : IsFixed (if clause.only then "FROM ONLY " else "FROM ") := by
    cases clause.only <;> decide
  exact .fixed_append isSign fixedText (clause.table.legible_script isSign free)

theorem Operator.legible_script (operator : Operator) : operator.script.Legible sign :=
  .fixed isSign operator.isFixed_text

/-- Two operands with a word between them, in parentheses. -/
theorem legible_infix {left word right : Script} (leftLegible : left.Legible sign)
    (wordLegible : word.Legible sign) (rightLegible : right.Legible sign) :
    (.text "(" ++ left ++ .text " " ++ word ++ .text " " ++ right ++ .text ")" :
      Script).Legible sign := by
  simp only [Script.append_assoc]
  have fromRight := Legible.append_ending isSign (by decide : Script.IsSeparator ")") rightLegible
  have fromWord := Legible.append_separator isSign (by decide : Script.IsSeparator " ") wordLegible
    fromRight
  exact .fixed_append isSign (by decide)
    (.append_separator isSign (by decide) leftLegible fromWord)

theorem JoinCondition.legible_script {condition : JoinCondition}
    (free : FreeOf sign condition.verbatimTexts) : condition.script.Legible sign := by
  induction condition with
  | equality left right =>
    obtain ⟨leftFree, rightFree⟩ := freeOf_append.mp free
    rw [JoinCondition.script, Script.append_assoc]
    exact .append_separator isSign (by decide) (left.legible_script isSign leftFree)
      (right.legible_script isSign rightFree)
  | connected left word right leftIH rightIH =>
    obtain ⟨leftFree, rightFree⟩ := freeOf_append.mp free
    exact legible_infix isSign (leftIH leftFree) (.fixed isSign word.isFixed_text)
      (rightIH rightFree)

theorem Join.legible_conditionScript {join : Join} (free : FreeOf sign join.verbatimTexts) :
    join.conditionScript.Legible sign ∧ join.conditionScript.SetApart := by
  have aborts (violation : Violation) : (Script.abort violation).SetApart := by
    rintro piece ⟨⟩
  unfold Join.conditionScript
  cases isCondition : join.condition with
  | none => exact ⟨.abort _, aborts _⟩
  | some condition =>
    have conditionFree : FreeOf sign condition.verbatimTexts := by
      simpa [isCondition] using (freeOf_append.mp free).2
    dsimp only
    split
    · exact ⟨.abort _, aborts _⟩
    · have separates : Script.IsSeparator " ON " := by decide
      exact ⟨.fixed_append isSign separates.1 (condition.legible_script isSign conditionFree),
        separates.setApart _⟩

theorem Join.legible_script {join : Join} (free : FreeOf sign join.verbatimTexts) :
    join.script.Legible sign := by
  obtain ⟨conditionLegible, conditionApart⟩ := Join.legible_conditionScript isSign free
  have tableLegible := join.table.legible_script isSign (freeOf_append.mp free).1
  simp only [Join.script, Script.append_assoc]
  refine .require_append _ _ (.fixed_append isSign join.kind.isFixed_text
    (.fixed_append isSign (by decide) ?_))
  split
  · exact tableLegible.append .empty .empty
  · exact tableLegible.append conditionLegible conditionApart

theorem legible_joinsScript {joins : List Join}
    (free : FreeOf sign (joins.flatMap Join.verbatimTexts)) :
    (joinsScript joins).Legible sign := by
  induction joins with
  | nil => exact .empty
  | cons join rest ih =>
    obtain ⟨joinFree, restFree⟩ := freeOf_append.mp free
    refine .append ?_ (ih restFree) (setApart_joins rest)
    exact .choice _ .empty (.fixed_append isSign (by decide) (join.legible_script isSign joinFree))

theorem legible_columnsScript {keyword : String} (fixed : IsFixed keyword) {columns : List Column}
    (free : FreeOf sign (columns.flatMap Column.verbatimTexts)) :
    (columnsScript keyword columns).Legible sign :=
  .fixed_append isSign fixed (.list isSign fun column isColumn =>
    column.legible_script isSign (free.of_flatMap column isColumn))

theorem legible_columnNamesScript {columns : List Column}
    (free : FreeOf sign (columns.flatMap Column.verbatimTexts)) :
    (columnNamesScript columns).Legible sign := by
  have names := Legible.list isSign fun column isColumn =>
    Legible.text (freeOf_cons.mp (free.of_flatMap column isColumn)).1
  rw [columnNamesScript, Script.append_assoc]
  exact .fixed_append isSign (by decide) (.append_ending isSign (by decide) names)

theorem legible_orderByScript {orders : List Order}
    (free : FreeOf sign (orders.flatMap fun order => order.column.verbatimTexts)) :
    (orderByScript orders).Legible sign :=
  .fixed_append isSign (by decide) (.list isSign fun order isOrder =>
    order.legible_script isSign (free.of_flatMap order isOrder))

theorem legible_usingScript {tables : List Table}
    (free : FreeOf sign (tables.flatMap Table.verbatimTexts)) :
    (usingScript tables).Legible sign :=
  .fixed_append isSign (by decide) (.list isSign fun table isTable =>
    table.legible_script isSign (free.of_flatMap table isTable))

theorem legible_intoScript {table : Table} (free : FreeOf sign table.verbatimTexts) :
    (intoScript table).Legible sign :=
  .fixed_append isSign (by decide) (table.legible_script isSign free)

theorem legible_limitScript (count : Option UInt64) : (limitScript count).Legible sign := by
  cases count with
  | none => exact .empty
  | some count => exact .fixed isSign (isFixed_append_repr (by decide) count.toNat)

theorem legible_offsetScript (count : Option UInt64) : (offsetScript count).Legible sign := by
  cases count with
  | none => exact .empty
  | some count => exact .fixed isSign (isFixed_append_repr (by decide) count.toNat)

theorem legible_withScript {queries : List Script}
    (legible : ∀ script ∈ queries, script.Legible sign) : (withScript queries).Legible sign :=
  .fixed_append isSign (by decide) (.commaSeparated isSign legible)

theorem legible_closingScript {trailingText comment : String}
    (textFree : sign ∉ trailingText.toList) (commentFree : sign ∉ comment.toList) :
    (closingScript trailingText comment).Legible sign :=
  .append_clause isSign _ (.clause isSign _ (legible_outerTextScript textFree))
    (legible_commentScript isSign commentFree)

/-- What comes before a statement may be followed by anything. -/
theorem legible_openingScript_append {leadingText : String} {queries : List Script} {rest : Script}
    (textFree : sign ∉ leadingText.toList)
    (queriesLegible : ∀ script ∈ queries, script.Legible sign) (restLegible : rest.Legible sign) :
    (openingScript leadingText queries ++ rest).Legible sign := by
  rw [openingScript, Script.append_assoc]
  exact .leading_append isSign _ (legible_outerTextScript textFree)
    (.leading_append isSign _ (legible_withScript isSign queriesLegible) restLegible)

end Trees

end SqlTree
