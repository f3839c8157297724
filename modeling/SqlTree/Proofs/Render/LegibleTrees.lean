import SqlTree.Proofs.Render.Legible

/-!
# Legible trees

Expressions, queries and statements are legible as long as the texts that are taken over from them
are free of the sign.  Behind a value there is always a text of the tree's own, a parenthesis, a
comma or a space, or the next clause.
-/

namespace SqlTree

open Script (Legible IsFixed)

section Trees

variable {sign : Char}

/-! ## Expressions and queries -/

/-- What stands behind the table of a query is legible if its conditions are. -/
theorem Select.legible_clauses (isSign : sign ∈ signs) {query : Select}
    (joinsFree : FreeOf sign (query.joins.flatMap Join.verbatimTexts))
    (filterLegible : (Expression.conditionScript .filter query.filter).Legible sign)
    (groupByFree : FreeOf sign (query.groupBy.flatMap Column.verbatimTexts))
    (havingLegible : (Expression.conditionScript .having query.having).Legible sign)
    (orderByFree : FreeOf sign (query.orderBy.flatMap fun order => order.column.verbatimTexts))
    (trailingFree : sign ∉ query.trailingText.toList) (commentFree : sign ∉ query.comment.toList) :
    query.clauses.Legible sign := by
  have groupByLegible := legible_columnsScript isSign (by decide : IsFixed "GROUP BY ") groupByFree
  have upToFilter := (legible_joinsScript isSign joinsFree).append_clause isSign
    (lacksCondition query.filter) filterLegible
  have upToGroupBy := upToFilter.append_clause isSign query.groupBy.isEmpty groupByLegible
  have upToHaving := upToGroupBy.append_clause isSign (lacksCondition query.having) havingLegible
  have upToOrderBy := upToHaving.append_clause isSign query.orderBy.isEmpty
    (legible_orderByScript isSign orderByFree)
  have upToLimit := upToOrderBy.append_clause isSign query.limit.isNone
    (legible_limitScript isSign query.limit)
  have upToOffset := upToLimit.append_clause isSign query.offset.isNone
    (legible_offsetScript isSign query.offset)
  exact upToOffset.append (legible_closingScript isSign trailingFree commentFree)
    (setApart_closing _ _)

mutual

theorem Expression.legible_script (isSign : sign ∈ signs) :
    (expression : Expression) → FreeOf sign expression.verbatimTexts →
      expression.script.Legible sign
  | .identifier name, free => by
    rw [Expression.script]
    exact .text (freeOf_cons.mp free).1
  | .column named, free => by
    rw [Expression.verbatimTexts] at free
    rw [Expression.script]
    exact named.legible_script isSign free
  | .value scalar, _ => by
    rw [Expression.script]
    exact .value isSign scalar
  | .fragment text, free => by
    rw [Expression.script]
    exact .text (freeOf_cons.mp free).1
  | .array items, free => by
    rw [Expression.verbatimTexts] at free
    rw [Expression.script]
    exact .commaSeparated isSign (Expression.legible_scripts isSign items free)
  | .binary left operator right, free => by
    rw [Expression.verbatimTexts, freeOf_append] at free
    rw [Expression.script]
    exact legible_infix isSign (left.legible_script isSign free.1) (operator.legible_script isSign)
      (right.legible_script isSign free.2)
  | .between name operator lower connective upper, free => by
    rw [Expression.verbatimTexts, freeOf_cons, freeOf_append] at free
    obtain ⟨nameFree, lowerFree, upperFree⟩ := free
    have upperLegible := Legible.append_ending isSign (by decide : Script.IsSeparator ")")
      (upper.legible_script isSign upperFree)
    have fromWord := Legible.fixed_append isSign connective.isFixed_text
      (.fixed_append isSign (by decide : IsFixed " ") upperLegible)
    have fromLower := Legible.append_separator isSign (by decide : Script.IsSeparator " ")
      (lower.legible_script isSign lowerFree) fromWord
    have fromOperator := Legible.fixed_append isSign operator.isFixed_text
      (.fixed_append isSign (by decide : IsFixed " ") fromLower)
    simp only [Expression.script, Script.append_assoc]
    exact .fixed_append isSign (by decide)
      (.text_append nameFree (.fixed_append isSign (by decide) fromOperator))
  | .membership tested operator candidates, free => by
    rw [Expression.verbatimTexts, freeOf_append] at free
    have candidatesLegible := candidates.legible_script isSign free.2
    rw [Expression.script]
    exact legible_infix isSign (tested.legible_script isSign free.1)
      (.fixed isSign operator.isFixed_text)
      (.choice _ candidatesLegible (.parenthesized isSign candidatesLegible))
  | .existence negated subject, free => by
    rw [Expression.verbatimTexts] at free
    have subjectLegible := subject.legible_script isSign free
    have fixedText : IsFixed (if negated then "NOT EXISTS " else "EXISTS ") := by
      cases negated <;> decide
    rw [Expression.script]
    exact .fixed_append isSign fixedText
      (.choice _ subjectLegible (.parenthesized isSign subjectLegible))
  | .aggregate call, free => by
    rw [Expression.verbatimTexts] at free
    rw [Expression.script]
    exact call.legible_script isSign free
  | .wrapped inner, free => by
    rw [Expression.verbatimTexts] at free
    rw [Expression.script]
    exact inner.legible_script isSign free
  | .subquery query, free => by
    rw [Expression.verbatimTexts] at free
    rw [Expression.script]
    exact .parenthesized isSign (query.legible_script isSign free)

theorem Expression.legible_scripts (isSign : sign ∈ signs) :
    (items : List Expression) → FreeOf sign (Expression.verbatimTextsOfAll items) →
      ∀ script ∈ Expression.scripts items, script.Legible sign
  | [], _ => by simp [Expression.scripts]
  | item :: rest, free => by
    rw [Expression.verbatimTextsOfAll, freeOf_append] at free
    rw [Expression.scripts]
    exact List.forall_mem_cons.mpr
      ⟨item.legible_script isSign free.1, Expression.legible_scripts isSign rest free.2⟩

theorem Expression.legible_conditionScript (isSign : sign ∈ signs) (clause : ConditionClause) :
    (condition : Option Expression) →
      FreeOf sign (Expression.verbatimTextsOfCondition condition) →
      (Expression.conditionScript clause condition).Legible sign
  | some condition, free => by
    rw [Expression.verbatimTextsOfCondition] at free
    have fixedText : IsFixed (clause.text ++ " ") := by cases clause <;> decide
    rw [Expression.conditionScript]
    exact .fixed_append isSign fixedText (condition.legible_script isSign free)
  | none, _ => by
    rw [Expression.conditionScript]
    exact .empty

theorem WithQuery.legible_script (isSign : sign ∈ signs) :
    (named : WithQuery) → FreeOf sign named.verbatimTexts → named.script.Legible sign
  | ⟨name, query⟩, free => by
    rw [WithQuery.verbatimTexts, freeOf_cons] at free
    simp only [WithQuery.script, Script.append_assoc]
    exact .text_append free.1 (.fixed_append isSign (by decide)
      (.append_ending isSign (by decide) (query.legible_script isSign free.2)))

theorem WithQuery.legible_scripts (isSign : sign ∈ signs) :
    (queries : List WithQuery) → FreeOf sign (WithQuery.verbatimTextsOfAll queries) →
      ∀ script ∈ WithQuery.scripts queries, script.Legible sign
  | [], _ => by simp [WithQuery.scripts]
  | named :: rest, free => by
    rw [WithQuery.verbatimTextsOfAll, freeOf_append] at free
    rw [WithQuery.scripts]
    exact List.forall_mem_cons.mpr
      ⟨named.legible_script isSign free.1, WithQuery.legible_scripts isSign rest free.2⟩

theorem Select.legible_script (isSign : sign ∈ signs) :
    (query : Select) → FreeOf sign query.verbatimTexts → query.script.Legible sign
  | ⟨withQueries, leadingText, distinct, items, source, joins, filter, groupBy, having, orderBy,
      limit, offset, trailingText, comment⟩, free => by
    simp only [Select.verbatimTexts, freeOf_cons, freeOf_append] at free
    obtain ⟨leadingFree, trailingFree, commentFree, ⟨⟨⟨⟨⟨⟨queriesFree, itemsFree⟩, sourceFree⟩,
      joinsFree⟩, filterFree⟩, groupByFree⟩, havingFree⟩, orderByFree⟩ := free
    have fixedText : IsFixed (if distinct then "SELECT DISTINCT " else "SELECT ") := by
      cases distinct <;> decide
    have itemsLegible := Legible.list isSign fun item isItem =>
      SelectItem.legible_script isSign (itemsFree.of_flatMap item isItem)
    have sourceLegible := Legible.clause isSign source.isEmpty
      (source.legible_script isSign sourceFree)
    let query : Select := ⟨withQueries, leadingText, distinct, items, source, joins, filter,
      groupBy, having, orderBy, limit, offset, trailingText, comment⟩
    have clausesLegible : query.clauses.Legible sign := Select.legible_clauses isSign joinsFree
      (Expression.legible_conditionScript isSign .filter filter filterFree) groupByFree
      (Expression.legible_conditionScript isSign .having having havingFree) orderByFree trailingFree
      commentFree
    have bodyLegible : query.body.Legible sign := .fixed_append isSign fixedText
      (itemsLegible.append (sourceLegible.append clausesLegible query.setApart_clauses)
        (.append (.clause _ _) query.setApart_clauses))
    rw [Select.script_eq]
    exact .require_append _ _ (legible_openingScript_append isSign leadingFree
      (WithQuery.legible_scripts isSign withQueries queriesFree) bodyLegible)

end

/-! ## The other statements -/

variable (isSign : sign ∈ signs)

include isSign

theorem Assignment.legible_script {assignment : Assignment}
    (free : FreeOf sign assignment.verbatimTexts) : assignment.script.Legible sign := by
  obtain ⟨columnFree, valueFree⟩ := freeOf_append.mp free
  rw [Assignment.script, Script.append_assoc]
  exact .text_append (freeOf_cons.mp columnFree).1
    (.fixed_append isSign (by decide) (assignment.value.legible_script isSign valueFree))

theorem legible_setScript {assignments : List Assignment}
    (free : FreeOf sign (assignments.flatMap Assignment.verbatimTexts)) :
    (setScript assignments).Legible sign :=
  .fixed_append isSign (by decide) (.list isSign fun assignment isAssignment =>
    assignment.legible_script isSign (free.of_flatMap assignment isAssignment))

theorem legible_valuesScript {rows : List (List Expression)}
    (free : FreeOf sign (rows.flatMap Expression.verbatimTextsOfAll)) :
    (valuesScript rows).Legible sign := by
  refine .fixed_append isSign (by decide) (.list isSign fun row isRow => ?_)
  have rowFree : FreeOf sign (Expression.array row).verbatimTexts := by
    rw [Expression.verbatimTexts]
    exact free.of_flatMap row isRow
  exact .parenthesized isSign (Expression.legible_script isSign _ rowFree)

theorem InsertSource.legible_script {source : InsertSource}
    (free : FreeOf sign source.verbatimTexts) : source.script.Legible sign := by
  cases source with
  | rows given => exact legible_valuesScript isSign free
  | query select => exact select.legible_script isSign free

theorem ConflictAction.legible_script {action : ConflictAction}
    (free : FreeOf sign action.verbatimTexts) :
    action.script.Legible sign ∧ action.script.SetApart := by
  cases action with
  | doNothing =>
    have separates : Script.IsSeparator " DO NOTHING" := by decide
    exact ⟨.fixed isSign separates.1, separates.setApart .empty⟩
  | doUpdate assignments =>
    have separates : Script.IsSeparator " DO UPDATE " := by decide
    simp only [ConflictAction.script, Script.append_assoc]
    refine ⟨.require_append _ _ (.fixed_append isSign separates.1
      (legible_setScript isSign free)), ?_⟩
    cases assignments.isEmpty with
    | true => rintro piece ⟨⟩
    | false => exact separates.setApart _

/-- The names of columns, if there are any. -/
theorem legible_columnNames {columns : List Column}
    (free : FreeOf sign (columns.flatMap Column.verbatimTexts)) :
    (if columns.isEmpty then .empty else columnNamesScript columns : Script).Legible sign :=
  .choice _ .empty (legible_columnNamesScript isSign free)

theorem OnConflict.legible_script {clause : OnConflict}
    (free : FreeOf sign clause.verbatimTexts) : clause.script.Legible sign := by
  obtain ⟨targetFree, actionFree⟩ := freeOf_append.mp free
  obtain ⟨actionLegible, actionApart⟩ := ConflictAction.legible_script isSign actionFree
  rw [OnConflict.script, Script.append_assoc]
  exact .fixed_append isSign (by decide)
    ((legible_columnNames isSign targetFree).append actionLegible actionApart)

theorem Insert.legible_script {statement : Insert} (free : FreeOf sign statement.verbatimTexts) :
    statement.script.Legible sign := by
  simp only [Insert.verbatimTexts, freeOf_cons, freeOf_append] at free
  obtain ⟨leadingFree, trailingFree, commentFree, ⟨⟨⟨⟨queriesFree, tableFree⟩, columnsFree⟩,
    sourceFree⟩, conflictFree⟩, returningFree⟩ := free
  have conflictLegible : (onConflictScript statement.onConflict).Legible sign := by
    cases isClause : statement.onConflict with
    | none => exact .empty
    | some clause =>
      have clauseFree := conflictFree.of_flatMap clause (by simp [isClause])
      exact .fixed_append isSign (by decide) (clause.legible_script isSign clauseFree)
  have returningLegible := legible_columnsScript isSign (by decide : IsFixed "RETURNING ")
    returningFree
  have upToSource := (legible_columnNames isSign columnsFree).append_clause isSign
    statement.source.isEmpty (statement.source.legible_script isSign sourceFree)
  have upToConflict := upToSource.append conflictLegible (setApart_onConflict _)
  have upToReturning := upToConflict.append_clause isSign statement.returning.isEmpty
    returningLegible
  have clausesLegible : statement.clauses.Legible sign := upToReturning.append
    (legible_closingScript isSign trailingFree commentFree) (setApart_closing _ _)
  have bodyLegible : (.text "INSERT " ++ (.text "INTO " ++ (statement.table.script
      ++ statement.clauses)) : Script).Legible sign :=
    .fixed_append isSign (by decide) (.fixed_append isSign (by decide)
      ((statement.table.legible_script isSign tableFree).append clausesLegible
        statement.setApart_clauses))
  have opened := Legible.require_append .insertTable statement.isEmpty
    (legible_openingScript_append isSign leadingFree
      (WithQuery.legible_scripts isSign statement.withQueries queriesFree) bodyLegible)
  simpa only [Insert.script, intoScript, Insert.clauses, Script.append_assoc] using opened

theorem Update.legible_script {statement : Update} (free : FreeOf sign statement.verbatimTexts) :
    statement.script.Legible sign := by
  simp only [Update.verbatimTexts, freeOf_cons, freeOf_append] at free
  obtain ⟨leadingFree, trailingFree, commentFree, ⟨⟨⟨⟨queriesFree, tableFree⟩, assignmentsFree⟩,
    sourceFree⟩, filterFree⟩, returningFree⟩ := free
  have filterLegible := Expression.legible_conditionScript isSign .filter statement.filter
    filterFree
  have returningLegible := legible_columnsScript isSign (by decide : IsFixed "RETURNING ")
    returningFree
  have fixedText : IsFixed (if statement.only then "UPDATE ONLY " else "UPDATE ") := by
    cases statement.only <;> decide
  have upToSource := (Legible.fixed_append isSign (by decide : IsFixed " ")
    (legible_setScript isSign assignmentsFree)).append_clause isSign statement.source.isEmpty
      (statement.source.legible_script isSign sourceFree)
  have upToFilter := upToSource.append_clause isSign (lacksCondition statement.filter)
    filterLegible
  have upToReturning := upToFilter.append_clause isSign statement.returning.isEmpty
    returningLegible
  have clausesLegible : statement.clauses.Legible sign := upToReturning.append
    (legible_closingScript isSign trailingFree commentFree) (setApart_closing _ _)
  have bodyLegible := Legible.fixed_append isSign fixedText
    ((statement.table.legible_script isSign tableFree).append clausesLegible
      statement.setApart_clauses)
  have opened := Legible.require_append .updateTable statement.table.isEmpty
    (.require_append .updateAssignments statement.assignments.isEmpty
      (legible_openingScript_append isSign leadingFree
        (WithQuery.legible_scripts isSign statement.withQueries queriesFree) bodyLegible))
  simpa only [Update.script, Update.clauses, Script.append_assoc] using opened

theorem Delete.legible_script {statement : Delete} (free : FreeOf sign statement.verbatimTexts) :
    statement.script.Legible sign := by
  simp only [Delete.verbatimTexts, freeOf_cons, freeOf_append] at free
  obtain ⟨leadingFree, trailingFree, commentFree, ⟨⟨⟨queriesFree, sourceFree⟩, usingFree⟩,
    filterFree⟩, returningFree⟩ := free
  have filterLegible := Expression.legible_conditionScript isSign .filter statement.filter
    filterFree
  have returningLegible := legible_columnsScript isSign (by decide : IsFixed "RETURNING ")
    returningFree
  have upToFilter := (Legible.clause isSign (statement.usingTables.all Table.isEmpty)
    (legible_usingScript isSign usingFree)).append_clause isSign
      (lacksCondition statement.filter) filterLegible
  have upToReturning := upToFilter.append_clause isSign statement.returning.isEmpty
    returningLegible
  have clausesLegible : statement.clauses.Legible sign := upToReturning.append
    (legible_closingScript isSign trailingFree commentFree) (setApart_closing _ _)
  have bodyLegible := Legible.fixed_append isSign (by decide : IsFixed "DELETE ")
    ((statement.source.legible_script isSign sourceFree).append clausesLegible
      statement.setApart_clauses)
  have opened := Legible.require_append .deleteSource statement.isEmpty
    (legible_openingScript_append isSign leadingFree
      (WithQuery.legible_scripts isSign statement.withQueries queriesFree) bodyLegible)
  simpa only [Delete.script, Delete.clauses, Script.append_assoc] using opened

/-- Every node whose texts are free of the sign is legible. -/
theorem Node.legible_script {node : Node} (free : FreeOf sign node.verbatimTexts) :
    node.script.Legible sign := by
  cases node with
  | select statement => exact statement.legible_script isSign free
  | insert statement => exact statement.legible_script isSign free
  | update statement => exact statement.legible_script isSign free
  | delete statement => exact statement.legible_script isSign free
  | expression node => exact node.legible_script isSign free
  | operator node => exact node.legible_script isSign
  | selectItem item => exact item.legible_script isSign free
  | table named => exact named.legible_script isSign free
  | joinCondition node => exact node.legible_script isSign free
  | join node => exact node.legible_script isSign free
  | condition clause node => exact Expression.legible_conditionScript isSign clause node free
  | fromClause clause => exact clause.legible_script isSign free
  | into named => exact legible_intoScript isSign free
  | usingTables tables => exact legible_usingScript isSign free
  | assignments pairs => exact legible_setScript isSign free
  | values rows => exact legible_valuesScript isSign free
  | source given => exact given.legible_script isSign free
  | groupBy columns => exact legible_columnsScript isSign (by decide) free
  | order entry => exact entry.legible_script isSign free
  | orderBy entries => exact legible_orderByScript isSign free
  | limit count => exact legible_limitScript isSign count
  | offset count => exact legible_offsetScript isSign count
  | returning columns => exact legible_columnsScript isSign (by decide) free
  | withQueries queries =>
    exact legible_withScript isSign (WithQuery.legible_scripts isSign queries free)
  | withQuery query => exact query.legible_script isSign free
  | outerText text => exact legible_outerTextScript (freeOf_cons.mp free).1
  | comment text => exact legible_commentScript isSign (freeOf_cons.mp free).1
  | onConflict clause => exact clause.legible_script isSign free

end Trees

end SqlTree
