import SqlTree.Proofs.Render.Unwrapping
import SqlTree.Proofs.Render.Values
import SqlTree.Proofs.Render.Violations

/-!
# What wrappers show

When wrappers are removed from a node, the violation and the arguments stay the same.  The text
stays the same, too, but for one thing: a wrapped query that is the operand of IN or EXISTS has two
pairs of parentheses around it, and loses one of them with its last wrapper.
-/

namespace SqlTree

/-! ## Parentheses -/

/-- The first text is the second one with the given number of pairs of parentheses added. -/
inductive AddsParentheses : (pairs : Nat) → (text plain : String) → Prop where
  | none (text : String) : AddsParentheses 0 text text
  | append {pairs more : Nat} {text plain behind plainBehind : String}
      (adds : AddsParentheses pairs text plain)
      (addsBehind : AddsParentheses more behind plainBehind) :
    AddsParentheses (pairs + more) (text ++ behind) (plain ++ plainBehind)
  | pair {pairs : Nat} {text plain : String} (adds : AddsParentheses pairs text plain) :
    AddsParentheses (pairs + 1) ("(" ++ text ++ ")") plain

namespace AddsParentheses

variable {pairs : Nat} {text plain : String}

theorem length_eq (adds : AddsParentheses pairs text plain) :
    text.length = plain.length + 2 * pairs := by
  induction adds with
  | none text => simp
  | append adds addsBehind ih ihBehind =>
    simp only [String.length_append, ih, ihBehind]
    omega
  | @pair pairs text plain adds ih =>
    have opening : "(".length = 1 := by decide
    have closing : ")".length = 1 := by decide
    simp only [String.length_append, ih, opening, closing]
    omega

theorem eq_of_no_pairs (adds : AddsParentheses pairs text plain) (noPairs : pairs = 0) :
    text = plain := by
  induction adds with
  | none text => rfl
  | append adds addsBehind ih ihBehind => rw [ih (by omega), ihBehind (by omega)]
  | pair adds ih => omega

theorem eq_iff (adds : AddsParentheses pairs text plain) : text = plain ↔ pairs = 0 := by
  refine ⟨fun same => ?_, adds.eq_of_no_pairs⟩
  have lengths := adds.length_eq
  rw [same] at lengths
  omega

end AddsParentheses

theorem Piece.textFrom_append (mark : Nat → Scalar → String) (bound : Nat)
    (first second : List Piece) :
    textFrom mark bound (first ++ second) =
      textFrom mark bound first ++ textFrom mark (bound + (boundValues first).length) second := by
  induction first generalizing bound with
  | nil => simp
  | cons piece rest ih =>
    cases piece with
    | text content => simp [ih, String.append_assoc]
    | bind value => simp [ih, String.append_assoc, Nat.add_assoc, Nat.add_comm 1]

theorem Script.append_of_broken {first : Script} {violation : Violation}
    (broken : first.violation = some violation) (second : Script) : first ++ second = first := by
  obtain ⟨pieces, firstViolation⟩ := first
  subst broken
  rfl

/-- Both scripts break off with the same violation, or they bind the same values and the texts that
they leave differ in the given number of pairs of parentheses. -/
structure Script.AddsParentheses (pairs : Nat) (script plain : Script) : Prop where
  violation_eq : script.violation = plain.violation
  boundValues_eq : script.violation = none →
    Piece.boundValues script.pieces = Piece.boundValues plain.pieces
  text_adds : script.violation = none → ∀ mark bound,
    SqlTree.AddsParentheses pairs (Piece.textFrom mark bound script.pieces)
      (Piece.textFrom mark bound plain.pieces)

/-- The parentheses are added to the scripts of two lists, one by one. -/
inductive Script.EachAddsParentheses : (pairs : Nat) → (scripts plain : List Script) → Prop where
  | nil : EachAddsParentheses 0 [] []
  | cons {pairs more : Nat} {script plain : Script} {scripts others : List Script}
      (adds : script.AddsParentheses pairs plain)
      (addOthers : EachAddsParentheses more scripts others) :
    EachAddsParentheses (pairs + more) (script :: scripts) (plain :: others)

namespace Script.AddsParentheses

variable {pairs more : Nat} {script plain behind plainBehind : Script}

theorem same (script : Script) : script.AddsParentheses 0 script :=
  ⟨rfl, fun _ => rfl, fun _ _ _ => .none _⟩

theorem append (adds : script.AddsParentheses pairs plain)
    (addsBehind : behind.AddsParentheses more plainBehind) :
    (script ++ behind).AddsParentheses (pairs + more) (plain ++ plainBehind) := by
  cases violation : script.violation with
  | some found =>
    have plainViolation := adds.violation_eq.symm.trans violation
    rw [append_of_broken violation, append_of_broken plainViolation]
    have broken : script.violation ≠ none := by simp [violation]
    exact ⟨adds.violation_eq, fun unbroken => absurd unbroken broken,
      fun unbroken => absurd unbroken broken⟩
  | none =>
    have plainViolation := adds.violation_eq.symm.trans violation
    have sameValues := adds.boundValues_eq violation
    have behindOf (unbroken : (script ++ behind).violation = none) : behind.violation = none :=
      (violation_append.mp unbroken).2
    refine ⟨?_, fun unbroken => ?_, fun unbroken mark bound => ?_⟩
    · rw [violation_append_of_unbroken violation, violation_append_of_unbroken plainViolation,
        addsBehind.violation_eq]
    · rw [pieces_append violation, pieces_append plainViolation, Piece.boundValues_append,
        Piece.boundValues_append, sameValues, addsBehind.boundValues_eq (behindOf unbroken)]
    · rw [pieces_append violation, pieces_append plainViolation, Piece.textFrom_append,
        Piece.textFrom_append, sameValues]
      exact (adds.text_adds violation mark bound).append
        (addsBehind.text_adds (behindOf unbroken) mark _)

/-- Nothing is added in front. -/
theorem after (front : Script) (adds : script.AddsParentheses pairs plain) :
    (front ++ script).AddsParentheses pairs (front ++ plain) := by
  have whole := (same front).append adds
  rw [Nat.zero_add] at whole
  exact whole

/-- Nothing is added behind. -/
theorem before (rest : Script) (adds : script.AddsParentheses pairs plain) :
    (script ++ rest).AddsParentheses pairs (plain ++ rest) :=
  adds.append (same rest)

theorem parenthesized (adds : script.AddsParentheses pairs plain) :
    script.parenthesized.AddsParentheses pairs plain.parenthesized :=
  (adds.after (text "(")).before (text ")")

/-- One more pair of parentheses. -/
theorem pair (adds : script.AddsParentheses pairs plain) :
    script.parenthesized.AddsParentheses (pairs + 1) plain := by
  have violationEq : script.parenthesized.violation = script.violation := by
    unfold Script.parenthesized
    cases violation : script.violation with
    | none => exact violation_append.mpr ⟨violation_append.mpr ⟨rfl, violation⟩, rfl⟩
    | some found =>
      have opened : (text "(" ++ script).violation = some found :=
        (violation_append_of_unbroken rfl script).trans violation
      rw [append_of_broken opened, opened]
  have piecesEq (unbroken : script.violation = none) :
      script.parenthesized.pieces = .text "(" :: (script.pieces ++ [.text ")"]) := by
    have opened : (text "(" ++ script).violation = none := violation_append.mpr ⟨rfl, unbroken⟩
    rw [Script.parenthesized, pieces_append opened]
    rfl
  refine ⟨violationEq.trans adds.violation_eq, fun unbroken => ?_, fun unbroken mark bound => ?_⟩
  · rw [violationEq] at unbroken
    rw [piecesEq unbroken, Piece.boundValues, Piece.boundValues_append,
      adds.boundValues_eq unbroken]
    exact List.append_nil _
  · rw [violationEq] at unbroken
    have textEq : Piece.textFrom mark bound script.parenthesized.pieces =
        "(" ++ Piece.textFrom mark bound script.pieces ++ ")" := by
      rw [piecesEq unbroken, Piece.textFrom, Piece.textFrom_append, String.append_assoc]
      simp
    rw [textEq]
    exact (adds.text_adds unbroken mark bound).pair

theorem clause (isAbsent : Bool) (adds : script.AddsParentheses pairs plain) :
    (Script.clause isAbsent script).AddsParentheses (if isAbsent then 0 else pairs)
      (Script.clause isAbsent plain) := by
  cases isAbsent with
  | true => exact same _
  | false => exact adds.after (text " ")

theorem leading (isAbsent : Bool) (adds : script.AddsParentheses pairs plain) :
    (Script.leading isAbsent script).AddsParentheses (if isAbsent then 0 else pairs)
      (Script.leading isAbsent plain) := by
  cases isAbsent with
  | true => exact same _
  | false => exact adds.before (text " ")

end Script.AddsParentheses

namespace Script.EachAddsParentheses

variable {pairs : Nat} {scripts others : List Script}

theorem commaSeparated (add : EachAddsParentheses pairs scripts others) :
    (Script.commaSeparated scripts).AddsParentheses pairs (Script.commaSeparated others) := by
  induction add with
  | nil => exact .same _
  | @cons pairs more script plain scripts others adds addOthers ih =>
    cases addOthers with
    | nil => exact adds
    | cons addsNext addOthers => exact (adds.before (text ", ")).append ih

end Script.EachAddsParentheses

/-! ## Expressions and queries -/

open Script (AddsParentheses EachAddsParentheses)

/-- What is no query gets parentheses as an operand, and loses them by becoming one. -/
theorem Expression.addsParentheses_operand {removed : Unwrapping} {operand : Expression}
    {pairs : Nat}
    (adds : operand.script.AddsParentheses pairs (operand.unwrap removed).script) :
    (if operand.isSubquery then operand.script
      else .parenthesized operand.script).AddsParentheses
        (pairs + (operand.becomesSubquery removed).toNat)
      (if (operand.unwrap removed).isSubquery then (operand.unwrap removed).script
        else .parenthesized (operand.unwrap removed).script) := by
  unfold becomesSubquery
  cases isQuery : operand.isSubquery with
  | true =>
    rw [isSubquery_unwrap isQuery]
    exact adds
  | false =>
    cases (operand.unwrap removed).isSubquery with
    | true => exact adds.pair
    | false => exact adds.parenthesized

theorem addsParentheses_openingScript (leadingText : String) {pairs : Nat}
    {queries others : List Script} (add : EachAddsParentheses pairs queries others) :
    (openingScript leadingText queries).AddsParentheses pairs
      (openingScript leadingText others) := by
  refine AddsParentheses.after _ ?_
  cases add with
  | nil => exact .same _
  | cons adds addOthers =>
    have addAll := (EachAddsParentheses.cons adds addOthers).commaSeparated
    exact (addAll.after (.text "WITH ")).leading false

mutual

theorem Expression.addsParentheses_script (removed : Unwrapping) :
    (expression : Expression) →
      expression.script.AddsParentheses (expression.bared removed)
        (expression.unwrap removed).script
  | .identifier _ | .column _ | .value _ | .fragment _ | .aggregate _ => .same _
  | .array items => (Expression.addsParentheses_scripts removed items).commaSeparated
  | .binary left operator right => by
    have addsLeft := left.addsParentheses_script (removed.within 0)
    have addsRight := right.addsParentheses_script (removed.within 1)
    have upToOperator := ((addsLeft.after (.text "(")).before (.text " ")).before operator.script
    exact ((upToOperator.before (.text " ")).append addsRight).before (.text ")")
  | .between name operator lower connective upper => by
    have addsLower := lower.addsParentheses_script (removed.within 0)
    have addsUpper := upper.addsParentheses_script (removed.within 1)
    have upToLower := addsLower.after
      (.text "(" ++ .text name ++ .text " " ++ .text operator.text ++ .text " ")
    have upToConnective := (upToLower.before (.text " ")).before (.text connective.text)
    exact ((upToConnective.before (.text " ")).append addsUpper).before (.text ")")
  | .membership tested operator candidates => by
    have addsTested := tested.addsParentheses_script (removed.within 0)
    have addsCandidates := candidates.addsParentheses_script (removed.within 1)
    have upToOperator :=
      ((addsTested.after (.text "(")).before (.text " ")).before (.text operator.text)
    exact ((upToOperator.before (.text " ")).append
      (Expression.addsParentheses_operand addsCandidates)).before (.text ")")
  | .existence negated subject => by
    have addsSubject := subject.addsParentheses_script (removed.within 0)
    exact (Expression.addsParentheses_operand addsSubject).after
      (.text (if negated then "NOT EXISTS " else "EXISTS "))
  | .wrapped inner => by
    have adds := inner.addsParentheses_script (removed.within 0)
    rw [Expression.unwrap]
    split <;> exact adds
  | .subquery query => (query.addsParentheses_script (removed.within 0)).parenthesized

theorem Expression.addsParentheses_scripts (removed : Unwrapping) :
    (items : List Expression) →
      EachAddsParentheses (Expression.baredList removed items) (Expression.scripts items)
        (Expression.scripts (Expression.unwrapList removed items))
  | [] => .nil
  | item :: rest =>
    .cons (item.addsParentheses_script (removed.within 0))
      (Expression.addsParentheses_scripts (removed.within 1) rest)

theorem Expression.addsParentheses_conditionScript (clause : ConditionClause)
    (removed : Unwrapping) :
    (condition : Option Expression) →
      (Expression.conditionScript clause condition).AddsParentheses
        (Expression.baredOption removed condition)
        (Expression.conditionScript clause (Expression.unwrapOption removed condition))
  | some condition =>
    (condition.addsParentheses_script (removed.within 0)).after (.text (clause.text ++ " "))
  | none => .same _

theorem WithQuery.addsParentheses_script (removed : Unwrapping) :
    (named : WithQuery) →
      named.script.AddsParentheses (named.bared removed) (named.unwrap removed).script
  | ⟨name, query⟩ => by
    have upToQuery := (query.addsParentheses_script (removed.within 0)).after
      (Script.text name ++ .text " AS (")
    exact upToQuery.before (.text ")")

theorem WithQuery.addsParentheses_scripts (removed : Unwrapping) :
    (queries : List WithQuery) →
      EachAddsParentheses (WithQuery.baredList removed queries) (WithQuery.scripts queries)
        (WithQuery.scripts (WithQuery.unwrapList removed queries))
  | [] => .nil
  | named :: rest =>
    .cons (named.addsParentheses_script (removed.within 0))
      (WithQuery.addsParentheses_scripts (removed.within 1) rest)

theorem Select.addsParentheses_script (removed : Unwrapping) :
    (query : Select) → query.script.AddsParentheses (query.bared removed)
      (query.unwrap removed).script
  | ⟨withQueries, leadingText, distinct, items, source, joins, filter, groupBy, having, orderBy,
      limit, offset, trailingText, comment⟩ => by
    have addQueries := WithQuery.addsParentheses_scripts (removed.within 0) withQueries
    have addsFilter := Expression.addsParentheses_conditionScript .filter (removed.within 1) filter
    have addsHaving := Expression.addsParentheses_conditionScript .having (removed.within 2) having
    have upToJoins :=
      (((((addsParentheses_openingScript leadingText addQueries).after
        (.require .selectItems items.isEmpty)).before
        (.text (if distinct then "SELECT DISTINCT " else "SELECT "))).before
        (.commaSeparated (items.map SelectItem.script))).before
        (.clause source.isEmpty source.script)).before (joinsScript joins)
    have upToHaving :=
      ((upToJoins.append (addsFilter.clause (lacksCondition filter))).before
        (.clause groupBy.isEmpty (groupByScript groupBy))).append
        (addsHaving.clause (lacksCondition having))
    simp only [Select.unwrap, Select.script, lacksCondition_unwrapOption]
    exact (((upToHaving.before (.clause orderBy.isEmpty (orderByScript orderBy))).before
      (.clause limit.isNone (limitScript limit))).before
      (.clause offset.isNone (offsetScript offset))).before (closingScript trailingText comment)

end

/-! ## The other statements -/

theorem Unwrapping.eachAddsParentheses {Item : Type} {script : Item → Script}
    {unwrap : Unwrapping → Item → Item} {count : Unwrapping → Item → Nat}
    (adds : ∀ removed item,
      (script item).AddsParentheses (count removed item) (script (unwrap removed item)))
    (removed : Unwrapping) (items : List Item) :
    EachAddsParentheses (total count removed items) (items.map script)
      ((list unwrap removed items).map script) := by
  induction items generalizing removed with
  | nil => exact .nil
  | cons item rest ih => exact .cons (adds (removed.within 0) item) (ih (removed.within 1))

open Unwrapping (list total eachAddsParentheses)

theorem Assignment.addsParentheses_script (removed : Unwrapping) (assignment : Assignment) :
    assignment.script.AddsParentheses (assignment.bared removed)
      (assignment.unwrap removed).script := by
  have adds := (assignment.value.addsParentheses_script removed).after
    (Script.text assignment.column.name ++ .text " = ")
  exact adds

theorem addsParentheses_setScript (removed : Unwrapping) (assignments : List Assignment) :
    (setScript assignments).AddsParentheses (total Assignment.bared removed assignments)
      (setScript (list Assignment.unwrap removed assignments)) :=
  (eachAddsParentheses Assignment.addsParentheses_script removed assignments).commaSeparated.after
    (.text "SET ")

theorem addsParentheses_valuesScript (removed : Unwrapping) (rows : List (List Expression)) :
    (valuesScript rows).AddsParentheses (total Expression.baredList removed rows)
      (valuesScript (list Expression.unwrapList removed rows)) := by
  have addsRow (removed : Unwrapping) (row : List Expression) :
      (Script.parenthesized (Expression.script (.array row))).AddsParentheses
        (Expression.baredList removed row)
        (Script.parenthesized (Expression.script (.array (Expression.unwrapList removed row)))) :=
    (Expression.addsParentheses_scripts removed row).commaSeparated.parenthesized
  exact (eachAddsParentheses addsRow removed rows).commaSeparated.after (.text "VALUES ")

theorem InsertSource.addsParentheses_script (removed : Unwrapping) (source : InsertSource) :
    source.script.AddsParentheses (source.bared removed) (source.unwrap removed).script := by
  cases source with
  | rows given => exact addsParentheses_valuesScript removed given
  | query select => exact select.addsParentheses_script removed

theorem ConflictAction.addsParentheses_script (removed : Unwrapping) (action : ConflictAction) :
    action.script.AddsParentheses (action.bared removed) (action.unwrap removed).script := by
  cases action with
  | doNothing => exact .same _
  | doUpdate assignments =>
    simp only [unwrap, script, Unwrapping.isEmpty_list]
    exact (addsParentheses_setScript removed assignments).after _

theorem OnConflict.addsParentheses_script (removed : Unwrapping) (clause : OnConflict) :
    clause.script.AddsParentheses (clause.action.bared removed) (clause.unwrap removed).script :=
  (clause.action.addsParentheses_script removed).after _

theorem addsParentheses_onConflictScript (removed : Unwrapping) (clause : Option OnConflict) :
    (onConflictScript clause).AddsParentheses (OnConflict.baredOption removed clause)
      (onConflictScript (clause.map (OnConflict.unwrap removed))) := by
  cases clause with
  | none => exact .same _
  | some clause => exact (clause.addsParentheses_script removed).after (.text " ")

theorem Insert.addsParentheses_script (removed : Unwrapping) (statement : Insert) :
    statement.script.AddsParentheses (statement.bared removed)
      (statement.unwrap removed).script := by
  have addQueries := WithQuery.addsParentheses_scripts (removed.within 0) statement.withQueries
  have addsSource := statement.source.addsParentheses_script (removed.within 1)
  have addsConflict := addsParentheses_onConflictScript (removed.within 2) statement.onConflict
  have upToColumns :=
    ((((addsParentheses_openingScript statement.leadingText addQueries).after
      (.require .insertTable statement.isEmpty)).before (.text "INSERT ")).before
      (intoScript statement.table)).before
      (if statement.columns.isEmpty then .empty else columnNamesScript statement.columns)
  have upToConflict :=
    (upToColumns.append (addsSource.clause statement.source.isEmpty)).append addsConflict
  simp only [unwrap, script, InsertSource.isEmpty_unwrap]
  exact (upToConflict.before
    (.clause statement.returning.isEmpty (returningScript statement.returning))).before
    (closingScript statement.trailingText statement.comment)

theorem Update.addsParentheses_script (removed : Unwrapping) (statement : Update) :
    statement.script.AddsParentheses (statement.bared removed)
      (statement.unwrap removed).script := by
  have addQueries := WithQuery.addsParentheses_scripts (removed.within 0) statement.withQueries
  have addsAssignments := addsParentheses_setScript (removed.within 1) statement.assignments
  have addsFilter :=
    Expression.addsParentheses_conditionScript .filter (removed.within 2) statement.filter
  have upToTable :=
    (((addsParentheses_openingScript statement.leadingText addQueries).after
      (.require .updateTable statement.table.isEmpty
        ++ .require .updateAssignments statement.assignments.isEmpty)).before
      (.text (if statement.only then "UPDATE ONLY " else "UPDATE "))).before statement.table.script
  have upToFilter :=
    (((upToTable.before (.text " ")).append addsAssignments).before
      (.clause statement.source.isEmpty statement.source.script)).append
      (addsFilter.clause (lacksCondition statement.filter))
  simp only [unwrap, script, Unwrapping.isEmpty_list, lacksCondition_unwrapOption]
  exact (upToFilter.before
    (.clause statement.returning.isEmpty (returningScript statement.returning))).before
    (closingScript statement.trailingText statement.comment)

theorem Delete.addsParentheses_script (removed : Unwrapping) (statement : Delete) :
    statement.script.AddsParentheses (statement.bared removed)
      (statement.unwrap removed).script := by
  have addQueries := WithQuery.addsParentheses_scripts (removed.within 0) statement.withQueries
  have addsFilter :=
    Expression.addsParentheses_conditionScript .filter (removed.within 1) statement.filter
  have upToUsing :=
    ((((addsParentheses_openingScript statement.leadingText addQueries).after
      (.require .deleteSource statement.isEmpty)).before (.text "DELETE ")).before
      statement.source.script).before
      (.clause (statement.usingTables.all Table.isEmpty) (usingScript statement.usingTables))
  have upToFilter := upToUsing.append (addsFilter.clause (lacksCondition statement.filter))
  simp only [unwrap, script, lacksCondition_unwrapOption]
  exact (upToFilter.before
    (.clause statement.returning.isEmpty (returningScript statement.returning))).before
    (closingScript statement.trailingText statement.comment)

theorem Node.addsParentheses_script (removed : Unwrapping) (node : Node) :
    node.script.AddsParentheses (node.bared removed) (node.unwrap removed).script := by
  cases node with
  | select statement => exact statement.addsParentheses_script removed
  | insert statement => exact statement.addsParentheses_script removed
  | update statement => exact statement.addsParentheses_script removed
  | delete statement => exact statement.addsParentheses_script removed
  | expression expression => exact expression.addsParentheses_script removed
  | condition clause condition =>
    exact Expression.addsParentheses_conditionScript clause removed condition
  | assignments assignments => exact addsParentheses_setScript removed assignments
  | values rows => exact addsParentheses_valuesScript removed rows
  | source given => exact given.addsParentheses_script removed
  | withQueries queries =>
    exact (WithQuery.addsParentheses_scripts removed queries).commaSeparated.after (.text "WITH ")
  | withQuery query => exact query.addsParentheses_script removed
  | onConflict clause => exact clause.addsParentheses_script removed
  | _ => exact .same _

/-! ## Rendered nodes -/

/-- A node without some of its wrappers is empty if and only if the node is.  In every mode, both
break the same rule, or both have the same arguments and their texts differ in one pair of
parentheses for each operand of IN and EXISTS that is shown and has become a query.  So the texts
are the same if and only if there is none. -/
theorem Node.render_unwrap (removed : Unwrapping) (node : Node) :
    (node.unwrap removed).isEmpty = node.isEmpty ∧
    ∀ mode : RenderMode,
      (∃ violation, node.render mode = .error violation ∧
        (node.unwrap removed).render mode = .error violation) ∨
      ∃ context plain : Context mode, node.render mode = .ok context ∧
        (node.unwrap removed).render mode = .ok plain ∧ context.arguments = plain.arguments ∧
        AddsParentheses (node.bared removed) context.sql plain.sql ∧
        (context.sql = plain.sql ↔ node.bared removed = 0) := by
  refine ⟨node.isEmpty_unwrap removed, fun mode => ?_⟩
  have adds := node.addsParentheses_script removed
  rw [Node.render_eq node, Node.render_eq (node.unwrap removed), ← adds.violation_eq]
  cases violation : node.script.violation with
  | some found => exact .inl ⟨found, rfl, rfl⟩
  | none =>
    have textAdds := adds.text_adds violation mode.mark 0
    refine .inr ⟨_, _, rfl, rfl, ?_, textAdds, textAdds.eq_iff⟩
    rw [adds.boundValues_eq violation]

/-- A test for being among the rows of a query, with the given operand for the query. -/
def membershipIn (candidates : Expression) : Node :=
  .expression (.membership (.identifier "a") .isIn candidates)

def idsOfB : Expression :=
  .subquery { items := [.column { name := "id" }], source := { table := { name := "b" } } }

/-- The wrapper around a query that is the operand of IN is shown. -/
theorem Node.wrapper_shown_around_operand :
    (membershipIn (.wrapped idsOfB)).unwrap (fun _ => true) = membershipIn idsOfB ∧
    (∃ context : Context .raw, (membershipIn (.wrapped idsOfB)).render .raw = .ok context ∧
      context.sql = "(a IN ((SELECT id FROM b)))") ∧
    ∃ plain : Context .raw, (membershipIn idsOfB).render .raw = .ok plain ∧
      plain.sql = "(a IN (SELECT id FROM b))" := by
  refine ⟨rfl, ?_, ?_⟩
  · rw [Node.render_eq]
    exact ⟨_, rfl, by decide⟩
  · rw [Node.render_eq]
    exact ⟨_, rfl, by decide⟩

end SqlTree
