import SqlTree.Proofs.Render.Revision

/-!
# Nodes that differ in their values only

Two nodes are alike if they are the same node once every value except NULL is blanked out.  Then the
second one is a revision of the first.
-/

namespace SqlTree

namespace Revision

/-- The revision that puts the same value in every place. -/
def blank : Revision :=
  fun _ _ => .boolean false

@[simp]
theorem within_blank (part : Nat) : blank.within part = blank :=
  rfl

/-- The revision that treats the parts of a node in its own way each. -/
def ofParts (parts : List Revision) : Revision
  | [], scalar => scalar
  | part :: place, scalar => parts.getD part unchanged place scalar

theorem keepsNonNull_ofParts {parts : List Revision}
    (keep : ∀ revision ∈ parts, revision.KeepsNonNull) : (ofParts parts).KeepsNonNull := by
  intro place scalar notNull
  cases place with
  | nil => exact notNull
  | cons part place =>
    change (parts.getD part unchanged place scalar).isNull = false
    rw [List.getD_eq_getElem?_getD]
    cases found : parts[part]? with
    | none => exact notNull
    | some revision =>
      exact keep revision (List.mem_of_getElem? found) place scalar notNull

theorem keepsNonNull_ofParts_two {first second : Revision} (firstKeeps : first.KeepsNonNull)
    (secondKeeps : second.KeepsNonNull) : (ofParts [first, second]).KeepsNonNull := by
  apply keepsNonNull_ofParts
  simp [firstKeeps, secondKeeps]

theorem keepsNonNull_ofParts_three {first second third : Revision}
    (firstKeeps : first.KeepsNonNull) (secondKeeps : second.KeepsNonNull)
    (thirdKeeps : third.KeepsNonNull) : (ofParts [first, second, third]).KeepsNonNull := by
  apply keepsNonNull_ofParts
  simp [firstKeeps, secondKeeps, thirdKeeps]

/-- Items that are the same once their values are blanked out are revisions of each other. -/
def Reaches {Item : Type} (revise : Revision → Item → Item) : Prop :=
  ∀ first second, revise blank first = revise blank second →
    ∃ revision : Revision, revision.KeepsNonNull ∧ revise revision first = second

theorem reaches_list {Item : Type} {revise : Revision → Item → Item} (reaches : Reaches revise) :
    Reaches (list revise) := by
  intro first second alike
  induction first generalizing second with
  | nil =>
    cases second with
    | nil => exact ⟨unchanged, keepsNonNull_unchanged, rfl⟩
    | cons other others => cases alike
  | cons item rest ih =>
    cases second with
    | nil => cases alike
    | cons other others =>
      simp only [list, within_blank, List.cons.injEq] at alike
      obtain ⟨itemRevision, itemKeeps, rfl⟩ := reaches item other alike.1
      obtain ⟨restRevision, restKeeps, rfl⟩ := ih others alike.2
      exact ⟨_, keepsNonNull_ofParts_two itemKeeps restKeeps, rfl⟩

end Revision

open Revision (Reaches blank keepsNonNull_unchanged keepsNonNull_ofParts_two
  keepsNonNull_ofParts_three within_blank)

/-- A value other than NULL can be put in the place of any other; NULL stays. -/
theorem Revision.exists_revise_value {scalar other : Scalar}
    (alike : (if scalar.isNull then scalar else blank [] scalar) =
      if other.isNull then other else blank [] other) :
    ∃ revision : Revision, revision.KeepsNonNull ∧
      (Expression.value scalar).revise revision = .value other := by
  cases null : scalar.isNull with
  | true =>
    cases otherNull : other.isNull with
    | true =>
      simp only [null, otherNull, if_true] at alike
      subst alike
      exact ⟨unchanged, keepsNonNull_unchanged, Expression.revise_unchanged _⟩
    | false =>
      simp only [null, otherNull, if_true, Bool.false_eq_true, if_false] at alike
      rw [alike] at null
      cases null
  | false =>
    cases otherNull : other.isNull with
    | true =>
      simp only [null, otherNull, if_true, Bool.false_eq_true, if_false] at alike
      rw [← alike] at otherNull
      cases otherNull
    | false =>
      refine ⟨fun _ _ => other, fun _ _ _ => otherNull, ?_⟩
      simp [Expression.revise, null]

mutual

/-- Expressions that are the same once their values are blanked out are revisions of each other. -/
theorem Expression.exists_revise :
    (first second : Expression) → first.revise blank = second.revise blank →
      ∃ revision : Revision, revision.KeepsNonNull ∧ first.revise revision = second
  | .identifier name, second, alike => by
    cases second with
    | identifier other => exact ⟨_, keepsNonNull_unchanged, alike⟩
    | _ => simp [Expression.revise] at alike
  | .column named, second, alike => by
    cases second with
    | column other => exact ⟨_, keepsNonNull_unchanged, alike⟩
    | _ => simp [Expression.revise] at alike
  | .value scalar, second, alike => by
    cases second with
    | value other =>
      simp only [Expression.revise, Expression.value.injEq] at alike
      exact Revision.exists_revise_value alike
    | _ => simp [Expression.revise] at alike
  | .fragment text, second, alike => by
    cases second with
    | fragment other => exact ⟨_, keepsNonNull_unchanged, alike⟩
    | _ => simp [Expression.revise] at alike
  | .aggregate call, second, alike => by
    cases second with
    | aggregate other => exact ⟨_, keepsNonNull_unchanged, alike⟩
    | _ => simp [Expression.revise] at alike
  | .array items, second, alike => by
    cases second with
    | array others =>
      simp only [Expression.revise, Expression.array.injEq] at alike
      obtain ⟨revision, keeps, rfl⟩ := Expression.exists_reviseList items others alike
      exact ⟨revision, keeps, rfl⟩
    | _ => simp [Expression.revise] at alike
  | .binary left operator right, second, alike => by
    cases second with
    | binary otherLeft otherOperator otherRight =>
      simp only [Expression.revise, within_blank, Expression.binary.injEq] at alike
      obtain ⟨leftAlike, rfl, rightAlike⟩ := alike
      obtain ⟨leftRevision, leftKeeps, rfl⟩ := left.exists_revise otherLeft leftAlike
      obtain ⟨rightRevision, rightKeeps, rfl⟩ := right.exists_revise otherRight rightAlike
      exact ⟨_, keepsNonNull_ofParts_two leftKeeps rightKeeps, rfl⟩
    | _ => simp [Expression.revise] at alike
  | .between name operator lower connective upper, second, alike => by
    cases second with
    | between otherName otherOperator otherLower otherConnective otherUpper =>
      simp only [Expression.revise, within_blank, Expression.between.injEq] at alike
      obtain ⟨rfl, rfl, lowerAlike, rfl, upperAlike⟩ := alike
      obtain ⟨lowerRevision, lowerKeeps, rfl⟩ := lower.exists_revise otherLower lowerAlike
      obtain ⟨upperRevision, upperKeeps, rfl⟩ := upper.exists_revise otherUpper upperAlike
      exact ⟨_, keepsNonNull_ofParts_two lowerKeeps upperKeeps, rfl⟩
    | _ => simp [Expression.revise] at alike
  | .membership tested operator candidates, second, alike => by
    cases second with
    | membership otherTested otherOperator otherCandidates =>
      simp only [Expression.revise, within_blank, Expression.membership.injEq] at alike
      obtain ⟨testedAlike, rfl, candidatesAlike⟩ := alike
      obtain ⟨testedRevision, testedKeeps, rfl⟩ := tested.exists_revise otherTested testedAlike
      obtain ⟨candidatesRevision, candidatesKeep, rfl⟩ :=
        candidates.exists_revise otherCandidates candidatesAlike
      exact ⟨_, keepsNonNull_ofParts_two testedKeeps candidatesKeep, rfl⟩
    | _ => simp [Expression.revise] at alike
  | .existence negated subject, second, alike => by
    cases second with
    | existence otherNegated otherSubject =>
      simp only [Expression.revise, within_blank, Expression.existence.injEq] at alike
      obtain ⟨rfl, subjectAlike⟩ := alike
      obtain ⟨revision, keeps, rfl⟩ := subject.exists_revise otherSubject subjectAlike
      exact ⟨_, keepsNonNull_ofParts_two keeps keeps, rfl⟩
    | _ => simp [Expression.revise] at alike
  | .wrapped inner, second, alike => by
    cases second with
    | wrapped otherInner =>
      simp only [Expression.revise, within_blank, Expression.wrapped.injEq] at alike
      obtain ⟨revision, keeps, rfl⟩ := inner.exists_revise otherInner alike
      exact ⟨_, keepsNonNull_ofParts_two keeps keeps, rfl⟩
    | _ => simp [Expression.revise] at alike
  | .subquery query, second, alike => by
    cases second with
    | subquery otherQuery =>
      simp only [Expression.revise, within_blank, Expression.subquery.injEq] at alike
      obtain ⟨revision, keeps, rfl⟩ := query.exists_revise otherQuery alike
      exact ⟨_, keepsNonNull_ofParts_two keeps keeps, rfl⟩
    | _ => simp [Expression.revise] at alike

theorem Expression.exists_reviseList :
    (first second : List Expression) →
      Expression.reviseList blank first = Expression.reviseList blank second →
      ∃ revision : Revision, revision.KeepsNonNull ∧ Expression.reviseList revision first = second
  | [], [], _ => ⟨_, keepsNonNull_unchanged, rfl⟩
  | [], other :: others, alike => by cases alike
  | item :: rest, [], alike => by cases alike
  | item :: rest, other :: others, alike => by
    simp only [Expression.reviseList, within_blank, List.cons.injEq] at alike
    obtain ⟨itemRevision, itemKeeps, rfl⟩ := item.exists_revise other alike.1
    obtain ⟨restRevision, restKeeps, rfl⟩ := Expression.exists_reviseList rest others alike.2
    exact ⟨_, keepsNonNull_ofParts_two itemKeeps restKeeps, rfl⟩

theorem Expression.exists_reviseOption :
    (first second : Option Expression) →
      Expression.reviseOption blank first = Expression.reviseOption blank second →
      ∃ revision : Revision,
        revision.KeepsNonNull ∧ Expression.reviseOption revision first = second
  | none, none, _ => ⟨_, keepsNonNull_unchanged, rfl⟩
  | none, some other, alike => by cases alike
  | some condition, none, alike => by cases alike
  | some condition, some other, alike => by
    simp only [Expression.reviseOption, within_blank, Option.some.injEq] at alike
    obtain ⟨revision, keeps, rfl⟩ := condition.exists_revise other alike
    exact ⟨_, keepsNonNull_ofParts_two keeps keeps, rfl⟩

theorem WithQuery.exists_revise :
    (first second : WithQuery) → first.revise blank = second.revise blank →
      ∃ revision : Revision, revision.KeepsNonNull ∧ first.revise revision = second
  | ⟨name, query⟩, ⟨otherName, otherQuery⟩, alike => by
    simp only [WithQuery.revise, within_blank, WithQuery.mk.injEq] at alike
    obtain ⟨rfl, queryAlike⟩ := alike
    obtain ⟨revision, keeps, rfl⟩ := query.exists_revise otherQuery queryAlike
    exact ⟨_, keepsNonNull_ofParts_two keeps keeps, rfl⟩

theorem WithQuery.exists_reviseList :
    (first second : List WithQuery) →
      WithQuery.reviseList blank first = WithQuery.reviseList blank second →
      ∃ revision : Revision, revision.KeepsNonNull ∧ WithQuery.reviseList revision first = second
  | [], [], _ => ⟨_, keepsNonNull_unchanged, rfl⟩
  | [], other :: others, alike => by cases alike
  | named :: rest, [], alike => by cases alike
  | named :: rest, other :: others, alike => by
    simp only [WithQuery.reviseList, within_blank, List.cons.injEq] at alike
    obtain ⟨namedRevision, namedKeeps, rfl⟩ := named.exists_revise other alike.1
    obtain ⟨restRevision, restKeeps, rfl⟩ := WithQuery.exists_reviseList rest others alike.2
    exact ⟨_, keepsNonNull_ofParts_two namedKeeps restKeeps, rfl⟩

theorem Select.exists_revise :
    (first second : Select) → first.revise blank = second.revise blank →
      ∃ revision : Revision, revision.KeepsNonNull ∧ first.revise revision = second
  | ⟨withQueries, _, _, _, _, _, filter, _, having, _, _, _, _, _⟩,
    ⟨otherQueries, _, _, _, _, _, otherFilter, _, otherHaving, _, _, _, _, _⟩, alike => by
    simp only [Select.revise, within_blank, Select.mk.injEq] at alike
    obtain ⟨queriesAlike, rfl, rfl, rfl, rfl, rfl, filterAlike, rfl, havingAlike, rfl, rfl, rfl,
      rfl, rfl⟩ := alike
    obtain ⟨queriesRevision, queriesKeep, rfl⟩ :=
      WithQuery.exists_reviseList withQueries otherQueries queriesAlike
    obtain ⟨filterRevision, filterKeeps, rfl⟩ :=
      Expression.exists_reviseOption filter otherFilter filterAlike
    obtain ⟨havingRevision, havingKeeps, rfl⟩ :=
      Expression.exists_reviseOption having otherHaving havingAlike
    exact ⟨_, keepsNonNull_ofParts_three queriesKeep filterKeeps havingKeeps, rfl⟩

end

/-! ## The other statements -/

theorem Assignment.exists_revise : Reaches Assignment.revise := by
  rintro ⟨column, value⟩ ⟨otherColumn, otherValue⟩ alike
  simp only [Assignment.revise, Assignment.mk.injEq] at alike
  obtain ⟨rfl, valueAlike⟩ := alike
  obtain ⟨revision, keeps, rfl⟩ := value.exists_revise otherValue valueAlike
  exact ⟨revision, keeps, rfl⟩

theorem InsertSource.exists_revise : Reaches InsertSource.revise := by
  intro first second alike
  cases first with
  | rows given =>
    cases second with
    | rows otherGiven =>
      simp only [InsertSource.revise, InsertSource.rows.injEq] at alike
      obtain ⟨revision, keeps, rfl⟩ :=
        Revision.reaches_list Expression.exists_reviseList given otherGiven alike
      exact ⟨revision, keeps, rfl⟩
    | query otherSelect => cases alike
  | query select =>
    cases second with
    | rows otherGiven => cases alike
    | query otherSelect =>
      simp only [InsertSource.revise, InsertSource.query.injEq] at alike
      obtain ⟨revision, keeps, rfl⟩ := select.exists_revise otherSelect alike
      exact ⟨revision, keeps, rfl⟩

theorem ConflictAction.exists_revise : Reaches ConflictAction.revise := by
  intro first second alike
  cases first with
  | doNothing =>
    cases second with
    | doNothing => exact ⟨_, keepsNonNull_unchanged, rfl⟩
    | doUpdate others => cases alike
  | doUpdate assignments =>
    cases second with
    | doNothing => cases alike
    | doUpdate others =>
      simp only [ConflictAction.revise, ConflictAction.doUpdate.injEq] at alike
      obtain ⟨revision, keeps, rfl⟩ :=
        Revision.reaches_list Assignment.exists_revise assignments others alike
      exact ⟨revision, keeps, rfl⟩

theorem OnConflict.exists_revise : Reaches OnConflict.revise := by
  rintro ⟨target, action⟩ ⟨otherTarget, otherAction⟩ alike
  simp only [OnConflict.revise, OnConflict.mk.injEq] at alike
  obtain ⟨rfl, actionAlike⟩ := alike
  obtain ⟨revision, keeps, rfl⟩ := ConflictAction.exists_revise action otherAction actionAlike
  exact ⟨revision, keeps, rfl⟩

theorem OnConflict.exists_revise_option :
    Reaches fun revision (clause : Option OnConflict) =>
      clause.map (OnConflict.revise revision) := by
  intro first second alike
  cases first with
  | none =>
    cases second with
    | none => exact ⟨_, keepsNonNull_unchanged, rfl⟩
    | some other => cases alike
  | some clause =>
    cases second with
    | none => cases alike
    | some other =>
      simp only [Option.map_some, Option.some.injEq] at alike
      obtain ⟨revision, keeps, rfl⟩ := OnConflict.exists_revise clause other alike
      exact ⟨revision, keeps, rfl⟩

theorem Insert.exists_revise : Reaches Insert.revise := by
  rintro ⟨queries, _, _, _, source, onConflict, _, _, _⟩
    ⟨otherQueries, _, _, _, otherSource, otherConflict, _, _, _⟩ alike
  simp only [Insert.revise, within_blank, Insert.mk.injEq] at alike
  obtain ⟨queriesAlike, rfl, rfl, rfl, sourceAlike, conflictAlike, rfl, rfl, rfl⟩ := alike
  obtain ⟨queriesRevision, queriesKeep, rfl⟩ :=
    WithQuery.exists_reviseList queries otherQueries queriesAlike
  obtain ⟨sourceRevision, sourceKeeps, rfl⟩ :=
    InsertSource.exists_revise source otherSource sourceAlike
  obtain ⟨conflictRevision, conflictKeeps, rfl⟩ :=
    OnConflict.exists_revise_option onConflict otherConflict conflictAlike
  exact ⟨_, keepsNonNull_ofParts_three queriesKeep sourceKeeps conflictKeeps, rfl⟩

theorem Update.exists_revise : Reaches Update.revise := by
  rintro ⟨queries, _, _, _, assignments, _, filter, _, _, _⟩
    ⟨otherQueries, _, _, _, otherAssignments, _, otherFilter, _, _, _⟩ alike
  simp only [Update.revise, within_blank, Update.mk.injEq] at alike
  obtain ⟨queriesAlike, rfl, rfl, rfl, assignmentsAlike, rfl, filterAlike, rfl, rfl, rfl⟩ := alike
  obtain ⟨queriesRevision, queriesKeep, rfl⟩ :=
    WithQuery.exists_reviseList queries otherQueries queriesAlike
  obtain ⟨assignmentsRevision, assignmentsKeep, rfl⟩ :=
    Revision.reaches_list Assignment.exists_revise assignments otherAssignments assignmentsAlike
  obtain ⟨filterRevision, filterKeeps, rfl⟩ :=
    Expression.exists_reviseOption filter otherFilter filterAlike
  exact ⟨_, keepsNonNull_ofParts_three queriesKeep assignmentsKeep filterKeeps, rfl⟩

theorem Delete.exists_revise : Reaches Delete.revise := by
  rintro ⟨queries, _, _, _, filter, _, _, _⟩
    ⟨otherQueries, _, _, _, otherFilter, _, _, _⟩ alike
  simp only [Delete.revise, within_blank, Delete.mk.injEq] at alike
  obtain ⟨queriesAlike, rfl, rfl, rfl, filterAlike, rfl, rfl, rfl⟩ := alike
  obtain ⟨queriesRevision, queriesKeep, rfl⟩ :=
    WithQuery.exists_reviseList queries otherQueries queriesAlike
  obtain ⟨filterRevision, filterKeeps, rfl⟩ :=
    Expression.exists_reviseOption filter otherFilter filterAlike
  exact ⟨_, keepsNonNull_ofParts_two queriesKeep filterKeeps, rfl⟩

/-- The nodes are the same once every value but NULL is blanked out: they differ at most in values
that are not NULL. -/
def Node.Alike (first second : Node) : Prop :=
  first.revise blank = second.revise blank

/-- A node that differs from another one only in values that are not NULL is a revision of it. -/
theorem Node.Alike.exists_revise {first second : Node} (alike : first.Alike second) :
    ∃ revision : Revision, revision.KeepsNonNull ∧ first.revise revision = second := by
  unfold Node.Alike at alike
  cases first with
  | select statement =>
    cases second with
    | select other =>
      simp only [Node.revise, Node.select.injEq] at alike
      obtain ⟨revision, keeps, rfl⟩ := statement.exists_revise other alike
      exact ⟨revision, keeps, rfl⟩
    | _ => cases alike
  | insert statement =>
    cases second with
    | insert other =>
      simp only [Node.revise, Node.insert.injEq] at alike
      obtain ⟨revision, keeps, rfl⟩ := Insert.exists_revise statement other alike
      exact ⟨revision, keeps, rfl⟩
    | _ => cases alike
  | update statement =>
    cases second with
    | update other =>
      simp only [Node.revise, Node.update.injEq] at alike
      obtain ⟨revision, keeps, rfl⟩ := Update.exists_revise statement other alike
      exact ⟨revision, keeps, rfl⟩
    | _ => cases alike
  | delete statement =>
    cases second with
    | delete other =>
      simp only [Node.revise, Node.delete.injEq] at alike
      obtain ⟨revision, keeps, rfl⟩ := Delete.exists_revise statement other alike
      exact ⟨revision, keeps, rfl⟩
    | _ => cases alike
  | expression expression =>
    cases second with
    | expression other =>
      simp only [Node.revise, Node.expression.injEq] at alike
      obtain ⟨revision, keeps, rfl⟩ := expression.exists_revise other alike
      exact ⟨revision, keeps, rfl⟩
    | _ => cases alike
  | assignments assignments =>
    cases second with
    | assignments other =>
      simp only [Node.revise, Node.assignments.injEq] at alike
      obtain ⟨revision, keeps, rfl⟩ :=
        Revision.reaches_list Assignment.exists_revise assignments other alike
      exact ⟨revision, keeps, rfl⟩
    | _ => cases alike
  | values rows =>
    cases second with
    | values other =>
      simp only [Node.revise, Node.values.injEq] at alike
      obtain ⟨revision, keeps, rfl⟩ :=
        Revision.reaches_list Expression.exists_reviseList rows other alike
      exact ⟨revision, keeps, rfl⟩
    | _ => cases alike
  | source given =>
    cases second with
    | source other =>
      simp only [Node.revise, Node.source.injEq] at alike
      obtain ⟨revision, keeps, rfl⟩ := InsertSource.exists_revise given other alike
      exact ⟨revision, keeps, rfl⟩
    | _ => cases alike
  | withQueries queries =>
    cases second with
    | withQueries other =>
      simp only [Node.revise, Node.withQueries.injEq] at alike
      obtain ⟨revision, keeps, rfl⟩ := WithQuery.exists_reviseList queries other alike
      exact ⟨revision, keeps, rfl⟩
    | _ => cases alike
  | withQuery query =>
    cases second with
    | withQuery other =>
      simp only [Node.revise, Node.withQuery.injEq] at alike
      obtain ⟨revision, keeps, rfl⟩ := query.exists_revise other alike
      exact ⟨revision, keeps, rfl⟩
    | _ => cases alike
  | onConflict clause =>
    cases second with
    | onConflict other =>
      simp only [Node.revise, Node.onConflict.injEq] at alike
      obtain ⟨revision, keeps, rfl⟩ := OnConflict.exists_revise clause other alike
      exact ⟨revision, keeps, rfl⟩
    | _ => cases alike
  | condition clause condition =>
    cases second with
    | condition otherClause other =>
      simp only [Node.revise, Node.condition.injEq] at alike
      obtain ⟨rfl, conditionAlike⟩ := alike
      obtain ⟨revision, keeps, rfl⟩ :=
        Expression.exists_reviseOption condition other conditionAlike
      exact ⟨revision, keeps, rfl⟩
    | _ => cases alike
  | _ =>
    -- The other kinds of nodes hold no values, so blanking out leaves them as they are.
    cases second with
    | select | insert | update | delete | expression | assignments | values | source | withQueries
    | withQuery | onConflict | condition => cases alike
    | _ => exact ⟨_, keepsNonNull_unchanged, alike⟩

end SqlTree
