import SqlTree.Render.Node

/-!
# Revisions

A revision puts other values in the place of the values of a tree.  The place of a value is the way
from the root to it, given by the numbers of the parts passed through, so that no two values of a
tree are in one place; equal values may be revised differently.  NULL stays where it is, and
everything else stays as it is.
-/

namespace SqlTree

/-- The way from a node to one of its values. -/
abbrev Place := List Nat

/-- The value to put in a place, given the value found there. -/
abbrev Revision := Place → Scalar → Scalar

namespace Revision

/-- What is to be done in the part with the given number. -/
def within (revision : Revision) (part : Nat) : Revision :=
  fun place => revision (part :: place)

/-- No value but NULL is replaced by NULL. -/
def KeepsNonNull (revision : Revision) : Prop :=
  ∀ place scalar, scalar.isNull = false → (revision place scalar).isNull = false

def unchanged : Revision :=
  fun _ scalar => scalar

theorem keepsNonNull_unchanged : unchanged.KeepsNonNull :=
  fun _ _ notNull => notNull

@[simp]
theorem within_unchanged (part : Nat) : unchanged.within part = unchanged :=
  rfl

theorem KeepsNonNull.within {revision : Revision} (keeps : revision.KeepsNonNull) (part : Nat) :
    (revision.within part).KeepsNonNull :=
  fun place => keeps (part :: place)

/-- The revision of a list, whose first element is part 0 and whose others are part 1. -/
def list {Item : Type} (revise : Revision → Item → Item) (revision : Revision) :
    List Item → List Item
  | [] => []
  | item :: rest => revise (revision.within 0) item :: list revise (revision.within 1) rest

theorem list_unchanged {Item : Type} {revise : Revision → Item → Item}
    (same : ∀ item, revise unchanged item = item) (items : List Item) :
    list revise unchanged items = items := by
  induction items with
  | nil => rfl
  | cons item rest ih => rw [list, within_unchanged, within_unchanged, same, ih]

@[simp]
theorem isEmpty_list {Item : Type} (revise : Revision → Item → Item) (revision : Revision)
    (items : List Item) : (list revise revision items).isEmpty = items.isEmpty := by
  cases items <;> rfl

end Revision

open Revision (list)

mutual

/-- The expression with its values revised. -/
def Expression.revise (revision : Revision) : Expression → Expression
  | .identifier name => .identifier name
  | .column named => .column named
  | .value scalar => .value (if scalar.isNull then scalar else revision [] scalar)
  | .fragment text => .fragment text
  | .array items => .array (Expression.reviseList revision items)
  | .binary left operator right =>
    .binary (left.revise (revision.within 0)) operator (right.revise (revision.within 1))
  | .between name operator lower connective upper =>
    .between name operator (lower.revise (revision.within 0)) connective
      (upper.revise (revision.within 1))
  | .membership tested operator candidates =>
    .membership (tested.revise (revision.within 0)) operator
      (candidates.revise (revision.within 1))
  | .existence negated subject => .existence negated (subject.revise (revision.within 0))
  | .aggregate call => .aggregate call
  | .wrapped inner => .wrapped (inner.revise (revision.within 0))
  | .subquery query => .subquery (query.revise (revision.within 0))

def Expression.reviseList (revision : Revision) : List Expression → List Expression
  | [] => []
  | item :: rest =>
    item.revise (revision.within 0) :: Expression.reviseList (revision.within 1) rest

def Expression.reviseOption (revision : Revision) : Option Expression → Option Expression
  | some condition => some (condition.revise (revision.within 0))
  | none => none

def WithQuery.revise (revision : Revision) : WithQuery → WithQuery
  | ⟨name, query⟩ => ⟨name, query.revise (revision.within 0)⟩

def WithQuery.reviseList (revision : Revision) : List WithQuery → List WithQuery
  | [] => []
  | named :: rest =>
    named.revise (revision.within 0) :: WithQuery.reviseList (revision.within 1) rest

def Select.revise (revision : Revision) : Select → Select
  | ⟨withQueries, leadingText, distinct, items, source, joins, filter, groupBy, having, orderBy,
      limit, offset, trailingText, comment⟩ =>
    ⟨WithQuery.reviseList (revision.within 0) withQueries, leadingText, distinct, items, source,
      joins, Expression.reviseOption (revision.within 1) filter, groupBy,
      Expression.reviseOption (revision.within 2) having, orderBy, limit, offset, trailingText,
      comment⟩

end

def Assignment.revise (revision : Revision) (assignment : Assignment) : Assignment :=
  { assignment with value := assignment.value.revise revision }

def InsertSource.revise (revision : Revision) : InsertSource → InsertSource
  | .rows given => .rows (list Expression.reviseList revision given)
  | .query select => .query (select.revise revision)

def ConflictAction.revise (revision : Revision) : ConflictAction → ConflictAction
  | .doNothing => .doNothing
  | .doUpdate assignments => .doUpdate (list Assignment.revise revision assignments)

def OnConflict.revise (revision : Revision) (clause : OnConflict) : OnConflict :=
  { clause with action := clause.action.revise revision }

def Insert.revise (revision : Revision) (statement : Insert) : Insert :=
  { statement with
    withQueries := WithQuery.reviseList (revision.within 0) statement.withQueries
    source := statement.source.revise (revision.within 1)
    onConflict := statement.onConflict.map (OnConflict.revise (revision.within 2)) }

def Update.revise (revision : Revision) (statement : Update) : Update :=
  { statement with
    withQueries := WithQuery.reviseList (revision.within 0) statement.withQueries
    assignments := list Assignment.revise (revision.within 1) statement.assignments
    filter := Expression.reviseOption (revision.within 2) statement.filter }

def Delete.revise (revision : Revision) (statement : Delete) : Delete :=
  { statement with
    withQueries := WithQuery.reviseList (revision.within 0) statement.withQueries
    filter := Expression.reviseOption (revision.within 1) statement.filter }

/-- The node with its values revised. -/
def Node.revise (revision : Revision) : Node → Node
  | .select statement => .select (statement.revise revision)
  | .insert statement => .insert (statement.revise revision)
  | .update statement => .update (statement.revise revision)
  | .delete statement => .delete (statement.revise revision)
  | .expression node => .expression (node.revise revision)
  | .condition clause node => .condition clause (Expression.reviseOption revision node)
  | .assignments pairs => .assignments (list Assignment.revise revision pairs)
  | .values rows => .values (list Expression.reviseList revision rows)
  | .source given => .source (given.revise revision)
  | .withQueries queries => .withQueries (WithQuery.reviseList revision queries)
  | .withQuery query => .withQuery (query.revise revision)
  | .onConflict clause => .onConflict (clause.revise revision)
  | other => other

/-! ## Emptiness -/

@[simp]
theorem Select.isEmpty_revise (revision : Revision) (query : Select) :
    (query.revise revision).isEmpty = query.isEmpty := by
  cases query
  rfl

@[simp]
theorem Expression.isEmpty_reviseList (revision : Revision) (items : List Expression) :
    (Expression.reviseList revision items).isEmpty = items.isEmpty := by
  cases items <;> rfl

/-- Whether an expression is empty does not depend on its values. -/
@[simp]
theorem Expression.isEmpty_revise (revision : Revision) :
    (expression : Expression) → (expression.revise revision).isEmpty = expression.isEmpty
  | .identifier _ | .column _ | .value _ | .fragment _ | .aggregate _ => rfl
  | .array items => by simp [revise, isEmpty]
  | .binary left operator right => by
    simp [revise, isEmpty, left.isEmpty_revise, right.isEmpty_revise]
  | .between name operator lower connective upper => by
    simp [revise, isEmpty, lower.isEmpty_revise, upper.isEmpty_revise]
  | .membership tested operator candidates => by simp [revise, isEmpty, tested.isEmpty_revise]
  | .existence negated subject => by simp [revise, isEmpty, subject.isEmpty_revise]
  | .wrapped inner => by simp [revise, isEmpty, inner.isEmpty_revise]
  | .subquery query => by simp [revise, isEmpty]

@[simp]
theorem Expression.isSubquery_revise (revision : Revision) (expression : Expression) :
    (expression.revise revision).isSubquery = expression.isSubquery := by
  cases expression <;> rfl

@[simp]
theorem lacksCondition_reviseOption (revision : Revision) (condition : Option Expression) :
    lacksCondition (Expression.reviseOption revision condition) = lacksCondition condition := by
  cases condition with
  | none => rfl
  | some condition => simp [Expression.reviseOption, lacksCondition]

@[simp]
theorem WithQuery.isEmpty_revise (revision : Revision) (named : WithQuery) :
    (named.revise revision).isEmpty = named.isEmpty := by
  cases named
  simp [revise, isEmpty]

@[simp]
theorem WithQuery.isEmpty_reviseList (revision : Revision) (queries : List WithQuery) :
    (WithQuery.reviseList revision queries).isEmpty = queries.isEmpty := by
  cases queries <;> rfl

@[simp]
theorem InsertSource.isEmpty_revise (revision : Revision) (source : InsertSource) :
    (source.revise revision).isEmpty = source.isEmpty := by
  cases source <;> simp [revise, isEmpty]

/-- Whether a node is empty does not depend on its values. -/
@[simp]
theorem Node.isEmpty_revise (revision : Revision) (node : Node) :
    (node.revise revision).isEmpty = node.isEmpty := by
  cases node <;>
    simp [revise, isEmpty, Insert.revise, Insert.isEmpty, Update.revise, Update.isEmpty,
      Delete.revise, Delete.isEmpty]

/-! ## Nothing revised -/

mutual

@[simp]
theorem Expression.revise_unchanged :
    (expression : Expression) → expression.revise .unchanged = expression
  | .identifier _ | .column _ | .fragment _ | .aggregate _ => rfl
  | .value scalar => by simp [Expression.revise, Revision.unchanged]
  | .array items => by simp [Expression.revise, Expression.reviseList_unchanged items]
  | .binary left operator right => by
    simp [Expression.revise, left.revise_unchanged, right.revise_unchanged]
  | .between name operator lower connective upper => by
    simp [Expression.revise, lower.revise_unchanged, upper.revise_unchanged]
  | .membership tested operator candidates => by
    simp [Expression.revise, tested.revise_unchanged, candidates.revise_unchanged]
  | .existence negated subject => by simp [Expression.revise, subject.revise_unchanged]
  | .wrapped inner => by simp [Expression.revise, inner.revise_unchanged]
  | .subquery query => by simp [Expression.revise, query.revise_unchanged]

@[simp]
theorem Expression.reviseList_unchanged :
    (items : List Expression) → Expression.reviseList .unchanged items = items
  | [] => rfl
  | item :: rest => by
    simp [Expression.reviseList, item.revise_unchanged, Expression.reviseList_unchanged rest]

@[simp]
theorem Expression.reviseOption_unchanged :
    (condition : Option Expression) → Expression.reviseOption .unchanged condition = condition
  | some condition => by simp [Expression.reviseOption, condition.revise_unchanged]
  | none => rfl

@[simp]
theorem WithQuery.revise_unchanged : (named : WithQuery) → named.revise .unchanged = named
  | ⟨name, query⟩ => by simp [WithQuery.revise, query.revise_unchanged]

@[simp]
theorem WithQuery.reviseList_unchanged :
    (queries : List WithQuery) → WithQuery.reviseList .unchanged queries = queries
  | [] => rfl
  | named :: rest => by
    simp [WithQuery.reviseList, named.revise_unchanged, WithQuery.reviseList_unchanged rest]

@[simp]
theorem Select.revise_unchanged : (query : Select) → query.revise .unchanged = query
  | ⟨withQueries, leadingText, distinct, items, source, joins, filter, groupBy, having, orderBy,
      limit, offset, trailingText, comment⟩ => by
    simp [Select.revise, WithQuery.reviseList_unchanged withQueries,
      Expression.reviseOption_unchanged filter, Expression.reviseOption_unchanged having]

end

@[simp]
theorem Assignment.revise_unchanged (assignment : Assignment) :
    assignment.revise .unchanged = assignment := by
  rw [revise, Expression.revise_unchanged]

@[simp]
theorem Assignment.list_revise_unchanged (assignments : List Assignment) :
    list Assignment.revise .unchanged assignments = assignments :=
  Revision.list_unchanged Assignment.revise_unchanged assignments

@[simp]
theorem Expression.list_reviseList_unchanged (rows : List (List Expression)) :
    list Expression.reviseList .unchanged rows = rows :=
  Revision.list_unchanged Expression.reviseList_unchanged rows

@[simp]
theorem InsertSource.revise_unchanged (source : InsertSource) :
    source.revise .unchanged = source := by
  cases source <;> simp [revise]

@[simp]
theorem ConflictAction.revise_unchanged (action : ConflictAction) :
    action.revise .unchanged = action := by
  cases action <;> simp [revise]

@[simp]
theorem OnConflict.revise_unchanged (clause : OnConflict) : clause.revise .unchanged = clause := by
  rw [revise, ConflictAction.revise_unchanged]

@[simp]
theorem Node.revise_unchanged (node : Node) : node.revise .unchanged = node := by
  have sameClause : OnConflict.revise .unchanged = id := by
    funext clause
    exact clause.revise_unchanged
  cases node <;> simp [revise, Insert.revise, Update.revise, Delete.revise, sameClause]

end SqlTree
