import SqlTree.Proofs.Render.Revision

/-!
# Wrappers removed

Any of the wrappers of a tree may be removed, each of them replaced by what it is around.  Where a
query is the operand of IN or EXISTS this makes a difference: with a wrapper around it the query is
not seen to be one.  The queries that lose their last wrapper in such a position are counted, as far
as they are shown.
-/

namespace SqlTree

/-- The wrappers to remove, told by their places. -/
abbrev Unwrapping := Place → Bool

namespace Unwrapping

/-- What is to be removed in the part with the given number. -/
def within (removed : Unwrapping) (part : Nat) : Unwrapping :=
  fun place => removed (part :: place)

/-- The removal in a list, whose first element is part 0 and whose others are part 1. -/
def list {Item : Type} (unwrap : Unwrapping → Item → Item) (removed : Unwrapping) :
    List Item → List Item
  | [] => []
  | item :: rest => unwrap (removed.within 0) item :: list unwrap (removed.within 1) rest

/-- What is counted in the elements of a list, taken together. -/
def total {Item : Type} (count : Unwrapping → Item → Nat) (removed : Unwrapping) :
    List Item → Nat
  | [] => 0
  | item :: rest => count (removed.within 0) item + total count (removed.within 1) rest

@[simp]
theorem isEmpty_list {Item : Type} (unwrap : Unwrapping → Item → Item) (removed : Unwrapping)
    (items : List Item) : (list unwrap removed items).isEmpty = items.isEmpty := by
  cases items <;> rfl

end Unwrapping

open Unwrapping (list total)

/-! ## Removing wrappers -/

mutual

/-- The expression without the wrappers that are to be removed. -/
def Expression.unwrap (removed : Unwrapping) : Expression → Expression
  | .identifier name => .identifier name
  | .column named => .column named
  | .value scalar => .value scalar
  | .fragment text => .fragment text
  | .array items => .array (Expression.unwrapList removed items)
  | .binary left operator right =>
    .binary (left.unwrap (removed.within 0)) operator (right.unwrap (removed.within 1))
  | .between name operator lower connective upper =>
    .between name operator (lower.unwrap (removed.within 0)) connective
      (upper.unwrap (removed.within 1))
  | .membership tested operator candidates =>
    .membership (tested.unwrap (removed.within 0)) operator (candidates.unwrap (removed.within 1))
  | .existence negated subject => .existence negated (subject.unwrap (removed.within 0))
  | .aggregate call => .aggregate call
  | .wrapped inner =>
    if removed [] then inner.unwrap (removed.within 0)
    else .wrapped (inner.unwrap (removed.within 0))
  | .subquery query => .subquery (query.unwrap (removed.within 0))

def Expression.unwrapList (removed : Unwrapping) : List Expression → List Expression
  | [] => []
  | item :: rest =>
    item.unwrap (removed.within 0) :: Expression.unwrapList (removed.within 1) rest

def Expression.unwrapOption (removed : Unwrapping) : Option Expression → Option Expression
  | some condition => some (condition.unwrap (removed.within 0))
  | none => none

def WithQuery.unwrap (removed : Unwrapping) : WithQuery → WithQuery
  | ⟨name, query⟩ => ⟨name, query.unwrap (removed.within 0)⟩

def WithQuery.unwrapList (removed : Unwrapping) : List WithQuery → List WithQuery
  | [] => []
  | named :: rest =>
    named.unwrap (removed.within 0) :: WithQuery.unwrapList (removed.within 1) rest

def Select.unwrap (removed : Unwrapping) : Select → Select
  | ⟨withQueries, leadingText, distinct, items, source, joins, filter, groupBy, having, orderBy,
      limit, offset, trailingText, comment⟩ =>
    ⟨WithQuery.unwrapList (removed.within 0) withQueries, leadingText, distinct, items, source,
      joins, Expression.unwrapOption (removed.within 1) filter, groupBy,
      Expression.unwrapOption (removed.within 2) having, orderBy, limit, offset, trailingText,
      comment⟩

end

def Assignment.unwrap (removed : Unwrapping) (assignment : Assignment) : Assignment :=
  { assignment with value := assignment.value.unwrap removed }

def InsertSource.unwrap (removed : Unwrapping) : InsertSource → InsertSource
  | .rows given => .rows (list Expression.unwrapList removed given)
  | .query select => .query (select.unwrap removed)

def ConflictAction.unwrap (removed : Unwrapping) : ConflictAction → ConflictAction
  | .doNothing => .doNothing
  | .doUpdate assignments => .doUpdate (list Assignment.unwrap removed assignments)

def OnConflict.unwrap (removed : Unwrapping) (clause : OnConflict) : OnConflict :=
  { clause with action := clause.action.unwrap removed }

def Insert.unwrap (removed : Unwrapping) (statement : Insert) : Insert :=
  { statement with
    withQueries := WithQuery.unwrapList (removed.within 0) statement.withQueries
    source := statement.source.unwrap (removed.within 1)
    onConflict := statement.onConflict.map (OnConflict.unwrap (removed.within 2)) }

def Update.unwrap (removed : Unwrapping) (statement : Update) : Update :=
  { statement with
    withQueries := WithQuery.unwrapList (removed.within 0) statement.withQueries
    assignments := list Assignment.unwrap (removed.within 1) statement.assignments
    filter := Expression.unwrapOption (removed.within 2) statement.filter }

def Delete.unwrap (removed : Unwrapping) (statement : Delete) : Delete :=
  { statement with
    withQueries := WithQuery.unwrapList (removed.within 0) statement.withQueries
    filter := Expression.unwrapOption (removed.within 1) statement.filter }

/-- The node without the wrappers that are to be removed. -/
def Node.unwrap (removed : Unwrapping) : Node → Node
  | .select statement => .select (statement.unwrap removed)
  | .insert statement => .insert (statement.unwrap removed)
  | .update statement => .update (statement.unwrap removed)
  | .delete statement => .delete (statement.unwrap removed)
  | .expression node => .expression (node.unwrap removed)
  | .condition clause node => .condition clause (Expression.unwrapOption removed node)
  | .assignments pairs => .assignments (list Assignment.unwrap removed pairs)
  | .values rows => .values (list Expression.unwrapList removed rows)
  | .source given => .source (given.unwrap removed)
  | .withQueries queries => .withQueries (WithQuery.unwrapList removed queries)
  | .withQuery query => .withQuery (query.unwrap removed)
  | .onConflict clause => .onConflict (clause.unwrap removed)
  | other => other

/-! ## Queries left bare -/

/-- The removal turns the operand, which was no query itself, into one. -/
def Expression.becomesSubquery (removed : Unwrapping) (operand : Expression) : Bool :=
  !operand.isSubquery && (operand.unwrap removed).isSubquery

mutual

/-- The number of operands of IN and EXISTS that the removal turns into queries. -/
def Expression.bared (removed : Unwrapping) : Expression → Nat
  | .identifier _ | .column _ | .value _ | .fragment _ | .aggregate _ => 0
  | .array items => Expression.baredList removed items
  | .binary left _ right => left.bared (removed.within 0) + right.bared (removed.within 1)
  | .between _ _ lower _ upper => lower.bared (removed.within 0) + upper.bared (removed.within 1)
  | .membership tested _ candidates =>
    tested.bared (removed.within 0) + (candidates.bared (removed.within 1)
      + (candidates.becomesSubquery (removed.within 1)).toNat)
  | .existence _ subject =>
    subject.bared (removed.within 0) + (subject.becomesSubquery (removed.within 0)).toNat
  | .wrapped inner => inner.bared (removed.within 0)
  | .subquery query => query.bared (removed.within 0)

def Expression.baredList (removed : Unwrapping) : List Expression → Nat
  | [] => 0
  | item :: rest => item.bared (removed.within 0) + Expression.baredList (removed.within 1) rest

def Expression.baredOption (removed : Unwrapping) : Option Expression → Nat
  | some condition => condition.bared (removed.within 0)
  | none => 0

def WithQuery.bared (removed : Unwrapping) : WithQuery → Nat
  | ⟨_, query⟩ => query.bared (removed.within 0)

def WithQuery.baredList (removed : Unwrapping) : List WithQuery → Nat
  | [] => 0
  | named :: rest => named.bared (removed.within 0) + WithQuery.baredList (removed.within 1) rest

/-- Empty conditions are not shown and do not count. -/
def Select.bared (removed : Unwrapping) : Select → Nat
  | ⟨withQueries, _, _, _, _, _, filter, _, having, _, _, _, _, _⟩ =>
    WithQuery.baredList (removed.within 0) withQueries
      + (if lacksCondition filter then 0 else Expression.baredOption (removed.within 1) filter)
      + (if lacksCondition having then 0 else Expression.baredOption (removed.within 2) having)

end

def Assignment.bared (removed : Unwrapping) (assignment : Assignment) : Nat :=
  assignment.value.bared removed

def InsertSource.bared (removed : Unwrapping) : InsertSource → Nat
  | .rows given => total Expression.baredList removed given
  | .query select => select.bared removed

def ConflictAction.bared (removed : Unwrapping) : ConflictAction → Nat
  | .doNothing => 0
  | .doUpdate assignments => total Assignment.bared removed assignments

def OnConflict.baredOption (removed : Unwrapping) : Option OnConflict → Nat
  | some clause => clause.action.bared removed
  | none => 0

def Insert.bared (removed : Unwrapping) (statement : Insert) : Nat :=
  WithQuery.baredList (removed.within 0) statement.withQueries
    + (if statement.source.isEmpty then 0 else statement.source.bared (removed.within 1))
    + OnConflict.baredOption (removed.within 2) statement.onConflict

def Update.bared (removed : Unwrapping) (statement : Update) : Nat :=
  WithQuery.baredList (removed.within 0) statement.withQueries
    + total Assignment.bared (removed.within 1) statement.assignments
    + (if lacksCondition statement.filter then 0
        else Expression.baredOption (removed.within 2) statement.filter)

def Delete.bared (removed : Unwrapping) (statement : Delete) : Nat :=
  WithQuery.baredList (removed.within 0) statement.withQueries
    + (if lacksCondition statement.filter then 0
        else Expression.baredOption (removed.within 1) statement.filter)

/-- The number of operands of IN and EXISTS that the node shows and the removal turns into
queries. -/
def Node.bared (removed : Unwrapping) : Node → Nat
  | .select statement => statement.bared removed
  | .insert statement => statement.bared removed
  | .update statement => statement.bared removed
  | .delete statement => statement.bared removed
  | .expression node => node.bared removed
  | .condition _ node => Expression.baredOption removed node
  | .assignments pairs => total Assignment.bared removed pairs
  | .values rows => total Expression.baredList removed rows
  | .source given => given.bared removed
  | .withQueries queries => WithQuery.baredList removed queries
  | .withQuery query => query.bared removed
  | .onConflict clause => clause.action.bared removed
  | _ => 0

/-! ## Emptiness -/

@[simp]
theorem Select.isEmpty_unwrap (removed : Unwrapping) (query : Select) :
    (query.unwrap removed).isEmpty = query.isEmpty := by
  cases query
  rfl

@[simp]
theorem Expression.isEmpty_unwrapList (removed : Unwrapping) (items : List Expression) :
    (Expression.unwrapList removed items).isEmpty = items.isEmpty := by
  cases items <;> rfl

/-- A wrapper is as empty as what it is around. -/
@[simp]
theorem Expression.isEmpty_unwrap (removed : Unwrapping) :
    (expression : Expression) → (expression.unwrap removed).isEmpty = expression.isEmpty
  | .identifier _ | .column _ | .value _ | .fragment _ | .aggregate _ => rfl
  | .array items => by simp [unwrap, isEmpty]
  | .binary left operator right => by
    simp [unwrap, isEmpty, left.isEmpty_unwrap, right.isEmpty_unwrap]
  | .between name operator lower connective upper => by
    simp [unwrap, isEmpty, lower.isEmpty_unwrap, upper.isEmpty_unwrap]
  | .membership tested operator candidates => by simp [unwrap, isEmpty, tested.isEmpty_unwrap]
  | .existence negated subject => by simp [unwrap, isEmpty, subject.isEmpty_unwrap]
  | .wrapped inner => by
    rw [unwrap]
    split <;> simp [isEmpty, inner.isEmpty_unwrap]
  | .subquery query => by simp [unwrap, isEmpty]

@[simp]
theorem lacksCondition_unwrapOption (removed : Unwrapping) (condition : Option Expression) :
    lacksCondition (Expression.unwrapOption removed condition) = lacksCondition condition := by
  cases condition with
  | none => rfl
  | some condition => simp [Expression.unwrapOption, lacksCondition]

@[simp]
theorem WithQuery.isEmpty_unwrap (removed : Unwrapping) (named : WithQuery) :
    (named.unwrap removed).isEmpty = named.isEmpty := by
  cases named
  simp [unwrap, isEmpty]

@[simp]
theorem WithQuery.isEmpty_unwrapList (removed : Unwrapping) (queries : List WithQuery) :
    (WithQuery.unwrapList removed queries).isEmpty = queries.isEmpty := by
  cases queries <;> rfl

@[simp]
theorem InsertSource.isEmpty_unwrap (removed : Unwrapping) (source : InsertSource) :
    (source.unwrap removed).isEmpty = source.isEmpty := by
  cases source <;> simp [unwrap, isEmpty]

/-- Whether a node is empty does not depend on its wrappers. -/
@[simp]
theorem Node.isEmpty_unwrap (removed : Unwrapping) (node : Node) :
    (node.unwrap removed).isEmpty = node.isEmpty := by
  cases node <;>
    simp [unwrap, isEmpty, Insert.unwrap, Insert.isEmpty, Update.unwrap, Update.isEmpty,
      Delete.unwrap, Delete.isEmpty]

/-- A query stays a query. -/
theorem Expression.isSubquery_unwrap {removed : Unwrapping} {expression : Expression}
    (isQuery : expression.isSubquery = true) : (expression.unwrap removed).isSubquery = true := by
  cases expression with
  | subquery query => rfl
  | _ => cases isQuery

end SqlTree
