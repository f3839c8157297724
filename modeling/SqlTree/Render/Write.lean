import SqlTree.Render.Sink
import SqlTree.Render.Tree

/-!
# Writing to a sink

How every node of the tree is written to a sink, text by text and value by value.
-/

namespace SqlTree

open Text (isBlank trimmed)

section Clauses

variable {Target : Type} [Sink Target]

/-- Writes the name after AS; nothing for a blank one. -/
def writeAsName : Option String → Writer Target Unit
  | some name =>
    unless isBlank name do
      emit " AS "
      emit name
  | none => pure ()

def Column.write (column : Column) : Writer Target Unit := do
  emit column.name
  writeAsName column.asName

def Table.write (table : Table) : Writer Target Unit := do
  emit table.name
  writeAsName table.asName

def Aggregate.write (call : Aggregate) : Writer Target Unit := do
  emit call.function.text
  emit "("
  if call.distinct then
    emit "DISTINCT "
  emit call.argument
  emit ")"
  writeAsName call.asName

def SelectItem.write : SelectItem → Writer Target Unit
  | .column named => named.write
  | .fragment text => emit text
  | .aggregate call => call.write

/-- Writes the column's own name and the direction. -/
def Order.write (order : Order) : Writer Target Unit := do
  emit order.column.name
  emit " "
  emit order.direction.text

def FromClause.write (clause : FromClause) : Writer Target Unit := do
  emit (if clause.only then "FROM ONLY " else "FROM ")
  clause.table.write

def Operator.write (operator : Operator) : Writer Target Unit :=
  emit operator.text

def JoinCondition.write : JoinCondition → Writer Target Unit
  | .equality left right => do
    left.write
    emit " = "
    right.write
  | .connected left word right => do
    emit "("
    left.write
    emit " "
    emit word.text
    emit " "
    right.write
    emit ")"

/-- Writes the condition after ON.  An empty one is a violation. -/
def Join.writeCondition (join : Join) : Writer Target Unit :=
  match join.condition with
  | some condition =>
    if condition.isEmpty then throw (.missing .joinCondition)
    else do
      emit " ON "
      condition.write
  | none => throw (.missing .joinCondition)

def Join.write (join : Join) : Writer Target Unit := do
  requirePart .joinTable join.table.isEmpty
  emit join.kind.text
  emit " "
  join.table.write
  unless join.kind = .cross do
    join.writeCondition

/-- Writes the joins of a query.  One that was left as it is by default is passed over. -/
def writeJoins : List Join → Writer Target Unit
  | [] => pure ()
  | join :: rest => do
    unless join = {} do
      emit " "
      join.write
    writeJoins rest

def writeColumns (keyword : String) (columns : List Column) : Writer Target Unit := do
  emit keyword
  emitList (columns.map Column.write)

def writeColumnNames (columns : List Column) : Writer Target Unit := do
  emit " ("
  emitList (columns.map fun column => emit column.name)
  emit ")"

def writeGroupBy (columns : List Column) : Writer Target Unit :=
  writeColumns "GROUP BY " columns

def writeReturning (columns : List Column) : Writer Target Unit :=
  writeColumns "RETURNING " columns

def writeOrderBy (orders : List Order) : Writer Target Unit := do
  emit "ORDER BY "
  emitList (orders.map Order.write)

def writeUsing (tables : List Table) : Writer Target Unit := do
  emit "USING "
  emitList (tables.map Table.write)

def writeInto (table : Table) : Writer Target Unit := do
  emit "INTO "
  table.write

def writeLimit : Option UInt64 → Writer Target Unit
  | some count => emit ("LIMIT " ++ toString count.toNat)
  | none => pure ()

def writeOffset : Option UInt64 → Writer Target Unit
  | some count => emit ("OFFSET " ++ toString count.toNat)
  | none => pure ()

/-- Writes a text before or after the statement, without the white space at its ends. -/
def writeOuterText (text : String) : Writer Target Unit :=
  emit (trimmed text)

/-- Writes the comment between its marks. -/
def writeComment (comment : String) : Writer Target Unit := do
  emit "/* "
  emit (commentText comment)
  emit " */"

def writeWith (queries : List (Writer Target Unit)) : Writer Target Unit := do
  emit "WITH "
  emitList queries

/-- Writes what comes before the first keyword of a statement. -/
def writeOpening (leadingText : String) (queries : List (Writer Target Unit)) :
    Writer Target Unit := do
  unless isBlank leadingText do
    writeOuterText leadingText
    emit " "
  unless queries.isEmpty do
    writeWith queries
    emit " "

/-- Writes what comes after the last clause of a statement. -/
def writeClosing (trailingText comment : String) : Writer Target Unit := do
  emitClause (isBlank trailingText) (writeOuterText trailingText)
  emitClause (isBlank comment) (writeComment comment)

end Clauses

section Statements

variable {Target : Type} [Sink Target]

mutual

/-- Writes the expression. -/
def Expression.write : Expression → Writer Target Unit
  | .identifier name => emit name
  | .column named => named.write
  | .value scalar => emitValue scalar
  | .fragment text => emit text
  | .array items => emitList (Expression.writers items)
  | .binary left operator right => do
    emit "("
    left.write
    emit " "
    operator.write
    emit " "
    right.write
    emit ")"
  | .between name operator lower connective upper => do
    emit "("
    emit name
    emit " "
    emit operator.text
    emit " "
    lower.write
    emit " "
    emit connective.text
    emit " "
    upper.write
    emit ")"
  | .membership tested operator candidates => do
    emit "("
    tested.write
    emit " "
    emit operator.text
    emit " "
    if candidates.isSubquery then candidates.write else emitParenthesized candidates.write
    emit ")"
  | .existence negated subject => do
    emit (if negated then "NOT EXISTS " else "EXISTS ")
    if subject.isSubquery then subject.write else emitParenthesized subject.write
  | .aggregate call => call.write
  | .wrapped inner => inner.write
  | .subquery query => emitParenthesized query.write

def Expression.writers : List Expression → List (Writer Target Unit)
  | [] => []
  | item :: rest => item.write :: Expression.writers rest

/-- Writes a condition after its keyword; nothing without a condition. -/
def Expression.writeCondition (clause : ConditionClause) : Option Expression → Writer Target Unit
  | some condition => do
    emit (clause.text ++ " ")
    condition.write
  | none => pure ()

def WithQuery.write : WithQuery → Writer Target Unit
  | ⟨name, query⟩ => do
    emit name
    emit " AS ("
    query.write
    emit ")"

def WithQuery.writers : List WithQuery → List (Writer Target Unit)
  | [] => []
  | named :: rest => named.write :: WithQuery.writers rest

def Select.write : Select → Writer Target Unit
  | ⟨withQueries, leadingText, distinct, items, source, joins, filter, groupBy, having, orderBy,
      limit, offset, trailingText, comment⟩ => do
    requirePart .selectItems items.isEmpty
    writeOpening leadingText (WithQuery.writers withQueries)
    emit (if distinct then "SELECT DISTINCT " else "SELECT ")
    emitList (items.map SelectItem.write)
    emitClause source.isEmpty source.write
    writeJoins joins
    emitClause (lacksCondition filter) (Expression.writeCondition .filter filter)
    emitClause groupBy.isEmpty (writeGroupBy groupBy)
    emitClause (lacksCondition having) (Expression.writeCondition .having having)
    emitClause orderBy.isEmpty (writeOrderBy orderBy)
    emitClause limit.isNone (writeLimit limit)
    emitClause offset.isNone (writeOffset offset)
    writeClosing trailingText comment

end

def Assignment.write (assignment : Assignment) : Writer Target Unit := do
  emit assignment.column.name
  emit " = "
  assignment.value.write

def writeSet (assignments : List Assignment) : Writer Target Unit := do
  emit "SET "
  emitList (assignments.map Assignment.write)

def writeValues (rows : List (List Expression)) : Writer Target Unit := do
  emit "VALUES "
  emitList (rows.map fun row => emitParenthesized (Expression.write (.array row)))

def InsertSource.write : InsertSource → Writer Target Unit
  | .rows given => writeValues given
  | .query select => select.write

def ConflictAction.write : ConflictAction → Writer Target Unit
  | .doNothing => emit " DO NOTHING"
  | .doUpdate assignments => do
    requirePart .conflictAssignments assignments.isEmpty
    emit " DO UPDATE "
    writeSet assignments

def OnConflict.write (clause : OnConflict) : Writer Target Unit := do
  emit "ON CONFLICT"
  unless clause.target.isEmpty do
    writeColumnNames clause.target
  clause.action.write

def writeOnConflict : Option OnConflict → Writer Target Unit
  | some clause => do
    emit " "
    clause.write
  | none => pure ()

def Insert.write (statement : Insert) : Writer Target Unit := do
  requirePart .insertTable statement.isEmpty
  writeOpening statement.leadingText (WithQuery.writers statement.withQueries)
  emit "INSERT "
  writeInto statement.table
  unless statement.columns.isEmpty do
    writeColumnNames statement.columns
  emitClause statement.source.isEmpty statement.source.write
  writeOnConflict statement.onConflict
  emitClause statement.returning.isEmpty (writeReturning statement.returning)
  writeClosing statement.trailingText statement.comment

def Update.write (statement : Update) : Writer Target Unit := do
  requirePart .updateTable statement.table.isEmpty
  requirePart .updateAssignments statement.assignments.isEmpty
  writeOpening statement.leadingText (WithQuery.writers statement.withQueries)
  emit (if statement.only then "UPDATE ONLY " else "UPDATE ")
  statement.table.write
  emit " "
  writeSet statement.assignments
  emitClause statement.source.isEmpty statement.source.write
  emitClause (lacksCondition statement.filter)
    (Expression.writeCondition .filter statement.filter)
  emitClause statement.returning.isEmpty (writeReturning statement.returning)
  writeClosing statement.trailingText statement.comment

def Delete.write (statement : Delete) : Writer Target Unit := do
  requirePart .deleteSource statement.isEmpty
  writeOpening statement.leadingText (WithQuery.writers statement.withQueries)
  emit "DELETE "
  statement.source.write
  emitClause (statement.usingTables.all Table.isEmpty) (writeUsing statement.usingTables)
  emitClause (lacksCondition statement.filter)
    (Expression.writeCondition .filter statement.filter)
  emitClause statement.returning.isEmpty (writeReturning statement.returning)
  writeClosing statement.trailingText statement.comment

end Statements

end SqlTree
