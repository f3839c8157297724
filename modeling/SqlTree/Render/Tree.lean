import SqlTree.Render.Script
import SqlTree.Tree.Statement

/-!
# Writing trees

The script of every node of the tree.  Statements are written in a fixed order of clauses, an absent
clause leaving no trace; a part that must not be missing breaks the script off.
-/

namespace SqlTree

open Text (isBlank trimmed)

/-- The name after AS; nothing for a blank one. -/
def asNameScript : Option String → Script
  | some name => if isBlank name then .empty else .text " AS " ++ .text name
  | none => .empty

def Column.script (column : Column) : Script :=
  .text column.name ++ asNameScript column.asName

def Table.script (table : Table) : Script :=
  .text table.name ++ asNameScript table.asName

def Aggregate.script (call : Aggregate) : Script :=
  .text call.function.text ++ .text "(" ++ (if call.distinct then .text "DISTINCT " else .empty)
    ++ .text call.argument ++ .text ")" ++ asNameScript call.asName

def SelectItem.script : SelectItem → Script
  | .column named => named.script
  | .fragment text => .text text
  | .aggregate call => call.script

/-- The column's own name and the direction. -/
def Order.script (order : Order) : Script :=
  .text order.column.name ++ .text " " ++ .text order.direction.text

def FromClause.script (clause : FromClause) : Script :=
  .text (if clause.only then "FROM ONLY " else "FROM ") ++ clause.table.script

def Operator.script (operator : Operator) : Script :=
  .text operator.text

/-- An equality stands bare; two conditions joined by a word are enclosed. -/
def JoinCondition.script : JoinCondition → Script
  | .equality left right => left.script ++ .text " = " ++ right.script
  | .connected left word right =>
    .text "(" ++ left.script ++ .text " " ++ .text word.text ++ .text " " ++ right.script ++
      .text ")"

/-- The condition after ON.  An empty one is a violation. -/
def Join.conditionScript (join : Join) : Script :=
  match join.condition with
  | some condition =>
    if condition.isEmpty then .abort (.missing .joinCondition) else .text " ON " ++ condition.script
  | none => .abort (.missing .joinCondition)

/-- The join; a cross join shows no condition. -/
def Join.script (join : Join) : Script :=
  .require .joinTable join.table.isEmpty ++ .text join.kind.text ++ .text " " ++ join.table.script
    ++ if join.kind = .cross then .empty else join.conditionScript

/-- The joins of a query.  One that was left as it is by default is no join. -/
def joinsScript : List Join → Script
  | [] => .empty
  | join :: rest =>
    (if join = {} then .empty else .text " " ++ join.script) ++ joinsScript rest

def columnsScript (keyword : String) (columns : List Column) : Script :=
  .text keyword ++ .commaSeparated (columns.map Column.script)

def columnNamesScript (columns : List Column) : Script :=
  .text " (" ++ .commaSeparated (columns.map fun column => .text column.name) ++ .text ")"

def groupByScript (columns : List Column) : Script :=
  columnsScript "GROUP BY " columns

def returningScript (columns : List Column) : Script :=
  columnsScript "RETURNING " columns

def orderByScript (orders : List Order) : Script :=
  .text "ORDER BY " ++ .commaSeparated (orders.map Order.script)

def usingScript (tables : List Table) : Script :=
  .text "USING " ++ .commaSeparated (tables.map Table.script)

def intoScript (table : Table) : Script :=
  .text "INTO " ++ table.script

def limitScript : Option UInt64 → Script
  | some count => .text ("LIMIT " ++ toString count.toNat)
  | none => .empty

def offsetScript : Option UInt64 → Script
  | some count => .text ("OFFSET " ++ toString count.toNat)
  | none => .empty

/-- A text before or after the statement, without the white space at its ends. -/
def outerTextScript (text : String) : Script :=
  .text (trimmed text)

/-- Every end of a comment gets a space between its two characters, which makes it an end no more.
-/
def withoutCommentEnds : List Char → List Char
  | '*' :: '/' :: rest => '*' :: ' ' :: '/' :: withoutCommentEnds rest
  | character :: rest => character :: withoutCommentEnds rest
  | [] => []

/-- The text of a comment, which cannot end the comment early. -/
def commentText (comment : String) : String :=
  String.ofList (withoutCommentEnds (trimmed comment).toList)

def commentScript (comment : String) : Script :=
  .text "/* " ++ .text (commentText comment) ++ .text " */"

def withScript (queries : List Script) : Script :=
  .text "WITH " ++ .commaSeparated queries

/-- What comes before the first keyword of a statement: a text and the named queries, given by their
scripts. -/
def openingScript (leadingText : String) (queries : List Script) : Script :=
  .leading (isBlank leadingText) (outerTextScript leadingText)
    ++ .leading queries.isEmpty (withScript queries)

/-- What comes after the last clause of a statement. -/
def closingScript (trailingText comment : String) : Script :=
  .clause (isBlank trailingText) (outerTextScript trailingText)
    ++ .clause (isBlank comment) (commentScript comment)

mutual

/-- The expression.  Every operator expression is enclosed in parentheses; a query brings its own.
-/
def Expression.script : Expression → Script
  | .identifier name => .text name
  | .column named => named.script
  | .value scalar => .value scalar
  | .fragment text => .text text
  | .array items => .commaSeparated (Expression.scripts items)
  | .binary left operator right =>
    .text "(" ++ left.script ++ .text " " ++ operator.script ++ .text " " ++ right.script
      ++ .text ")"
  | .between name operator lower connective upper =>
    .text "(" ++ .text name ++ .text " " ++ .text operator.text ++ .text " " ++ lower.script
      ++ .text " " ++ .text connective.text ++ .text " " ++ upper.script ++ .text ")"
  | .membership tested operator candidates =>
    .text "(" ++ tested.script ++ .text " " ++ .text operator.text ++ .text " "
      ++ (if candidates.isSubquery then candidates.script
          else .parenthesized candidates.script)
      ++ .text ")"
  | .existence negated subject =>
    .text (if negated then "NOT EXISTS " else "EXISTS ")
      ++ if subject.isSubquery then subject.script else .parenthesized subject.script
  | .aggregate call => call.script
  | .wrapped inner => inner.script
  | .subquery query => .parenthesized query.script

def Expression.scripts : List Expression → List Script
  | [] => []
  | item :: rest => item.script :: Expression.scripts rest

/-- A condition after its keyword; nothing without a condition. -/
def Expression.conditionScript (clause : ConditionClause) : Option Expression → Script
  | some condition => .text (clause.text ++ " ") ++ condition.script
  | none => .empty

def WithQuery.script : WithQuery → Script
  | ⟨name, query⟩ => .text name ++ .text " AS (" ++ query.script ++ .text ")"

def WithQuery.scripts : List WithQuery → List Script
  | [] => []
  | named :: rest => named.script :: WithQuery.scripts rest

def Select.script : Select → Script
  | ⟨withQueries, leadingText, distinct, items, source, joins, filter, groupBy, having, orderBy,
      limit, offset, trailingText, comment⟩ =>
    .require .selectItems items.isEmpty
      ++ openingScript leadingText (WithQuery.scripts withQueries)
      ++ .text (if distinct then "SELECT DISTINCT " else "SELECT ")
      ++ .commaSeparated (items.map SelectItem.script)
      ++ .clause source.isEmpty source.script
      ++ joinsScript joins
      ++ .clause (lacksCondition filter) (Expression.conditionScript .filter filter)
      ++ .clause groupBy.isEmpty (groupByScript groupBy)
      ++ .clause (lacksCondition having) (Expression.conditionScript .having having)
      ++ .clause orderBy.isEmpty (orderByScript orderBy)
      ++ .clause limit.isNone (limitScript limit)
      ++ .clause offset.isNone (offsetScript offset)
      ++ closingScript trailingText comment

end

def Assignment.script (assignment : Assignment) : Script :=
  .text assignment.column.name ++ .text " = " ++ assignment.value.script

def setScript (assignments : List Assignment) : Script :=
  .text "SET " ++ .commaSeparated (assignments.map Assignment.script)

def valuesScript (rows : List (List Expression)) : Script :=
  .text "VALUES " ++ .commaSeparated
    (rows.map fun row => .parenthesized (Expression.script (.array row)))

def InsertSource.script : InsertSource → Script
  | .rows given => valuesScript given
  | .query select => select.script

def ConflictAction.script : ConflictAction → Script
  | .doNothing => .text " DO NOTHING"
  | .doUpdate assignments =>
    .require .conflictAssignments assignments.isEmpty ++ .text " DO UPDATE "
      ++ setScript assignments

def OnConflict.script (clause : OnConflict) : Script :=
  .text "ON CONFLICT" ++ (if clause.target.isEmpty then .empty else columnNamesScript clause.target)
    ++ clause.action.script

def onConflictScript : Option OnConflict → Script
  | some clause => .text " " ++ clause.script
  | none => .empty

def Insert.script (statement : Insert) : Script :=
  .require .insertTable statement.isEmpty
    ++ openingScript statement.leadingText (WithQuery.scripts statement.withQueries)
    ++ .text "INSERT " ++ intoScript statement.table
    ++ (if statement.columns.isEmpty then .empty else columnNamesScript statement.columns)
    ++ .clause statement.source.isEmpty statement.source.script
    ++ onConflictScript statement.onConflict
    ++ .clause statement.returning.isEmpty (returningScript statement.returning)
    ++ closingScript statement.trailingText statement.comment

def Update.script (statement : Update) : Script :=
  .require .updateTable statement.table.isEmpty
    ++ .require .updateAssignments statement.assignments.isEmpty
    ++ openingScript statement.leadingText (WithQuery.scripts statement.withQueries)
    ++ .text (if statement.only then "UPDATE ONLY " else "UPDATE ") ++ statement.table.script
    ++ .text " " ++ setScript statement.assignments
    ++ .clause statement.source.isEmpty statement.source.script
    ++ .clause (lacksCondition statement.filter)
        (Expression.conditionScript .filter statement.filter)
    ++ .clause statement.returning.isEmpty (returningScript statement.returning)
    ++ closingScript statement.trailingText statement.comment

def Delete.script (statement : Delete) : Script :=
  .require .deleteSource statement.isEmpty
    ++ openingScript statement.leadingText (WithQuery.scripts statement.withQueries)
    ++ .text "DELETE " ++ statement.source.script
    ++ .clause (statement.usingTables.all Table.isEmpty) (usingScript statement.usingTables)
    ++ .clause (lacksCondition statement.filter)
        (Expression.conditionScript .filter statement.filter)
    ++ .clause statement.returning.isEmpty (returningScript statement.returning)
    ++ closingScript statement.trailingText statement.comment

end SqlTree
