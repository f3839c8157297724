import SqlTree.Render.Write

/-!
# Nodes

A node is anything that can be written on its own: a statement, a clause, an expression or a part
of one.
-/

namespace SqlTree

open Text (isBlank)

/-- The kinds of nodes. -/
inductive Node where
  | select (statement : Select)
  | insert (statement : Insert)
  | update (statement : Update)
  | delete (statement : Delete)
  | expression (expression : Expression)
  | operator (operator : Operator)
  | selectItem (item : SelectItem)
  | table (table : Table)
  | joinCondition (condition : JoinCondition)
  | join (join : Join)
  | condition (clause : ConditionClause) (condition : Option Expression)
  | fromClause (clause : FromClause)
  | into (table : Table)
  | usingTables (tables : List Table)
  | assignments (assignments : List Assignment)
  | values (rows : List (List Expression))
  | source (source : InsertSource)
  | groupBy (columns : List Column)
  | order (order : Order)
  | orderBy (orders : List Order)
  | limit (count : Option UInt64)
  | offset (count : Option UInt64)
  | returning (columns : List Column)
  | withQueries (queries : List WithQuery)
  | withQuery (query : WithQuery)
  | outerText (text : String)
  | comment (text : String)
  | onConflict (clause : OnConflict)

namespace Node

def isEmpty : Node → Bool
  | select statement => statement.isEmpty
  | insert statement => statement.isEmpty
  | update statement => statement.isEmpty
  | delete statement => statement.isEmpty
  | expression node => node.isEmpty
  | operator _ => false
  | selectItem item => item.isEmpty
  | table named => named.isEmpty
  | joinCondition node => node.isEmpty
  | join node => node.isEmpty
  | condition _ node => lacksCondition node
  | fromClause clause => clause.isEmpty
  | into named => named.isEmpty
  | usingTables tables => tables.all Table.isEmpty
  | assignments pairs => pairs.isEmpty
  | values rows => rows.isEmpty
  | source given => given.isEmpty
  | groupBy columns => columns.isEmpty
  | order entry => entry.isEmpty
  | orderBy entries => entries.isEmpty
  | limit count => count.isNone
  | offset count => count.isNone
  | returning columns => columns.isEmpty
  | withQueries queries => queries.isEmpty
  | withQuery query => query.isEmpty
  | outerText text => isBlank text
  | comment text => isBlank text
  | onConflict _ => false

/-- What writing the node amounts to. -/
def script : Node → Script
  | select statement => statement.script
  | insert statement => statement.script
  | update statement => statement.script
  | delete statement => statement.script
  | expression node => node.script
  | operator node => node.script
  | selectItem item => item.script
  | table named => named.script
  | joinCondition node => node.script
  | join node => node.script
  | condition clause node => Expression.conditionScript clause node
  | fromClause clause => clause.script
  | into named => intoScript named
  | usingTables tables => usingScript tables
  | assignments pairs => setScript pairs
  | values rows => valuesScript rows
  | source given => given.script
  | groupBy columns => groupByScript columns
  | order entry => entry.script
  | orderBy entries => orderByScript entries
  | limit count => limitScript count
  | offset count => offsetScript count
  | returning columns => returningScript columns
  | withQueries queries => withScript (WithQuery.scripts queries)
  | withQuery query => query.script
  | outerText text => outerTextScript text
  | comment text => commentScript text
  | onConflict clause => clause.script

def write {Target : Type} [Sink Target] : Node → Writer Target Unit
  | select statement => statement.write
  | insert statement => statement.write
  | update statement => statement.write
  | delete statement => statement.write
  | expression node => node.write
  | operator node => node.write
  | selectItem item => item.write
  | table named => named.write
  | joinCondition node => node.write
  | join node => node.write
  | condition clause node => Expression.writeCondition clause node
  | fromClause clause => clause.write
  | into named => writeInto named
  | usingTables tables => writeUsing tables
  | assignments pairs => writeSet pairs
  | values rows => writeValues rows
  | source given => given.write
  | groupBy columns => writeGroupBy columns
  | order entry => entry.write
  | orderBy entries => writeOrderBy entries
  | limit count => writeLimit count
  | offset count => writeOffset count
  | returning columns => writeReturning columns
  | withQueries queries => writeWith (WithQuery.writers queries)
  | withQuery query => query.write
  | outerText text => writeOuterText text
  | comment text => writeComment text
  | onConflict clause => clause.write

/-- The node written into an empty context, unless a rule of construction is broken. -/
def render (node : Node) (mode : RenderMode) : Except Violation (Context mode) :=
  (node.write : Writer (Context mode) Unit).render

end Node

end SqlTree
