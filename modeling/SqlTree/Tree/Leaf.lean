import SqlTree.Text.Blank

/-!
# Names and the small clauses made of them

Columns, tables, aggregate calls, the entries of a select list and of an ORDER BY clause.  A name
that consists of white space alone counts as absent.
-/

namespace SqlTree

open Text (isBlank)

/-- A column, possibly qualified by its table, and the name it is given after AS. -/
structure Column where
  name : String := ""
  asName : Option String := none
  deriving DecidableEq, Repr

/-- The column has no name. -/
def Column.isEmpty (column : Column) : Bool :=
  isBlank column.name

/-- A table, possibly qualified by its schema, and the name it is given after AS. -/
structure Table where
  name : String := ""
  asName : Option String := none
  deriving DecidableEq, Repr

def Table.isEmpty (table : Table) : Bool :=
  isBlank table.name

/-- The aggregate functions. -/
inductive AggregateFunction where
  | count
  | max
  | min
  | sum
  deriving DecidableEq, Repr

def AggregateFunction.text : AggregateFunction → String
  | count => "COUNT"
  | max => "MAX"
  | min => "MIN"
  | sum => "SUM"

/-- A call of an aggregate function on a fragment that is written as it is. -/
structure Aggregate where
  function : AggregateFunction
  argument : String
  distinct : Bool := false
  asName : Option String := none
  deriving DecidableEq, Repr

def Aggregate.isEmpty (call : Aggregate) : Bool :=
  isBlank call.argument

/-- An entry of a select list. -/
inductive SelectItem where
  | column (column : Column)
  | fragment (text : String)
  | aggregate (call : Aggregate)
  deriving DecidableEq, Repr

/-- The entry has nothing to show. -/
def SelectItem.isEmpty : SelectItem → Bool
  | .column named => named.isEmpty
  | .fragment text => isBlank text
  | .aggregate call => call.isEmpty

/-- The direction of a sort. -/
inductive Direction where
  | ascending
  | descending
  deriving DecidableEq, Repr

def Direction.text : Direction → String
  | ascending => "ASC"
  | descending => "DESC"

/-- An entry of an ORDER BY clause. -/
structure Order where
  column : Column
  direction : Direction
  deriving DecidableEq, Repr

def Order.isEmpty (order : Order) : Bool :=
  order.column.isEmpty

/-- A sort by the column's own name; the name it is given after AS plays no part. -/
def Column.sorted (column : Column) (direction : Direction) : Order :=
  ⟨{ name := column.name }, direction⟩

/-- The table a statement reads from or deletes from, with or without the tables that inherit from
it. -/
structure FromClause where
  table : Table := {}
  only : Bool := false
  deriving DecidableEq, Repr

def FromClause.isEmpty (clause : FromClause) : Bool :=
  clause.table.isEmpty

end SqlTree
