import SqlTree.Scalar
import SqlTree.Tree.Join

/-!
# Expressions and statements

Expressions and SELECT statements are defined together, because a query can stand in an expression
and every WHERE clause holds one.  The other three statements are built from them.  A clause that
is left out is an empty list, an empty text or `none`.
-/

namespace SqlTree

open Text (isBlank)

mutual

/-- What can stand where a value or a condition is expected. -/
inductive Expression where
  | identifier (name : String)
  | column (column : Column)
  | value (scalar : Scalar)
  | fragment (text : String)
  | array (items : List Expression)
  | binary (left : Expression) (operator : Operator) (right : Expression)
  | between (name : String) (operator : Comparison) (lower : Expression) (connective : Connective)
    (upper : Expression)
  | membership (tested : Expression) (operator : Comparison) (candidates : Expression)
  | existence (negated : Bool) (subject : Expression)
  | aggregate (call : Aggregate)
  | wrapped (inner : Expression)
  | subquery (query : Select)

/-- A query under a name that the statement after it may use. -/
structure WithQuery where
  name : String
  query : Select

/-- A SELECT statement.  `filter` is its WHERE condition. -/
structure Select where
  withQueries : List WithQuery := []
  leadingText : String := ""
  distinct : Bool := false
  items : List SelectItem := []
  source : FromClause := {}
  joins : List Join := []
  filter : Option Expression := none
  groupBy : List Column := []
  having : Option Expression := none
  orderBy : List Order := []
  limit : Option UInt64 := none
  offset : Option UInt64 := none
  trailingText : String := ""
  comment : String := ""

end

/-- A column and the expression it is set to. -/
structure Assignment where
  column : Column
  value : Expression

/-- The rows to insert: given one by one, or the result of a query. -/
inductive InsertSource where
  | rows (rows : List (List Expression))
  | query (query : Select)

/-- What to do with a row that conflicts with an existing one. -/
inductive ConflictAction where
  | doNothing
  | doUpdate (assignments : List Assignment)

/-- The columns on which rows conflict, and what is done then. -/
structure OnConflict where
  target : List Column
  action : ConflictAction

/-- An INSERT statement. -/
structure Insert where
  withQueries : List WithQuery := []
  leadingText : String := ""
  table : Table := {}
  columns : List Column := []
  source : InsertSource := .rows []
  onConflict : Option OnConflict := none
  returning : List Column := []
  trailingText : String := ""
  comment : String := ""

/-- An UPDATE statement.  `filter` is its WHERE condition. -/
structure Update where
  withQueries : List WithQuery := []
  leadingText : String := ""
  table : Table := {}
  only : Bool := false
  assignments : List Assignment := []
  source : FromClause := {}
  filter : Option Expression := none
  returning : List Column := []
  trailingText : String := ""
  comment : String := ""

/-- A DELETE statement.  `filter` is its WHERE condition. -/
structure Delete where
  withQueries : List WithQuery := []
  leadingText : String := ""
  source : FromClause := {}
  usingTables : List Table := []
  filter : Option Expression := none
  returning : List Column := []
  trailingText : String := ""
  comment : String := ""

/-- The query has no select list. -/
def Select.isEmpty (query : Select) : Bool :=
  query.items.isEmpty

/-- The expression misses a part without which it means nothing. -/
def Expression.isEmpty : Expression → Bool
  | .identifier name => isBlank name
  | .column named => named.isEmpty
  | .value _ => false
  | .fragment text => isBlank text
  | .array items => items.isEmpty
  | .binary left _ right => left.isEmpty || right.isEmpty
  | .between name _ lower _ upper => isBlank name || lower.isEmpty || upper.isEmpty
  | .membership tested _ _ => tested.isEmpty
  | .existence _ subject => subject.isEmpty
  | .aggregate call => call.isEmpty
  | .wrapped inner => inner.isEmpty
  | .subquery query => query.isEmpty

/-- The expression is a query itself, not merely something around one. -/
def Expression.isSubquery : Expression → Bool
  | .subquery _ => true
  | _ => false

def WithQuery.isEmpty (named : WithQuery) : Bool :=
  isBlank named.name || named.query.isEmpty

def InsertSource.isEmpty : InsertSource → Bool
  | .rows given => given.isEmpty
  | .query select => select.isEmpty

def Insert.isEmpty (statement : Insert) : Bool :=
  statement.table.isEmpty

/-- The statement has no table or sets no column. -/
def Update.isEmpty (statement : Update) : Bool :=
  statement.table.isEmpty || statement.assignments.isEmpty

def Delete.isEmpty (statement : Delete) : Bool :=
  statement.source.isEmpty

/-- A condition clause without a condition, or with an empty one. -/
def lacksCondition : Option Expression → Bool
  | some condition => condition.isEmpty
  | none => true

end SqlTree
