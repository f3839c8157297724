import SqlTree.Tree.Leaf
import SqlTree.Tree.Operator

/-!
# Joins

A join names a table and, unless it is a cross join, the condition on which rows are joined:
equalities of two columns, put together by AND and OR.
-/

namespace SqlTree

/-- The condition of a join. -/
inductive JoinCondition where
  | equality (left right : Column)
  | connected (left : JoinCondition) (connective : Connective) (right : JoinCondition)
  deriving DecidableEq, Repr

namespace JoinCondition

/-- Some column of the condition has no name. -/
def isEmpty : JoinCondition → Bool
  | equality left right => left.isEmpty || right.isEmpty
  | connected left _ right => left.isEmpty || right.isEmpty

/-- The condition joined to another one, as the left operand. -/
def connect (connective : Connective) (left right : JoinCondition) : JoinCondition :=
  connected left connective right

end JoinCondition

/-- The kinds of joins. -/
inductive JoinKind where
  | inner
  | left
  | right
  | cross
  deriving DecidableEq, Repr

namespace JoinKind

def text : JoinKind → String
  | inner => "INNER JOIN"
  | left => "LEFT JOIN"
  | right => "RIGHT JOIN"
  | cross => "CROSS JOIN"

def all : List JoinKind := [inner, left, right, cross]

def ofText? (text : String) : Option JoinKind :=
  all.find? fun kind => kind.text == text

end JoinKind

/-- A join.  The table is left empty where only a condition was given. -/
structure Join where
  kind : JoinKind := .inner
  table : Table := {}
  condition : Option JoinCondition := none
  deriving DecidableEq, Repr

namespace Join

def cross (table : Table) : Join :=
  { kind := .cross, table }

def withTable (join : Join) (table : Table) : Join :=
  { join with table }

/-- The join has no condition with all its columns named. -/
def lacksCondition (join : Join) : Bool :=
  match join.condition with
  | some condition => condition.isEmpty
  | none => true

/-- The join misses its table or, unless it is a cross join, its condition. -/
def isEmpty (join : Join) : Bool :=
  join.table.isEmpty || (join.kind != .cross && join.lacksCondition)

end Join

end SqlTree
