import SqlTree.Tree.Statement
import SqlTree.Tree.Violation

/-!
# Building trees

Conditions are put together from the left: the tree built so far becomes the left operand.  A
WHERE or HAVING clause keeps its first condition in a wrapper that shows nothing of its own, and
refuses to be extended while it is empty, or by something empty.
-/

namespace SqlTree

namespace Expression

def connect (connective : Connective) (left right : Expression) : Expression :=
  .binary left (.connective connective) right

def connectAll (connective : Connective) (first : Expression) (others : List Expression) :
    Expression :=
  others.foldl (connect connective) first

def compare (name : String) (comparison : Comparison) (right : Expression) : Expression :=
  .binary (.identifier name) (.comparison comparison) right

/-- A name tested for lying between two bounds, which are joined by AND, or for not lying there. -/
def inRange (name : String) (comparison : Comparison) (lower upper : Expression) : Expression :=
  .between name comparison lower .and upper

def ofScalars (scalars : List Scalar) : Expression :=
  .array (scalars.map .value)

/-- A name tested for being among the given values, or for not being among them. -/
def amongValues (name : String) (comparison : Comparison) (scalars : List Scalar) : Expression :=
  .membership (.identifier name) comparison (ofScalars scalars)

/-- A name tested for being in the result of a query, or for not being in it. -/
def amongRows (name : String) (comparison : Comparison) (query : Select) : Expression :=
  .membership (.identifier name) comparison (.subquery query)

end Expression

namespace JoinCondition

def connectAll (connective : Connective) (first : JoinCondition) (others : List JoinCondition) :
    JoinCondition :=
  others.foldl (connect connective) first

end JoinCondition

namespace ConditionClause

def start (condition : Expression) : Option Expression :=
  some (.wrapped condition)

/-- The clause extended by another condition.  Neither may be empty. -/
def extend (clause : ConditionClause) (connective : Connective) (current : Option Expression)
    (other : Expression) : Except Violation (Option Expression) :=
  match current with
  | none => .error (.emptyClause clause)
  | some condition =>
    if condition.isEmpty then .error (.emptyClause clause)
    else if other.isEmpty then .error (.emptyOperand clause)
    else .ok (some (condition.connect connective other))

def extendAll (clause : ConditionClause) (current : Option Expression) :
    List (Connective × Expression) → Except Violation (Option Expression)
  | [] => .ok current
  | (connective, other) :: rest =>
    match clause.extend connective current other with
    | .ok extended => clause.extendAll extended rest
    | .error violation => .error violation

end ConditionClause

def Select.ofItems (items : List SelectItem) : Select :=
  { items }

/-- The source with one more row.  A query, like no rows at all, is replaced by the row. -/
def InsertSource.addRow (source : InsertSource) (row : List Expression) : InsertSource :=
  match source with
  | .rows given => .rows (given ++ [row])
  | .query _ => .rows [row]

def Insert.addRow (statement : Insert) (row : List Expression) : Insert :=
  { statement with source := statement.source.addRow row }

end SqlTree
