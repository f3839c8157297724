/-!
# Operators

The operators that join two conditions, those that compare two values, and the two together.
-/

namespace SqlTree

/-- The words that join two conditions. -/
inductive Connective where
  | and
  | or
  deriving DecidableEq, Repr

def Connective.text : Connective → String
  | and => "AND"
  | or => "OR"

/-- The operators that compare values. -/
inductive Comparison where
  | equal
  | notEqual
  | is
  | isNot
  | greaterThan
  | greaterThanOrEqual
  | lessThan
  | lessThanOrEqual
  | isIn
  | isNotIn
  | like
  | notLike
  | caselessLike
  | notCaselessLike
  | between
  | notBetween
  deriving DecidableEq, Repr

namespace Comparison

def text : Comparison → String
  | equal => "="
  | notEqual => "!="
  | is => "IS"
  | isNot => "IS NOT"
  | greaterThan => ">"
  | greaterThanOrEqual => ">="
  | lessThan => "<"
  | lessThanOrEqual => "<="
  | isIn => "IN"
  | isNotIn => "NOT IN"
  | like => "LIKE"
  | notLike => "NOT LIKE"
  | caselessLike => "ILIKE"
  | notCaselessLike => "NOT ILIKE"
  | between => "BETWEEN"
  | notBetween => "NOT BETWEEN"

def all : List Comparison := [
  equal, notEqual, is, isNot, greaterThan, greaterThanOrEqual, lessThan, lessThanOrEqual, isIn,
  isNotIn, like, notLike, caselessLike, notCaselessLike, between, notBetween]

end Comparison

/-- What can stand between the two operands of an expression. -/
inductive Operator where
  | connective (connective : Connective)
  | comparison (comparison : Comparison)
  deriving DecidableEq, Repr

namespace Operator

def text : Operator → String
  | .connective word => word.text
  | .comparison sign => sign.text

def all : List Operator :=
  [connective .and, connective .or] ++ Comparison.all.map comparison

def ofText? (text : String) : Option Operator :=
  all.find? fun operator => operator.text == text

end Operator

end SqlTree
