/-!
# Violations

A tree that breaks a rule of construction is a mistake of the program that built it, and not of
the text it was given.  Each rule that can be broken has a constructor here; the wording is in one
place.
-/

namespace SqlTree

/-- A part without which a statement or a clause cannot be written. -/
inductive RequiredPart where
  | selectItems
  | joinTable
  | joinCondition
  | insertTable
  | updateTable
  | updateAssignments
  | deleteSource
  | conflictAssignments
  deriving DecidableEq, Repr

def RequiredPart.description : RequiredPart → String
  | selectItems => "select expressions"
  | joinTable => "join table"
  | joinCondition => "join condition"
  | insertTable => "insert into clause"
  | updateTable => "update table"
  | updateAssignments => "update set clause"
  | deleteSource => "delete from clause"
  | conflictAssignments => "conflict update set"

/-- The two clauses that hold a condition. -/
inductive ConditionClause where
  | filter
  | having
  deriving DecidableEq, Repr

def ConditionClause.text : ConditionClause → String
  | filter => "WHERE"
  | having => "HAVING"

/-- The rules of construction that a tree can break. -/
inductive Violation where
  | missing (part : RequiredPart)
  | emptyClause (clause : ConditionClause)
  | emptyOperand (clause : ConditionClause)
  deriving DecidableEq, Repr

def Violation.message (violation : Violation) : String :=
  "contract violation: " ++
    match violation with
    | missing part => part.description ++ " must not be empty"
    | emptyClause clause => "cannot combine an empty " ++ clause.text ++ " clause"
    | emptyOperand clause => "cannot add an empty expression to a " ++ clause.text ++ " clause"

end SqlTree
