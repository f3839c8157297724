import SqlTree.Time.Timestamp

/-!
# Scalars

The values that can stand in a statement: NULL, truth values, integers, floating-point numbers,
texts and timestamps.
-/

namespace SqlTree

/-- A value of a statement. -/
inductive Scalar where
  | null
  | boolean (value : Bool)
  | signed (value : Int64)
  | unsigned (value : UInt64)
  | float (value : Binary64)
  | text (value : String)
  | time (value : Time.Timestamp)
  deriving DecidableEq, Repr

namespace Scalar

def isNull : Scalar → Bool
  | null => true
  | _ => false

theorem isNull_iff (value : Scalar) : value.isNull = true ↔ value = null := by
  cases value <;> simp [isNull]

def booleanText (value : Bool) : String :=
  if value then "true" else "false"

/-- The value written into a statement.  Texts are put between quotes as they are, so the result
is for reading and not for execution. -/
def inline : Scalar → String
  | null => "NULL"
  | boolean value => booleanText value
  | signed value => toString value.toInt
  | unsigned value => toString value.toNat
  | float value => Decimal.textOf value
  | text value => "'" ++ value ++ "'"
  | time value => "'" ++ String.ofList value.inlineText ++ "'"

/-- The value as JSON text.  Floating-point numbers have none here. -/
def json? : Scalar → Option String
  | null => some "null"
  | boolean value => some (booleanText value)
  | signed value => some (toString value.toInt)
  | unsigned value => some (toString value.toNat)
  | float _ => none
  | text value => some (Text.jsonString value)
  | time value => some value.json

/-- Values of one kind that denote the same thing: floating-point numbers are compared as numbers
and timestamps as instants. -/
def same : Scalar → Scalar → Bool
  | null, null => true
  | boolean first, boolean second => first == second
  | signed first, signed second => first == second
  | unsigned first, unsigned second => first == second
  | float first, float second => first.equals second
  | text first, text second => first == second
  | time first, time second => first.sameInstant second
  | _, _ => false

end Scalar

end SqlTree
