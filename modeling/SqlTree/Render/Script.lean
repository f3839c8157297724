import SqlTree.Scalar
import SqlTree.Tree.Violation

/-!
# Scripts

What writing a tree amounts to, whatever becomes of the values in it: a sequence of pieces, each a
text or a value to bind, that may break off with a violation.  Scripts are joined with `++`; what
follows a violation is never written.
-/

namespace SqlTree

/-- A text to be written as it is, or a value to be bound. -/
inductive Piece where
  | text (text : String)
  | bind (value : Scalar)
  deriving DecidableEq, Repr

/-- The pieces to write, and the violation met after them, if any. -/
structure Script where
  pieces : List Piece
  violation : Option Violation := none
  deriving DecidableEq, Repr

namespace Script

def empty : Script :=
  ⟨[], none⟩

def text (text : String) : Script :=
  ⟨[.text text], none⟩

/-- A value: NULL is written as text, anything else is bound. -/
def value (scalar : Scalar) : Script :=
  if scalar.isNull then text "NULL" else ⟨[.bind scalar], none⟩

/-- A violation before anything is written. -/
def abort (violation : Violation) : Script :=
  ⟨[], some violation⟩

/-- One script after the other, unless the first one breaks off. -/
def append (first second : Script) : Script :=
  match first.violation with
  | some _ => first
  | none => ⟨first.pieces ++ second.pieces, second.violation⟩

instance : Append Script :=
  ⟨append⟩

def require (part : RequiredPart) (isEmpty : Bool) : Script :=
  if isEmpty then abort (.missing part) else empty

def separated (separator : String) : List Script → Script
  | [] => empty
  | [script] => script
  | script :: rest => script ++ text separator ++ separated separator rest

def commaSeparated (scripts : List Script) : Script :=
  separated ", " scripts

def parenthesized (script : Script) : Script :=
  text "(" ++ script ++ text ")"

/-- A clause after what is already written, set off by a space; nothing if the clause is absent.
-/
def clause (isAbsent : Bool) (script : Script) : Script :=
  if isAbsent then empty else text " " ++ script

/-- A clause before what is still to be written, set off by a space; nothing if the clause is
absent. -/
def leading (isAbsent : Bool) (script : Script) : Script :=
  if isAbsent then empty else script ++ text " "

@[simp]
theorem empty_append (script : Script) : empty ++ script = script :=
  rfl

@[simp]
theorem append_empty (script : Script) : script ++ empty = script := by
  rcases script with ⟨pieces, violation⟩
  cases violation with
  | none => exact congrArg (Script.mk · none) (List.append_nil pieces)
  | some violation => rfl

theorem append_assoc (first second third : Script) :
    first ++ second ++ third = first ++ (second ++ third) := by
  rcases first with ⟨firstPieces, firstViolation⟩
  rcases second with ⟨secondPieces, secondViolation⟩
  cases firstViolation with
  | some violation => rfl
  | none =>
    cases secondViolation with
    | some violation => rfl
    | none => exact congrArg (Script.mk · third.violation) (List.append_assoc ..)

end Script

end SqlTree
