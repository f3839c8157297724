import SqlTree.Render.Context

/-!
# Sinks

A tree is written to a sink, which takes texts as they are and values to be bound.  Writing breaks
off at a violation; what was written before it stays in the sink.
-/

namespace SqlTree

/-- What texts and values can be written to. -/
class Sink (Target : Type) where
  write : Target → String → Target
  bind : Target → Scalar → Target

instance {mode : RenderMode} : Sink (Context mode) where
  write := Context.write
  bind := Context.bind

abbrev Writer (Target : Type) : Type → Type :=
  EStateM Violation Target

section Writers

variable {Target : Type} [Sink Target]

def emit (text : String) : Writer Target Unit :=
  modify fun target => Sink.write target text

/-- Writes a value: NULL is written as text, anything else is bound. -/
def emitValue (scalar : Scalar) : Writer Target Unit :=
  if scalar.isNull then emit "NULL" else modify fun target => Sink.bind target scalar

def requirePart (part : RequiredPart) (isEmpty : Bool) : Writer Target Unit :=
  if isEmpty then throw (.missing part) else pure ()

def emitSeparated (separator : String) : List (Writer Target Unit) → Writer Target Unit
  | [] => pure ()
  | [writer] => writer
  | writer :: rest => do
    writer
    emit separator
    emitSeparated separator rest

def emitList (writers : List (Writer Target Unit)) : Writer Target Unit :=
  emitSeparated ", " writers

def emitParenthesized (writer : Writer Target Unit) : Writer Target Unit := do
  emit "("
  writer
  emit ")"

/-- Writes a clause after what is already written, set off by a space, unless it is absent. -/
def emitClause (isAbsent : Bool) (clause : Writer Target Unit) : Writer Target Unit :=
  unless isAbsent do
    emit " "
    clause

end Writers

/-- A context with what was written to it, unless writing broke off. -/
def Writer.render {mode : RenderMode} (writer : Writer (Context mode) Unit) :
    Except Violation (Context mode) :=
  match writer.run {} with
  | .ok _ context => .ok context
  | .error violation _ => .error violation

end SqlTree
