import SqlTree.Render.Script

/-!
# Render modes and contexts

A context collects the text of a statement and the values bound in it.  What a bound value leaves
in the text depends on the mode: the value itself, a name, or a number.  Each bound value takes a
place of its own, also when it equals one bound before.
-/

namespace SqlTree

/-- What becomes of bound values: they are written inline, get names, or get numbers. -/
inductive RenderMode where
  | raw
  | named
  | positional
  deriving DecidableEq, Repr

namespace RenderMode

/-- What a context keeps of a bound value: nothing, the value with its name, or the value. -/
abbrev Argument : RenderMode → Type
  | raw => Empty
  | named => String × Scalar
  | positional => Scalar

def argumentValue : (mode : RenderMode) → mode.Argument → Scalar
  | named, argument => argument.2
  | positional, argument => argument

/-- The name of the argument with the given number, counted from one. -/
def argumentName (number : Nat) : String :=
  "arg_" ++ toString number

/-- The texts that a bound value leaves, when it is the one with the given number. -/
def placeholder (mode : RenderMode) (number : Nat) (value : Scalar) : List String :=
  match mode with
  | raw => [value.inline]
  | named => [":", argumentName number]
  | positional => ["$", toString number]

/-- What the context keeps of a bound value, when it is the one with the given number. -/
def arguments : (mode : RenderMode) → (number : Nat) → Scalar → List mode.Argument
  | raw, _, _ => []
  | named, number, value => [(argumentName number, value)]
  | positional, _, value => [value]

end RenderMode

/-- The text written and the values bound so far. -/
structure Context (mode : RenderMode) where
  sql : String := ""
  arguments : List mode.Argument := []

namespace Context

variable {mode : RenderMode}

def write (context : Context mode) (text : String) : Context mode :=
  { context with sql := context.sql ++ text }

def writeAll (context : Context mode) (texts : List String) : Context mode :=
  texts.foldl write context

def nextNumber (context : Context mode) : Nat :=
  context.arguments.length + 1

/-- The texts that binding the value would add. -/
def bindTexts (context : Context mode) (value : Scalar) : List String :=
  mode.placeholder context.nextNumber value

def bindArguments (context : Context mode) (value : Scalar) : List mode.Argument :=
  mode.arguments context.nextNumber value

def bind (context : Context mode) (value : Scalar) : Context mode :=
  { context.writeAll (context.bindTexts value) with
    arguments := context.arguments ++ context.bindArguments value }

def values (context : Context mode) : List Scalar :=
  context.arguments.map mode.argumentValue

def value? (context : Context .named) (name : String) : Option Scalar :=
  (context.arguments.find? fun argument => argument.1 == name).map Prod.snd

end Context

end SqlTree
