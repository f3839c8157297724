import SqlTree.Parse.Error
import SqlTree.Token.Stream

/-!
# Reading tokens

The state of a parser, the steps that read one token, and productions: parsers that use up at
least one token whenever they succeed.  Repetitions of productions therefore come to an end.

The state counts the parentheses that are open and the comparisons that were read.  Both are
bounded.
-/

namespace SqlTree.Parse

/-- A cause and the place where it arose. -/
structure Failure where
  cause : ParseCause
  span : Span
  deriving DecidableEq, Repr

def Failure.report (failure : Failure) (grammar : Grammar) (query : String) : ParseError :=
  ⟨grammar, failure.cause, some failure.span, query⟩

/-- The greatest number of parentheses open at one time. -/
def maxDepth : Nat := 128

/-- The greatest number of comparisons in one condition. -/
def maxTests : Nat := 512

/-- The tokens still to be read, the number of parentheses open and the number of comparisons
read so far. -/
structure State extends TokenStream where
  depth : Nat := 0
  tests : Nat := 0
  deriving DecidableEq, Repr

namespace State

def ofStream (stream : TokenStream) : State :=
  { stream with }

def advance (state : State) : State :=
  { state with toTokenStream := state.toTokenStream.advance }

def isAt (state : State) (kind : TokenKind) : Bool :=
  state.current.kind == kind

/-- The state after the current token if it has the given category, else the state itself. -/
def skip (state : State) (kind : TokenKind) : State :=
  if state.isAt kind then state.advance else state

def failure (state : State) (cause : ParseCause) : Failure :=
  ⟨cause, state.current.span⟩

def unexpected (state : State) (expected : TokenKind) : Failure :=
  state.failure (.unexpected expected state.current)

def expect (state : State) (kind : TokenKind) : Except Failure State :=
  if state.isAt kind then .ok state.advance else .error (state.unexpected kind)

def literal (state : State) : Except Failure (String × State) :=
  if state.isAt .literal then .ok (state.current.text, state.advance)
  else .error (state.unexpected .literal)

/-- Enters a group whose opening parenthesis was read. -/
def openGroup (state : State) : Except Failure State :=
  if maxDepth ≤ state.depth then .error (state.failure .nestingTooDeep)
  else .ok { state with depth := state.depth + 1 }

/-- Reads the closing parenthesis of the innermost group, if one is open. -/
def closeGroup (state : State) : Except Failure State :=
  match state.depth with
  | 0 => .error (state.failure .unbalancedParenthesis)
  | outer + 1 => { state with depth := outer }.expect .closeParenthesis

def countTest (state : State) : Except Failure State :=
  if maxTests ≤ state.tests then .error (state.failure .tooManyConditions)
  else .ok { state with tests := state.tests + 1 }

def finish {Value : Type} (state : State) (value : Value) : Except Failure Value :=
  if state.atEnd then .ok value else .error (state.unexpected .endOfInput)

def asName (state : State) : Except Failure (Option String × State) :=
  if state.isAt (.keyword .as) then
    match state.advance.literal with
    | .ok (name, rest) => .ok (some name, rest)
    | .error failure => .error failure
  else .ok (none, state)

theorem length_advance_le (state : State) :
    state.advance.ahead.length ≤ state.ahead.length := by
  simp [advance, TokenStream.advance]

/-- Reading a token other than the end of the input leaves fewer tokens. -/
theorem length_advance_lt {state : State} {kind : TokenKind} (atKind : state.isAt kind = true)
    (notEnd : kind ≠ .endOfInput) :
    state.advance.ahead.length < state.ahead.length := by
  apply TokenStream.length_advance_lt
  simp only [isAt, beq_iff_eq] at atKind
  simp [Token.isEnd, atKind, notEnd]

theorem length_expect_lt {state rest : State} {kind : TokenKind} (notEnd : kind ≠ .endOfInput)
    (read : state.expect kind = .ok rest) : rest.ahead.length < state.ahead.length := by
  unfold expect at read
  split at read
  · next atKind =>
    cases read
    exact length_advance_lt atKind notEnd
  · cases read

theorem length_literal_lt {state rest : State} {name : String}
    (read : state.literal = .ok (name, rest)) : rest.ahead.length < state.ahead.length := by
  unfold literal at read
  split at read
  · next atKind =>
    cases read
    exact length_advance_lt atKind (by simp)
  · cases read

theorem ahead_openGroup {state inside : State} (opened : state.openGroup = .ok inside) :
    inside.ahead = state.ahead := by
  unfold openGroup at opened
  split at opened
  · cases opened
  · cases opened
    rfl

theorem length_closeGroup_lt {state rest : State} (closed : state.closeGroup = .ok rest) :
    rest.ahead.length < state.ahead.length := by
  unfold closeGroup at closed
  split at closed
  · cases closed
  · have shorter := length_expect_lt (by simp) closed
    exact shorter

theorem ahead_countTest {state counted : State} (count : state.countTest = .ok counted) :
    counted.ahead = state.ahead := by
  unfold countTest at count
  split at count
  · cases count
  · cases count
    rfl

theorem length_asName_le {state rest : State} {name : Option String}
    (read : state.asName = .ok (name, rest)) : rest.ahead.length ≤ state.ahead.length := by
  unfold asName at read
  split at read
  · split at read
    · next found =>
      cases read
      exact Nat.le_trans (Nat.le_of_lt (length_literal_lt found)) (length_advance_le state)
    · cases read
  · cases read
    exact Nat.le_refl _

end State

/-- A parser that leaves fewer tokens whenever it succeeds. -/
structure Production (Value : Type) where
  run : State → Except Failure (Value × State)
  shortens : ∀ {state rest : State} {value : Value},
    run state = .ok (value, rest) → rest.ahead.length < state.ahead.length

namespace Production

variable {Value : Type}

/-- Reads one value and, as long as a comma follows, another one. -/
def commaSeparated (item : Production Value) (state : State) :
    Except Failure (List Value × State) :=
  match _read : item.run state with
  | .error failure => .error failure
  | .ok (value, rest) =>
    if rest.isAt .comma then
      match item.commaSeparated rest.advance with
      | .ok (values, last) => .ok (value :: values, last)
      | .error failure => .error failure
    else .ok ([value], rest)
termination_by state.ahead.length
decreasing_by exact Nat.lt_of_le_of_lt (State.length_advance_le rest) (item.shortens _read)

end Production

end SqlTree.Parse
