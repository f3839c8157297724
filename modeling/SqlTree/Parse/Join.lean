import SqlTree.Parse.Condition
import SqlTree.Token.Lexer
import SqlTree.Tree.Join

/-!
# Joins

A join is read from its kind, its table and its condition, most of which may be left out:

    join  := CROSS JOIN table
           | [[INNER | LEFT | RIGHT] JOIN] [table ON | ON] condition
    table := word [AS word]

A text that is a bare condition is an inner join whose table is still to be given.
-/

namespace SqlTree.Parse

/-- Comparisons become equalities of two columns. -/
def joinStyle : ConditionStyle JoinCondition where
  comparison left right := .equality { name := left } { name := right }
  connect := JoinCondition.connect
  missingEquals := .expected

def readKindWords (kind : JoinKind) (state : State) : Except Failure (JoinKind × State) :=
  match state.advance.expect (.keyword .join) with
  | .ok rest => .ok (kind, rest)
  | .error failure => .error failure

/-- Reads the words that name the kind of the join; without any it is an inner join. -/
def readJoinKind (state : State) : Except Failure (JoinKind × State) :=
  match state.current.keyword? with
  | some .inner => readKindWords .inner state
  | some .left => readKindWords .left state
  | some .right => readKindWords .right state
  | some .cross => readKindWords .cross state
  | some .join => .ok (.inner, state.advance)
  | _ => .ok (.inner, state)

def readTable (state : State) : Except Failure (Table × State) :=
  match state.literal with
  | .error failure => .error failure
  | .ok (name, afterName) =>
    match afterName.asName with
    | .error failure => .error failure
    | .ok (asName, rest) => .ok ({ name, asName }, rest)

/-- A table comes next, rather than the left side of a comparison. -/
def State.isAtTable (state : State) : Bool :=
  state.isAt .literal
    && (state.following.kind == .keyword .on || state.following.kind == .keyword .as)

/-- Reads the table in front of ON, if there is one; without one the table is empty. -/
def readJoinTable (state : State) : Except Failure (Table × State) :=
  if state.isAtTable then readTable state else .ok ({}, state)

/-- Reads ON, which has to follow a table and may be left out without one. -/
def readOn (table : Table) (state : State) : Except Failure State :=
  if !table.isEmpty || state.isAt (.keyword .on) then state.expect (.keyword .on) else .ok state

/-- Reads the table of a cross join, after which nothing may come. -/
def readCrossJoin (state : State) : Except Failure Join :=
  match readTable state with
  | .error failure => .error failure
  | .ok (table, rest) =>
    if rest.isAt (.keyword .on) then .error (rest.failure .crossJoinCondition)
    else rest.finish (Join.cross table)

def State.skipClosing (state : State) : Except Failure State :=
  if state.isAt .closeParenthesis then state.closeGroup else .ok state

def readConditionJoin (kind : JoinKind) (state : State) : Except Failure Join :=
  match readJoinTable state with
  | .error failure => .error failure
  | .ok (table, afterTable) =>
    match readOn table afterTable with
    | .error failure => .error failure
    | .ok afterOn =>
      match condition joinStyle afterOn with
      | .error failure => .error failure
      | .ok (tree, afterTree) =>
        match afterTree.skipClosing with
        | .error failure => .error failure
        | .ok rest => rest.finish { kind, table, condition := some tree }

def readJoin (text : String) : Except Failure Join :=
  match readJoinKind (State.ofStream (TokenStream.ofText text)) with
  | .error failure => .error failure
  | .ok (kind, rest) =>
    match kind with
    | .cross => readCrossJoin rest
    | other => readConditionJoin other rest

def join (text : String) : Except ParseError Join :=
  (readJoin text).mapError fun failure => failure.report .joinCondition text

end SqlTree.Parse
