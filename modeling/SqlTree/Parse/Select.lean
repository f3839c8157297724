import SqlTree.Parse.State
import SqlTree.Token.Lexer
import SqlTree.Tree.Build

/-!
# SELECT statements up to their table

The select list and the table of a SELECT statement:

    select := SELECT [DISTINCT] item ("," item)* [FROM [ONLY] word [AS word]] ...
    item   := "*" | word [AS word]

Whatever comes after is not read.
-/

namespace SqlTree.Parse

def readItem (state : State) : Except Failure (SelectItem × State) :=
  if state.isAt .asterisk then .ok (.fragment "*", state.advance)
  else
    match state.literal with
    | .error failure => .error failure
    | .ok (name, afterName) =>
      match afterName.asName with
      | .error failure => .error failure
      | .ok (asName, rest) => .ok (.column { name, asName }, rest)

theorem length_readItem_lt {state rest : State} {item : SelectItem}
    (read : readItem state = .ok (item, rest)) : rest.ahead.length < state.ahead.length := by
  unfold readItem at read
  split at read
  · next atAsterisk =>
    cases read
    exact State.length_advance_lt atAsterisk (by simp)
  split at read
  · cases read
  next name afterName readName =>
  split at read
  · cases read
  next asName last readAsName =>
  cases read
  exact Nat.lt_of_le_of_lt (State.length_asName_le readAsName) (State.length_literal_lt readName)

def item : Production SelectItem :=
  ⟨readItem, length_readItem_lt⟩

def readSource (state : State) : Except Failure FromClause :=
  let afterOnly := state.skip (.keyword .only)
  match afterOnly.literal with
  | .error failure => .error failure
  | .ok (name, afterName) =>
    match afterName.asName with
    | .error failure => .error failure
    | .ok (asName, _) =>
      .ok { table := { name, asName }, only := state.isAt (.keyword .only) }

def readSelect (text : String) : Except Failure Select :=
  match (State.ofStream (TokenStream.ofText text)).expect (.keyword .select) with
  | .error failure => .error failure
  | .ok afterSelect =>
    match item.commaSeparated (afterSelect.skip (.keyword .distinct)) with
    | .error failure => .error failure
    | .ok (items, afterItems) =>
      let query := { Select.ofItems items with distinct := afterSelect.isAt (.keyword .distinct) }
      if afterItems.isAt (.keyword .«from») then
        match readSource afterItems.advance with
        | .error failure => .error failure
        | .ok source => .ok { query with source }
      else .ok query

/-- The select list and the table of the SELECT statement at the start of a text. -/
def select (text : String) : Except ParseError Select :=
  (readSelect text).mapError fun failure => failure.report .select text

end SqlTree.Parse
