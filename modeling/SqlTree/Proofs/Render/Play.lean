import SqlTree.Render.Node

/-!
# Writing follows the script

The script of a node is what writing the node amounts to in every sink: the pieces are added one
after the other, and the violation, if there is one, breaks writing off after them.
-/

namespace SqlTree

variable {Target : Type} [Sink Target]

namespace Sink

@[simp]
def add (target : Target) : Piece → Target
  | .text text => write target text
  | .bind value => bind target value

def addAll (target : Target) (pieces : List Piece) : Target :=
  pieces.foldl add target

@[simp]
theorem addAll_nil (target : Target) : addAll target [] = target :=
  rfl

@[simp]
theorem addAll_cons (target : Target) (piece : Piece) (rest : List Piece) :
    addAll target (piece :: rest) = addAll (add target piece) rest :=
  rfl

theorem addAll_append (target : Target) (first second : List Piece) :
    addAll target (first ++ second) = addAll (addAll target first) second :=
  List.foldl_append

end Sink

namespace Script

/-- What becomes of writing the script when its pieces have led to the given sink. -/
def outcome (script : Script) (target : Target) : EStateM.Result Violation Target Unit :=
  match script.violation with
  | none => .ok () target
  | some violation => .error violation target

/-- Adds the pieces of the script to a sink, and breaks off if the script does. -/
def play (script : Script) : Writer Target Unit :=
  fun target => script.outcome (Sink.addAll target script.pieces)

@[simp]
theorem play_empty : (empty.play : Writer Target Unit) = pure () :=
  rfl

@[simp]
theorem play_text (content : String) :
    ((text content).play : Writer Target Unit) = emit content :=
  rfl

@[simp]
theorem play_abort (violation : Violation) :
    ((abort violation).play : Writer Target Unit) = throw violation :=
  rfl

@[simp]
theorem play_value (scalar : Scalar) :
    ((value scalar).play : Writer Target Unit) = emitValue scalar := by
  unfold value emitValue
  split <;> rfl

/-- A script that does not break off is played before the one after it. -/
@[simp]
theorem play_append (first second : Script) :
    ((first ++ second).play : Writer Target Unit) = (do first.play; second.play) := by
  funext target
  rcases first with ⟨pieces, violation⟩
  cases violation with
  | some violation => rfl
  | none =>
    rcases second with ⟨rest, violation⟩
    change play ⟨pieces ++ rest, violation⟩ target =
      play ⟨rest, violation⟩ (Sink.addAll target pieces)
    simp only [play, Sink.addAll_append]
    rfl

theorem play_ite (condition : Prop) [Decidable condition] (first second : Script) :
    ((if condition then first else second).play : Writer Target Unit) =
      if condition then first.play else second.play := by
  split <;> rfl

@[simp]
theorem play_require (part : RequiredPart) (isEmpty : Bool) :
    ((require part isEmpty).play : Writer Target Unit) = requirePart part isEmpty := by
  simp [require, requirePart, play_ite]

@[simp]
theorem play_separated (separator : String) (scripts : List Script) :
    ((separated separator scripts).play : Writer Target Unit) =
      emitSeparated separator (scripts.map play) := by
  induction scripts with
  | nil => rfl
  | cons script rest ih =>
    cases rest with
    | nil => rfl
    | cons next rest => simp [separated, emitSeparated, ih]

@[simp]
theorem play_commaSeparated (scripts : List Script) :
    ((commaSeparated scripts).play : Writer Target Unit) = emitList (scripts.map play) :=
  play_separated ", " scripts

@[simp]
theorem play_parenthesized (script : Script) :
    (script.parenthesized.play : Writer Target Unit) = emitParenthesized script.play := by
  simp [parenthesized, emitParenthesized]

@[simp]
theorem play_clause (isAbsent : Bool) (script : Script) :
    ((clause isAbsent script).play : Writer Target Unit) = emitClause isAbsent script.play := by
  simp [clause, emitClause, play_ite]

@[simp]
theorem play_leading (isAbsent : Bool) (script : Script) :
    ((leading isAbsent script).play : Writer Target Unit) =
      if isAbsent then pure () else (do script.play; emit " ") := by
  simp [leading, play_ite]

end Script

/-! ## Clauses -/

@[simp]
theorem play_asNameScript (name : Option String) :
    ((asNameScript name).play : Writer Target Unit) = writeAsName name := by
  cases name with
  | none => rfl
  | some name => simp [asNameScript, writeAsName, Script.play_ite]

@[simp]
theorem Column.play_script (column : Column) :
    (column.script.play : Writer Target Unit) = column.write := by
  simp [Column.script, Column.write]

@[simp]
theorem Table.play_script (table : Table) :
    (table.script.play : Writer Target Unit) = table.write := by
  simp [Table.script, Table.write]

@[simp]
theorem Aggregate.play_script (call : Aggregate) :
    (call.script.play : Writer Target Unit) = call.write := by
  cases distinct : call.distinct <;> simp [Aggregate.script, Aggregate.write, distinct]

@[simp]
theorem SelectItem.play_script (item : SelectItem) :
    (item.script.play : Writer Target Unit) = item.write := by
  cases item <;> simp [SelectItem.script, SelectItem.write]

@[simp]
theorem Order.play_script (order : Order) :
    (order.script.play : Writer Target Unit) = order.write := by
  simp [Order.script, Order.write]

@[simp]
theorem FromClause.play_script (clause : FromClause) :
    (clause.script.play : Writer Target Unit) = clause.write := by
  simp [FromClause.script, FromClause.write]

@[simp]
theorem Operator.play_script (operator : Operator) :
    (operator.script.play : Writer Target Unit) = operator.write :=
  rfl

@[simp]
theorem JoinCondition.play_script (condition : JoinCondition) :
    (condition.script.play : Writer Target Unit) = condition.write := by
  induction condition with
  | equality left right => simp [JoinCondition.script, JoinCondition.write]
  | connected left word right leftIH rightIH =>
    simp [JoinCondition.script, JoinCondition.write, leftIH, rightIH]

@[simp]
theorem Join.play_conditionScript (join : Join) :
    (join.conditionScript.play : Writer Target Unit) = join.writeCondition := by
  unfold Join.conditionScript Join.writeCondition
  cases join.condition with
  | none => rfl
  | some condition => simp [Script.play_ite]

@[simp]
theorem Join.play_script (join : Join) :
    (join.script.play : Writer Target Unit) = join.write := by
  simp [Join.script, Join.write, Script.play_ite]

@[simp]
theorem play_joinsScript (joins : List Join) :
    ((joinsScript joins).play : Writer Target Unit) = writeJoins joins := by
  induction joins with
  | nil => rfl
  | cons join rest ih =>
    by_cases byDefault : join = {} <;> simp [joinsScript, writeJoins, byDefault, ih]

theorem play_columnsScript (keyword : String) (columns : List Column) :
    ((columnsScript keyword columns).play : Writer Target Unit) = writeColumns keyword columns := by
  simp [columnsScript, writeColumns, Function.comp_def]

@[simp]
theorem play_columnNamesScript (columns : List Column) :
    ((columnNamesScript columns).play : Writer Target Unit) = writeColumnNames columns := by
  simp [columnNamesScript, writeColumnNames, Function.comp_def]

@[simp]
theorem play_groupByScript (columns : List Column) :
    ((groupByScript columns).play : Writer Target Unit) = writeGroupBy columns :=
  play_columnsScript "GROUP BY " columns

@[simp]
theorem play_returningScript (columns : List Column) :
    ((returningScript columns).play : Writer Target Unit) = writeReturning columns :=
  play_columnsScript "RETURNING " columns

@[simp]
theorem play_orderByScript (orders : List Order) :
    ((orderByScript orders).play : Writer Target Unit) = writeOrderBy orders := by
  simp [orderByScript, writeOrderBy, Function.comp_def]

@[simp]
theorem play_usingScript (tables : List Table) :
    ((usingScript tables).play : Writer Target Unit) = writeUsing tables := by
  simp [usingScript, writeUsing, Function.comp_def]

@[simp]
theorem play_intoScript (table : Table) :
    ((intoScript table).play : Writer Target Unit) = writeInto table := by
  simp [intoScript, writeInto]

@[simp]
theorem play_limitScript (count : Option UInt64) :
    ((limitScript count).play : Writer Target Unit) = writeLimit count := by
  cases count <;> rfl

@[simp]
theorem play_offsetScript (count : Option UInt64) :
    ((offsetScript count).play : Writer Target Unit) = writeOffset count := by
  cases count <;> rfl

@[simp]
theorem play_outerTextScript (text : String) :
    ((outerTextScript text).play : Writer Target Unit) = writeOuterText text :=
  rfl

@[simp]
theorem play_commentScript (comment : String) :
    ((commentScript comment).play : Writer Target Unit) = writeComment comment := by
  simp [commentScript, writeComment]

@[simp]
theorem play_withScript (queries : List Script) :
    ((withScript queries).play : Writer Target Unit) = writeWith (queries.map Script.play) := by
  simp [withScript, writeWith]

@[simp]
theorem play_openingScript (leadingText : String) (queries : List Script) :
    ((openingScript leadingText queries).play : Writer Target Unit) =
      writeOpening leadingText (queries.map Script.play) := by
  cases blank : Text.isBlank leadingText <;> cases queries <;>
    simp [openingScript, writeOpening, blank]

@[simp]
theorem play_closingScript (trailingText comment : String) :
    ((closingScript trailingText comment).play : Writer Target Unit) =
      writeClosing trailingText comment := by
  simp [closingScript, writeClosing]

/-! ## Expressions and queries -/

mutual

@[simp]
theorem Expression.play_script :
    (expression : Expression) → (expression.script.play : Writer Target Unit) = expression.write
  | .identifier name => rfl
  | .column named => by simp [Expression.script, Expression.write]
  | .value scalar => by simp [Expression.script, Expression.write]
  | .fragment text => rfl
  | .array items => by
    simp [Expression.script, Expression.write, Expression.map_play_scripts items]
  | .binary left operator right => by
    simp [Expression.script, Expression.write, left.play_script, right.play_script]
  | .between name operator lower connective upper => by
    simp [Expression.script, Expression.write, lower.play_script, upper.play_script]
  | .membership tested operator candidates => by
    cases bare : candidates.isSubquery <;>
      simp [Expression.script, Expression.write, bare, tested.play_script, candidates.play_script]
  | .existence negated subject => by
    cases bare : subject.isSubquery <;>
      simp [Expression.script, Expression.write, bare, subject.play_script]
  | .aggregate call => by simp [Expression.script, Expression.write]
  | .wrapped inner => by simp [Expression.script, Expression.write, inner.play_script]
  | .subquery query => by simp [Expression.script, Expression.write, query.play_script]

@[simp]
theorem Expression.map_play_scripts :
    (items : List Expression) →
      ((Expression.scripts items).map Script.play : List (Writer Target Unit)) =
        Expression.writers items
  | [] => rfl
  | item :: rest => by
    simp [Expression.scripts, Expression.writers, item.play_script,
      Expression.map_play_scripts rest]

@[simp]
theorem Expression.play_conditionScript (clause : ConditionClause) :
    (condition : Option Expression) →
      ((Expression.conditionScript clause condition).play : Writer Target Unit) =
        Expression.writeCondition clause condition
  | some condition => by
    simp [Expression.conditionScript, Expression.writeCondition, condition.play_script]
  | none => rfl

@[simp]
theorem WithQuery.play_script :
    (named : WithQuery) → (named.script.play : Writer Target Unit) = named.write
  | ⟨name, query⟩ => by simp [WithQuery.script, WithQuery.write, query.play_script]

@[simp]
theorem WithQuery.map_play_scripts :
    (queries : List WithQuery) →
      ((WithQuery.scripts queries).map Script.play : List (Writer Target Unit)) =
        WithQuery.writers queries
  | [] => rfl
  | named :: rest => by
    simp [WithQuery.scripts, WithQuery.writers, named.play_script, WithQuery.map_play_scripts rest]

@[simp]
theorem Select.play_script :
    (query : Select) → (query.script.play : Writer Target Unit) = query.write
  | ⟨withQueries, leadingText, distinct, items, source, joins, filter, groupBy, having, orderBy,
      limit, offset, trailingText, comment⟩ => by
    simp [Select.script, Select.write, Function.comp_def, WithQuery.map_play_scripts withQueries,
      Expression.play_conditionScript .filter filter,
      Expression.play_conditionScript .having having]

end

/-! ## The other statements -/

@[simp]
theorem Assignment.play_script (assignment : Assignment) :
    (assignment.script.play : Writer Target Unit) = assignment.write := by
  simp [Assignment.script, Assignment.write]

@[simp]
theorem play_setScript (assignments : List Assignment) :
    ((setScript assignments).play : Writer Target Unit) = writeSet assignments := by
  simp [setScript, writeSet, Function.comp_def]

@[simp]
theorem play_valuesScript (rows : List (List Expression)) :
    ((valuesScript rows).play : Writer Target Unit) = writeValues rows := by
  simp [valuesScript, writeValues, Function.comp_def]

@[simp]
theorem InsertSource.play_script (source : InsertSource) :
    (source.script.play : Writer Target Unit) = source.write := by
  cases source <;> simp [InsertSource.script, InsertSource.write]

@[simp]
theorem ConflictAction.play_script (action : ConflictAction) :
    (action.script.play : Writer Target Unit) = action.write := by
  cases action <;> simp [ConflictAction.script, ConflictAction.write]

@[simp]
theorem OnConflict.play_script (clause : OnConflict) :
    (clause.script.play : Writer Target Unit) = clause.write := by
  cases anyRow : clause.target.isEmpty <;> simp [OnConflict.script, OnConflict.write, anyRow]

@[simp]
theorem play_onConflictScript (clause : Option OnConflict) :
    ((onConflictScript clause).play : Writer Target Unit) = writeOnConflict clause := by
  cases clause <;> simp [onConflictScript, writeOnConflict]

@[simp]
theorem Insert.play_script (statement : Insert) :
    (statement.script.play : Writer Target Unit) = statement.write := by
  cases allColumns : statement.columns.isEmpty <;>
    simp [Insert.script, Insert.write, allColumns]

@[simp]
theorem Update.play_script (statement : Update) :
    (statement.script.play : Writer Target Unit) = statement.write := by
  simp [Update.script, Update.write]

@[simp]
theorem Delete.play_script (statement : Delete) :
    (statement.script.play : Writer Target Unit) = statement.write := by
  simp [Delete.script, Delete.write]

/-- Whatever the sink is, writing a node adds the pieces of its script one after the other, and
breaks off where the script does. -/
theorem Node.play_script (node : Node) :
    (node.script.play : Writer Target Unit) = node.write := by
  cases node <;> simp [Node.script, Node.write]

/-- Writing a node ends as its script does, with the pieces of the script added. -/
theorem Node.run_write_eq_outcome (node : Node) (target : Target) :
    (node.write : Writer Target Unit).run target =
      node.script.outcome (Sink.addAll target node.script.pieces) := by
  rw [← Node.play_script]
  rfl

end SqlTree
