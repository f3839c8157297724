import SqlTree.Proofs.Parse.Recognition
import SqlTree.Proofs.Render.Violations

/-!
# Conditional statements

The WHERE condition of a statement stands between what the statement is up to its condition and what
comes behind it.  It is shown unless it is empty; an empty condition is as good as none, so that a
statement whose condition has a blank operand applies to every row.
-/

namespace SqlTree

theorem Script.clause_true (script : Script) : Script.clause true script = .empty :=
  rfl

theorem lacksCondition_none : lacksCondition none = true :=
  rfl

namespace Statement

/-- The WHERE condition.  Rows are inserted without one. -/
def condition : Statement → Option Expression
  | select query => query.filter
  | insert _ => none
  | update statement => statement.filter
  | delete statement => statement.filter

def withoutCondition : Statement → Statement
  | select query => select { query with filter := none }
  | insert statement => insert statement
  | update statement => update { statement with filter := none }
  | delete statement => delete { statement with filter := none }

/-- The statement without its condition and all that comes behind it. -/
def upToCondition : Statement → Statement
  | select query => select { query with
      filter := none, groupBy := [], having := none, orderBy := [], limit := none, offset := none
      trailingText := "", comment := "" }
  | insert statement => insert statement
  | update statement => update { statement with
      filter := none, returning := [], trailingText := "", comment := "" }
  | delete statement => delete { statement with
      filter := none, returning := [], trailingText := "", comment := "" }

/-- What stands behind the condition. -/
def behindCondition : Statement → Script
  | select query =>
    .clause query.groupBy.isEmpty (groupByScript query.groupBy)
      ++ .clause (lacksCondition query.having) (Expression.conditionScript .having query.having)
      ++ .clause query.orderBy.isEmpty (orderByScript query.orderBy)
      ++ .clause query.limit.isNone (limitScript query.limit)
      ++ .clause query.offset.isNone (offsetScript query.offset)
      ++ closingScript query.trailingText query.comment
  | insert _ => .empty
  | update statement =>
    .clause statement.returning.isEmpty (returningScript statement.returning)
      ++ closingScript statement.trailingText statement.comment
  | delete statement =>
    .clause statement.returning.isEmpty (returningScript statement.returning)
      ++ closingScript statement.trailingText statement.comment

/-- The condition as a clause of the statement. -/
def conditionClause (statement : Statement) : Script :=
  .clause (lacksCondition statement.condition)
    (Expression.conditionScript .filter statement.condition)

/-- The condition is a clause between the two parts. -/
theorem script_eq_around_condition (statement : Statement) :
    statement.node.script = statement.upToCondition.node.script
      ++ (statement.conditionClause ++ statement.behindCondition) := by
  have closed : closingScript "" "" = .empty := rfl
  cases statement with
  | select query =>
    cases query
    simp only [node, Node.script, upToCondition, conditionClause, condition, behindCondition,
      Select.script, closed, Script.clause_true, lacksCondition_none, List.isEmpty_nil,
      Option.isNone_none, Script.append_assoc, Script.append_empty]
  | insert statement => exact (Script.append_empty _).symm
  | update statement =>
    simp only [node, Node.script, upToCondition, conditionClause, condition, behindCondition,
      Update.script, closed, Script.clause_true, lacksCondition_none, List.isEmpty_nil,
      Script.append_assoc, Script.append_empty]
  | delete statement =>
    simp only [node, Node.script, upToCondition, conditionClause, condition, behindCondition,
      Delete.script, Delete.isEmpty, closed, Script.clause_true, lacksCondition_none,
      List.isEmpty_nil, Script.append_assoc, Script.append_empty]

theorem script_withoutCondition (statement : Statement) :
    statement.withoutCondition.node.script =
      statement.upToCondition.node.script ++ statement.behindCondition := by
  have aroundNone := statement.withoutCondition.script_eq_around_condition
  cases statement with
  | select query => exact aroundNone
  | insert statement => exact (Script.append_empty _).symm
  | update statement => exact aroundNone
  | delete statement => exact aroundNone

end Statement

/-- A script that does not break off is rendered by adding its pieces to an empty context. -/
theorem Node.render_of_unbroken {node : Node} (unbroken : node.script.violation = none)
    (mode : RenderMode) : node.render mode = .ok (Sink.addAll {} node.script.pieces) := by
  rw [Node.render, Writer.render, Node.run_write_eq_outcome, Script.outcome, unbroken]

namespace Statement

variable {statement : Statement} {condition : Expression} {mode : RenderMode}
  {context : Context mode}

theorem conditionClause_of_present (given : statement.condition = some condition)
    (present : condition.isEmpty = false) :
    statement.conditionClause = .text " " ++ (.text "WHERE " ++ condition.script) := by
  rw [conditionClause, given, show lacksCondition (some condition) = false from present]
  rfl

/-- A condition that is shown does not break off unless the statement does, and its pieces stand
behind the keyword. -/
theorem pieces_around_condition (given : statement.condition = some condition)
    (present : condition.isEmpty = false) (unbroken : statement.node.script.violation = none) :
    statement.upToCondition.node.script.violation = none ∧ condition.script.violation = none ∧
      statement.node.script.pieces = statement.upToCondition.node.script.pieces
        ++ ([.text " ", .text "WHERE "] ++ (condition.script.pieces
        ++ statement.behindCondition.pieces)) := by
  have scriptEq := statement.script_eq_around_condition
  rw [conditionClause_of_present given present] at scriptEq
  rw [scriptEq] at unbroken
  obtain ⟨frontUnbroken, restUnbroken⟩ := Script.violation_append.mp unbroken
  obtain ⟨clauseUnbroken, -⟩ := Script.violation_append.mp restUnbroken
  refine ⟨frontUnbroken, clauseUnbroken, ?_⟩
  rw [scriptEq, Script.pieces_append frontUnbroken, Script.pieces_append clauseUnbroken]
  rfl

/-- The keyword and the condition are written behind what the statement is up to its condition. -/
theorem exists_of_condition_present (given : statement.condition = some condition)
    (present : condition.isEmpty = false) (rendered : statement.node.render mode = .ok context) :
    ∃ (before written : Context mode) (after : String),
      statement.upToCondition.node.render mode = .ok before ∧
      (condition.write : Writer (Context mode) Unit).run (before.write " WHERE ") =
        .ok () written ∧
      context.sql = written.sql ++ after ∧ written.arguments <+: context.arguments := by
  have unbroken := (Node.eq_of_render rendered).1
  obtain ⟨frontUnbroken, conditionUnbroken, pieces⟩ :=
    pieces_around_condition given present unbroken
  let before : Context mode := Sink.addAll {} statement.upToCondition.node.script.pieces
  let written : Context mode := Sink.addAll (before.write " WHERE ") condition.script.pieces
  -- The blank and the keyword are written one after the other.
  have keyword : (before.write " ").write "WHERE " = before.write " WHERE " :=
    before.write_write " " "WHERE "
  have contextEq : context = Sink.addAll written statement.behindCondition.pieces := by
    rw [Node.render_of_unbroken unbroken, pieces, Sink.addAll_append, Sink.addAll_append,
      Sink.addAll_append] at rendered
    rw [← Except.ok.inj rendered]
    exact congrArg (fun start => Sink.addAll (Sink.addAll start _) _) keyword
  have run := (Node.expression condition).run_write_eq_outcome (before.write " WHERE ")
  simp only [Node.write, Node.script, Script.outcome, conditionUnbroken] at run
  rw [contextEq, Context.addAll_eq]
  exact ⟨before, written, _, Node.render_of_unbroken frontUnbroken mode, run, rfl,
    List.prefix_append _ _⟩

theorem render_of_condition_isEmpty (given : statement.condition = some condition)
    (empty : condition.isEmpty = true) (mode : RenderMode) :
    statement.node.render mode = statement.withoutCondition.node.render mode := by
  have noClause : statement.conditionClause = .empty := by
    rw [conditionClause, given, show lacksCondition (some condition) = true from empty]
    rfl
  have same : statement.node.script = statement.withoutCondition.node.script := by
    rw [statement.script_eq_around_condition, noClause, statement.script_withoutCondition]
    rfl
  rw [Node.render_eq, Node.render_eq, same]

/-- A condition that is not empty is never lost.  Unless rendering breaks off, it is shown behind
the keyword, written from the context that the statement up to its condition leaves, and the values
bound in it stay among the arguments.  An empty condition is no condition: the statement is rendered
as it is without one. -/
theorem condition_shown_unless_empty (statement : Statement) (condition : Expression)
    (given : statement.condition = some condition) (mode : RenderMode) :
    (condition.isEmpty = false →
      ∀ context, statement.node.render mode = .ok context →
        ∃ (before written : Context mode) (after : String),
          statement.upToCondition.node.render mode = .ok before ∧
          (condition.write : Writer (Context mode) Unit).run (before.write " WHERE ") =
            .ok () written ∧
          context.sql = written.sql ++ after ∧ written.arguments <+: context.arguments) ∧
    (condition.isEmpty = true →
      statement.node.render mode = statement.withoutCondition.node.render mode) :=
  ⟨fun present _ rendered => exists_of_condition_present given present rendered,
    fun empty => render_of_condition_isEmpty given empty mode⟩

/-- Holds of the rows of one tenant. -/
def tenantCondition : Expression :=
  .binary (.identifier "tenant") (.comparison .equal) (.value (.signed 7))

/-- A deletion of the users of one tenant. -/
def tenantDeletion : Delete where
  source := { table := { name := "users" } }
  filter := some tenantCondition
  returning := [{ name := "id" }]

theorem condition_shown_of_tenantDeletion :
    (Statement.delete tenantDeletion).node.render .positional =
        .ok { sql := "DELETE FROM users WHERE (tenant = $1) RETURNING id"
              arguments := [.signed 7] } ∧
    ∃ (before written : Context .positional) (after : String),
      (Statement.delete tenantDeletion).upToCondition.node.render .positional = .ok before ∧
      (tenantCondition.write : Writer (Context .positional) Unit).run (before.write " WHERE ") =
        .ok () written ∧
      "DELETE FROM users WHERE (tenant = $1) RETURNING id" = written.sql ++ after ∧
      written.arguments <+: [Scalar.signed 7] := by
  have unbroken : tenantDeletion.script.violation = none := by decide +kernel
  have sqlEq : Piece.textFrom RenderMode.positional.mark 0 tenantDeletion.script.pieces =
      "DELETE FROM users WHERE (tenant = $1) RETURNING id" := by
    decide +kernel
  have valuesEq : Piece.boundValues tenantDeletion.script.pieces = [.signed 7] := by
    decide +kernel
  have rendered := Node.render_eq (.delete tenantDeletion) .positional
  simp only [Node.script, unbroken, sqlEq, valuesEq] at rendered
  have present : tenantCondition.isEmpty = false := by decide +kernel
  have shown := (condition_shown_unless_empty (.delete tenantDeletion) tenantCondition rfl
    .positional).1 present _ rendered
  exact ⟨rendered, shown⟩

/-- A deletion of the users of one tenant to which a blank fragment was added. -/
def blankedDeletion : Delete where
  source := { table := { name := "users" } }
  filter := some (.wrapped (.binary tenantCondition (.connective .and) (.fragment "")))

/-- The blank operand makes the whole condition empty, and every user is deleted. -/
theorem blankedDeletion_deletes_all :
    (Statement.delete blankedDeletion).condition =
      some (.wrapped (.binary tenantCondition (.connective .and) (.fragment ""))) ∧
    (∀ mode : RenderMode,
      (Statement.delete blankedDeletion).node.render mode = .ok { sql := "DELETE FROM users" }) ∧
    ¬" WHERE ".toList <:+: "DELETE FROM users".toList := by
  refine ⟨rfl, fun mode => ?_, by decide +kernel⟩
  have unbroken : blankedDeletion.script.violation = none := by decide +kernel
  have pieces : blankedDeletion.script.pieces =
      [.text "DELETE ", .text "FROM ", .text "users"] := by
    decide +kernel
  have sqlEq : "DELETE " ++ ("FROM " ++ ("users" ++ "")) = "DELETE FROM users" := by decide +kernel
  rw [node, Node.render_eq]
  simp only [Node.script, unbroken, pieces, Piece.boundValues, RenderMode.argumentsFrom_nil,
    Piece.textFrom, sqlEq]

end Statement

end SqlTree
