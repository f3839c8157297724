import SqlTree.Proofs.Render.Violations

/-!
# Complete trees

A tree is complete if every query in it, however deep it stands, has a select list and joins that
have what they need, if every update on conflict sets something, and if the statement or join that
it may be has its own parts.  A complete tree is written to its end in every context.  A statement
or join that is empty is never written to its end.
-/

namespace SqlTree

open Script

/-! ## What has to be there -/

/-- The join has a table and, unless it is a cross join, a condition with all its columns named. -/
def Join.IsComplete (join : Join) : Prop :=
  join.table.isEmpty = false ∧
    (join.kind = .cross ∨ ∃ condition, join.condition = some condition ∧ condition.isEmpty = false)

mutual

/-- Every query in the expression is complete. -/
def Expression.IsComplete : Expression → Prop
  | .identifier _ | .column _ | .value _ | .fragment _ | .aggregate _ => True
  | .array items => Expression.AreComplete items
  | .binary left _ right => left.IsComplete ∧ right.IsComplete
  | .between _ _ lower _ upper => lower.IsComplete ∧ upper.IsComplete
  | .membership tested _ candidates => tested.IsComplete ∧ candidates.IsComplete
  | .existence _ subject => subject.IsComplete
  | .wrapped inner => inner.IsComplete
  | .subquery query => query.IsComplete

def Expression.AreComplete : List Expression → Prop
  | [] => True
  | item :: rest => item.IsComplete ∧ Expression.AreComplete rest

/-- The condition, if there is one, is complete. -/
def Expression.ConditionIsComplete : Option Expression → Prop
  | some condition => condition.IsComplete
  | none => True

def WithQuery.IsComplete : WithQuery → Prop
  | ⟨_, query⟩ => query.IsComplete

def WithQuery.AreComplete : List WithQuery → Prop
  | [] => True
  | named :: rest => named.IsComplete ∧ WithQuery.AreComplete rest

/-- The query has a select list, its joins are left as they are by default or have what they need,
and every query in it is complete. -/
def Select.IsComplete : Select → Prop
  | ⟨withQueries, _, _, items, _, joins, filter, _, having, _, _, _, _, _⟩ =>
    items ≠ [] ∧ (∀ join ∈ joins, join = {} ∨ join.IsComplete) ∧
      WithQuery.AreComplete withQueries ∧ Expression.ConditionIsComplete filter ∧
      Expression.ConditionIsComplete having

end

theorem Expression.areComplete_iff (items : List Expression) :
    AreComplete items ↔ ∀ item ∈ items, item.IsComplete := by
  induction items with
  | nil => simp [AreComplete]
  | cons item rest ih => simp [AreComplete, ih]

theorem Expression.conditionIsComplete_iff (condition : Option Expression) :
    ConditionIsComplete condition ↔ ∀ given ∈ condition, given.IsComplete := by
  cases condition <;> simp [ConditionIsComplete]

theorem WithQuery.areComplete_iff (queries : List WithQuery) :
    AreComplete queries ↔ ∀ named ∈ queries, named.IsComplete := by
  induction queries with
  | nil => simp [AreComplete]
  | cons named rest ih => simp [AreComplete, ih]

def InsertSource.IsComplete : InsertSource → Prop
  | .rows given => ∀ row ∈ given, ∀ item ∈ row, item.IsComplete
  | .query select => select.IsComplete

/-- An update sets at least one column, and every query in it is complete. -/
def ConflictAction.IsComplete : ConflictAction → Prop
  | .doNothing => True
  | .doUpdate assignments =>
    assignments ≠ [] ∧ ∀ assignment ∈ assignments, assignment.value.IsComplete

structure Insert.IsComplete (statement : Insert) : Prop where
  table : statement.table.isEmpty = false
  withQueries : ∀ named ∈ statement.withQueries, named.IsComplete
  source : statement.source.IsComplete
  onConflict : ∀ clause ∈ statement.onConflict, clause.action.IsComplete

structure Update.IsComplete (statement : Update) : Prop where
  table : statement.table.isEmpty = false
  assigns : statement.assignments ≠ []
  withQueries : ∀ named ∈ statement.withQueries, named.IsComplete
  assignments : ∀ assignment ∈ statement.assignments, assignment.value.IsComplete
  filter : ∀ condition ∈ statement.filter, condition.IsComplete

structure Delete.IsComplete (statement : Delete) : Prop where
  source : statement.source.isEmpty = false
  withQueries : ∀ named ∈ statement.withQueries, named.IsComplete
  filter : ∀ condition ∈ statement.filter, condition.IsComplete

namespace Node

/-- The node has what it needs, and so has every query and every update on conflict in it. -/
def IsComplete : Node → Prop
  | select statement => statement.IsComplete
  | insert statement => statement.IsComplete
  | update statement => statement.IsComplete
  | delete statement => statement.IsComplete
  | expression node => node.IsComplete
  | join node => node.IsComplete
  | condition _ node => ∀ condition ∈ node, condition.IsComplete
  | assignments pairs => ∀ pair ∈ pairs, pair.value.IsComplete
  | values rows => ∀ row ∈ rows, ∀ item ∈ row, item.IsComplete
  | source given => given.IsComplete
  | withQueries queries => ∀ named ∈ queries, named.IsComplete
  | withQuery query => query.IsComplete
  | onConflict clause => clause.action.IsComplete
  | operator _ | selectItem _ | table _ | joinCondition _ | fromClause _ | into _
  | usingTables _ | groupBy _ | order _ | orderBy _ | limit _ | offset _ | returning _
  | outerText _ | comment _ => True

/-- The statements and the joins. -/
def IsStatementOrJoin : Node → Prop
  | select _ | insert _ | update _ | delete _ | join _ => True
  | _ => False

end Node

/-! ## Joins -/

theorem Join.violation_script {join : Join} (complete : join.IsComplete) :
    join.script.violation = none := by
  obtain ⟨hasTable, crosses | ⟨condition, isCondition, present⟩⟩ := complete
  · simp [Join.script, violation_append, hasTable, crosses]
  · have written : join.conditionScript.violation = none := by
      simp [Join.conditionScript, isCondition, present, violation_append]
    simp only [Join.script, violation_append, violation_require, hasTable]
    split <;> simp [written]

theorem violation_joinsScript {joins : List Join}
    (complete : ∀ join ∈ joins, join = {} ∨ join.IsComplete) :
    (joinsScript joins).violation = none := by
  induction joins with
  | nil => rfl
  | cons join rest ih =>
    obtain ⟨joinComplete, restComplete⟩ := List.forall_mem_cons.mp complete
    rw [joinsScript, violation_append]
    refine ⟨?_, ih restComplete⟩
    rcases joinComplete with rfl | joinComplete
    · rfl
    · split
      · rfl
      · simp [violation_append, join.violation_script joinComplete]

/-! ## Expressions and queries -/

mutual

theorem Expression.violation_script :
    (expression : Expression) → expression.IsComplete → expression.script.violation = none
  | .identifier _, _ | .fragment _, _ => rfl
  | .column named, _ => named.violation_script
  | .value scalar, _ => Script.violation_value scalar
  | .array items, complete => by
    rw [Expression.script, violation_commaSeparated]
    exact Expression.violation_scripts items complete
  | .binary left operator right, complete => by
    have leftUnbroken := left.violation_script complete.1
    have rightUnbroken := right.violation_script complete.2
    simp [Expression.script, violation_append, leftUnbroken, rightUnbroken]
  | .between name operator lower connective upper, complete => by
    have lowerUnbroken := lower.violation_script complete.1
    have upperUnbroken := upper.violation_script complete.2
    simp [Expression.script, violation_append, lowerUnbroken, upperUnbroken]
  | .membership tested operator candidates, complete => by
    have testedUnbroken := tested.violation_script complete.1
    have candidatesUnbroken := candidates.violation_script complete.2
    cases bare : candidates.isSubquery <;>
      simp [Expression.script, violation_append, violation_parenthesized, bare, testedUnbroken,
        candidatesUnbroken]
  | .existence negated subject, complete => by
    have subjectUnbroken := subject.violation_script complete
    cases bare : subject.isSubquery <;>
      simp [Expression.script, violation_append, violation_parenthesized, bare, subjectUnbroken]
  | .aggregate call, _ => call.violation_script
  | .wrapped inner, complete => inner.violation_script complete
  | .subquery query, complete => by
    rw [Expression.script, violation_parenthesized]
    exact query.violation_script complete

theorem Expression.violation_scripts :
    (items : List Expression) → Expression.AreComplete items →
      ∀ script ∈ Expression.scripts items, script.violation = none
  | [], _ => List.forall_mem_nil _
  | item :: rest, complete =>
    List.forall_mem_cons.mpr
      ⟨item.violation_script complete.1, Expression.violation_scripts rest complete.2⟩

theorem Expression.violation_conditionScript (clause : ConditionClause) :
    (condition : Option Expression) → Expression.ConditionIsComplete condition →
      (Expression.conditionScript clause condition).violation = none
  | some condition, complete => condition.violation_script complete
  | none, _ => rfl

theorem WithQuery.violation_script :
    (named : WithQuery) → named.IsComplete → named.script.violation = none
  | ⟨name, query⟩, complete => by
    simp [WithQuery.script, violation_append, query.violation_script complete]

theorem WithQuery.violation_scripts :
    (queries : List WithQuery) → WithQuery.AreComplete queries →
      ∀ script ∈ WithQuery.scripts queries, script.violation = none
  | [], _ => List.forall_mem_nil _
  | named :: rest, complete =>
    List.forall_mem_cons.mpr
      ⟨named.violation_script complete.1, WithQuery.violation_scripts rest complete.2⟩

theorem Select.violation_script :
    (query : Select) → query.IsComplete → query.script.violation = none
  | ⟨withQueries, leadingText, distinct, items, source, joins, filter, groupBy, having, orderBy,
      limit, offset, trailingText, comment⟩, complete => by
    obtain ⟨hasItems, joinsComplete, queriesComplete, filterComplete, havingComplete⟩ := complete
    have opening := violation_openingScript leadingText
      (WithQuery.violation_scripts withQueries queriesComplete)
    have joins := violation_joinsScript joinsComplete
    have filterUnbroken := Expression.violation_conditionScript .filter filter filterComplete
    have havingUnbroken := Expression.violation_conditionScript .having having havingComplete
    simp [Select.script, violation_append, violation_require, violation_commaSeparated,
      violation_clause, hasItems, opening, joins, filterUnbroken, havingUnbroken, groupByScript]

end

/-! ## The other statements -/

theorem Expression.violation_conditionScript_of_forall {clause : ConditionClause}
    {condition : Option Expression} (complete : ∀ given ∈ condition, given.IsComplete) :
    (Expression.conditionScript clause condition).violation = none :=
  Expression.violation_conditionScript clause condition
    ((Expression.conditionIsComplete_iff condition).mpr complete)

theorem WithQuery.violation_scripts_of_forall {queries : List WithQuery}
    (complete : ∀ named ∈ queries, named.IsComplete) :
    ∀ script ∈ WithQuery.scripts queries, script.violation = none :=
  WithQuery.violation_scripts queries ((WithQuery.areComplete_iff queries).mpr complete)

theorem violation_setScript {assignments : List Assignment}
    (complete : ∀ assignment ∈ assignments, assignment.value.IsComplete) :
    (setScript assignments).violation = none := by
  have unbroken : ∀ assignment ∈ assignments, assignment.script.violation = none := by
    intro assignment member
    have valueUnbroken := assignment.value.violation_script (complete assignment member)
    simp [Assignment.script, violation_append, valueUnbroken]
  simpa [setScript, violation_append, violation_commaSeparated] using unbroken

theorem violation_valuesScript {rows : List (List Expression)}
    (complete : ∀ row ∈ rows, ∀ item ∈ row, item.IsComplete) :
    (valuesScript rows).violation = none := by
  have unbroken : ∀ row ∈ rows, (Expression.script (.array row)).violation = none := by
    intro row member
    have rowComplete : Expression.AreComplete row :=
      (Expression.areComplete_iff row).mpr (complete row member)
    exact Expression.violation_script (.array row) rowComplete
  simpa [valuesScript, violation_append, violation_commaSeparated, violation_parenthesized]
    using unbroken

theorem InsertSource.violation_script {source : InsertSource} (complete : source.IsComplete) :
    source.script.violation = none := by
  cases source with
  | rows given => exact violation_valuesScript complete
  | query select => exact select.violation_script complete

theorem OnConflict.violation_script {clause : OnConflict} (complete : clause.action.IsComplete) :
    clause.script.violation = none := by
  obtain ⟨target, action⟩ := clause
  have actionUnbroken : action.script.violation = none := by
    cases action with
    | doNothing => rfl
    | doUpdate assignments =>
      obtain ⟨sets, assignmentsComplete⟩ := complete
      simp [ConflictAction.script, violation_append, violation_require, sets,
        violation_setScript assignmentsComplete]
  cases anyRow : target.isEmpty <;>
    simp [OnConflict.script, violation_append, anyRow, actionUnbroken]

theorem violation_onConflictScript {clause : Option OnConflict}
    (complete : ∀ given ∈ clause, given.action.IsComplete) :
    (onConflictScript clause).violation = none := by
  cases clause with
  | none => rfl
  | some clause =>
    have clauseUnbroken := clause.violation_script (complete clause rfl)
    simp [onConflictScript, violation_append, clauseUnbroken]

theorem Insert.violation_script {statement : Insert} (complete : statement.IsComplete) :
    statement.script.violation = none := by
  have opening := violation_openingScript statement.leadingText
    (WithQuery.violation_scripts_of_forall complete.withQueries)
  have source := statement.source.violation_script complete.source
  have conflict := violation_onConflictScript complete.onConflict
  cases allColumns : statement.columns.isEmpty <;>
    simp [Insert.script, violation_append, violation_clause, Insert.isEmpty, complete.table,
      opening, source, conflict, allColumns, intoScript, returningScript]

theorem Update.violation_script {statement : Update} (complete : statement.IsComplete) :
    statement.script.violation = none := by
  have opening := violation_openingScript statement.leadingText
    (WithQuery.violation_scripts_of_forall complete.withQueries)
  have assignments := violation_setScript complete.assignments
  have filter : (Expression.conditionScript .filter statement.filter).violation = none :=
    Expression.violation_conditionScript_of_forall complete.filter
  simp [Update.script, violation_append, violation_require, violation_clause, complete.table,
    complete.assigns, opening, assignments, filter, returningScript]

theorem Delete.violation_script {statement : Delete} (complete : statement.IsComplete) :
    statement.script.violation = none := by
  have opening := violation_openingScript statement.leadingText
    (WithQuery.violation_scripts_of_forall complete.withQueries)
  have filter : (Expression.conditionScript .filter statement.filter).violation = none :=
    Expression.violation_conditionScript_of_forall complete.filter
  simp [Delete.script, violation_append, violation_clause, Delete.isEmpty, complete.source, opening,
    filter, returningScript]

/-! ## Nodes -/

namespace Node

theorem violation_script {node : Node} (complete : node.IsComplete) :
    node.script.violation = none := by
  cases node with
  | select statement => exact statement.violation_script complete
  | insert statement => exact statement.violation_script complete
  | update statement => exact statement.violation_script complete
  | delete statement => exact statement.violation_script complete
  | expression node => exact node.violation_script complete
  | join node => exact node.violation_script complete
  | condition clause node => exact Expression.violation_conditionScript_of_forall complete
  | assignments pairs => exact violation_setScript complete
  | values rows => exact violation_valuesScript complete
  | source given => exact given.violation_script complete
  | withQueries queries =>
    exact violation_withScript (WithQuery.violation_scripts_of_forall complete)
  | withQuery query => exact query.violation_script complete
  | onConflict clause => exact clause.violation_script complete
  | operator _ | selectItem _ | table _ | joinCondition _ | fromClause _ | into _
  | usingTables _ | groupBy _ | order _ | orderBy _ | limit _ | offset _ | returning _
  | outerText _ | comment _ =>
    simp [script, intoScript, groupByScript, returningScript, outerTextScript, violation_append]

theorem exists_render_of_isComplete {node : Node} (complete : node.IsComplete)
    (mode : RenderMode) : ∃ context, node.render mode = .ok context := by
  obtain ⟨context, rendered, -⟩ := exists_render_of_unbroken (violation_script complete) mode
  exact ⟨context, rendered⟩

theorem exists_violation_of_isEmpty {node : Node} (kind : node.IsStatementOrJoin)
    (empty : node.isEmpty = true) : ∃ part, node.script.violation = some (.missing part) := by
  cases node with
  | select statement => exact ⟨_, congrArg Script.violation (statement.script_of_isEmpty empty)⟩
  | insert statement => exact ⟨_, congrArg Script.violation (statement.script_of_isEmpty empty)⟩
  | update statement => exact ⟨_, congrArg Script.violation (statement.script_of_isEmpty empty)⟩
  | delete statement => exact ⟨_, congrArg Script.violation (statement.script_of_isEmpty empty)⟩
  | join node => exact ⟨_, node.violation_of_isEmpty empty⟩
  | _ => exact kind.elim

/-- A complete tree is written to its end into every context of every mode.  An empty statement or
join breaks off, in every mode, because the same part is missing. -/
theorem run_write_of_isComplete (node : Node) :
    (node.IsComplete → ∀ (mode : RenderMode) (context : Context mode), ∃ written,
      (node.write : Writer (Context mode) Unit).run context = .ok () written) ∧
    (node.IsStatementOrJoin → node.isEmpty = true → ∃ part, ∀ mode,
      node.render mode = .error (.missing part)) := by
  constructor
  · intro complete mode context
    rw [node.run_write, Script.outcome, violation_script complete]
    exact ⟨_, rfl⟩
  · intro kind empty
    obtain ⟨part, broken⟩ := exists_violation_of_isEmpty kind empty
    refine ⟨part, fun mode => ?_⟩
    rw [node.render_eq, broken]

end Node

/-- Rows copied by a query that names another one, joins and tests for queries. -/
def copiedRows : Insert where
  withQueries := [⟨"recent", {
    items := [.fragment "id"]
    source := { table := { name := "logins" } } }⟩]
  table := { name := "members" }
  source := .query {
    items := [.column { name := "id" }]
    source := { table := { name := "users" } }
    joins := [{}, .cross { name := "teams" },
      { table := { name := "recent" }
        condition := some (.equality { name := "recent.id" } { name := "users.id" }) }]
    filter := some (.existence true (.subquery {
      items := [.fragment "1"]
      filter := some (.value (.boolean true)) })) }
  onConflict := some ⟨[], .doUpdate [⟨{ name := "active" }, .value (.boolean true)⟩]⟩

/-- An update that sets nothing. -/
def idleUpdate : Update where
  table := { name := "users" }

theorem isComplete_copiedRows : copiedRows.IsComplete where
  table := by decide
  withQueries := by
    simp [copiedRows, WithQuery.IsComplete, Select.IsComplete, WithQuery.AreComplete,
      Expression.ConditionIsComplete]
  source := by
    have teams : Text.isBlank "teams" = false := by decide
    have recent : Text.isBlank "recent" = false := by decide
    have left : Text.isBlank "recent.id" = false := by decide
    have right : Text.isBlank "users.id" = false := by decide
    simp [copiedRows, InsertSource.IsComplete, Select.IsComplete, WithQuery.AreComplete,
      Expression.ConditionIsComplete, Expression.IsComplete, Join.IsComplete, Join.cross,
      Table.isEmpty, JoinCondition.isEmpty, Column.isEmpty, teams, recent, left, right]
  onConflict := by
    simp [copiedRows, ConflictAction.IsComplete, Expression.IsComplete]

/-- What is complete is written behind a value that was bound before, and what is empty is refused.
-/
theorem Node.run_write_copiedRows :
    (∃ written,
      ((Node.insert copiedRows).write : Writer (Context .positional) Unit).run
        ⟨"SELECT $1; ", [.text "1"]⟩ = .ok () written) ∧
    ∃ part, ∀ mode, (Node.update idleUpdate).render mode = .error (.missing part) :=
  ⟨(Node.run_write_of_isComplete (.insert copiedRows)).1 isComplete_copiedRows .positional _,
    (Node.run_write_of_isComplete (.update idleUpdate)).2 trivial (by decide)⟩

end SqlTree
