import SqlTree.Proofs.Parse.Filters
import SqlTree.Proofs.Parse.QueryRoundTrip
import SqlTree.Proofs.Render.TextAlone

/-!
# What has been read can be rendered

A condition, a query or a join that has been read from a text lacks nothing and holds names alone.
So it is rendered, as the same text in every mode.  Only the table of a join may still have to be
given, and until then the join cannot be rendered, neither alone nor in a query.
-/

namespace SqlTree

open Script (IsText)

/-! ## Conditions -/

namespace Phrase

theorem isText_expression (phrase : Phrase) : phrase.expression.script.IsText := by
  induction phrase with
  | test left right =>
    rw [expression]
    simp only [Expression.script]
    have upToEquals := (((IsText.text "(").append (.text left)).append (.text " ")).append
      (.text (Operator.comparison .equal).text)
    exact ((upToEquals.append (.text " ")).append (.text right)).append (.text ")")
  | enclosed inner innerText => exact innerText
  | joined left connective right leftText rightText =>
    rw [expression]
    simp only [Expression.script]
    have upToWord := (((IsText.text "(").append leftText).append (.text " ")).append
      (.text (Operator.connective connective).text)
    exact ((upToWord.append (.text " ")).append rightText).append (.text ")")

/-- The names of a phrase are words of the text, which are never blank. -/
theorem isEmpty_of_derives {nonterminal : Nonterminal} {tokens : List Token} {phrase : Phrase}
    (derives : Derives nonterminal tokens phrase) (proper : ProperTokens tokens) :
    phrase.expression.isEmpty = false ∧ phrase.joinCondition.isEmpty = false := by
  induction derives with
  | @test left equals right leftWord equalsSign rightWord =>
    have leftNamed : Text.isBlank left.text = false := (proper left (by simp)).2 leftWord
    have rightNamed : Text.isBlank right.text = false := (proper right (by simp)).2 rightWord
    simp [expression, joinCondition, Expression.isEmpty, JoinCondition.isEmpty, Column.isEmpty,
      leftNamed, rightNamed]
  | enclosed opens inside closes ih =>
    exact ih fun token member => proper token (by simp [member])
  | single only ih => exact ih proper
  | joined before joins after leftIH rightIH =>
    obtain ⟨leftExpression, leftCondition⟩ :=
      leftIH fun token member => proper token (by simp [member])
    obtain ⟨rightExpression, rightCondition⟩ :=
      rightIH fun token member => proper token (by simp [member])
    simp [expression, joinCondition, Expression.isEmpty, JoinCondition.isEmpty, leftExpression,
      leftCondition, rightExpression, rightCondition]

end Phrase

theorem ConditionClause.rendersAsText_of_parse {clause : ConditionClause} {text : String}
    {expression : Expression} (read : clause.parse text = .ok expression) :
    expression.isEmpty = false ∧ (Node.expression expression).RendersAsText := by
  rw [parse_eq, Parse.filter, Parse.report_eq_ok_iff, Parse.readFilter_eq_ok_iff] at read
  obtain ⟨phrase, derives, -, -, rfl⟩ := read
  have proper := proper_withoutKeyword clause.keyword (TokenStream.proper_ofText text)
  exact ⟨(Phrase.isEmpty_of_derives derives proper).1,
    Node.rendersAsText_of_isText phrase.isText_expression⟩

/-! ## Queries -/

theorem Select.rendersAsText_of_parse {text : String} {query : Select}
    (read : Parse.select text = .ok query) :
    query.isEmpty = false ∧ (Node.select query).RendersAsText := by
  rw [Parse.select, Parse.report_eq_ok_iff] at read
  obtain ⟨tokens, behind, -, names⟩ := exists_names_of_readSelect read
  obtain ⟨selects, namesDistinct, namesItems, namesSource⟩ := names
  have nonempty := namesItems.ne_nil
  exact ⟨by simpa [isEmpty] using nonempty,
    Node.rendersAsText_of_isText (isText_script_upToTable nonempty _ _)⟩

/-! ## Joins -/

namespace Join

/-- The join needs no condition, or has one with all its columns named. -/
def IsConditioned (join : Join) : Prop :=
  join.kind = .cross ∨ ∃ condition, join.condition = some condition ∧ condition.isEmpty = false

theorem ne_default_of_isConditioned {join : Join} (conditioned : join.IsConditioned) :
    join ≠ {} := by
  rintro rfl
  rcases conditioned with crosses | ⟨condition, isCondition, -⟩
  · cases crosses
  · cases isCondition

/-- With its table, the join lacks nothing. -/
theorem isEmpty_of_isConditioned {join : Join} (conditioned : join.IsConditioned) :
    join.isEmpty = join.table.isEmpty := by
  rcases conditioned with crosses | ⟨condition, isCondition, present⟩
  · simp [isEmpty, crosses]
  · simp [isEmpty, lacksCondition, isCondition, present]

theorem rendersAsText_of_table {join : Join} (conditioned : join.IsConditioned)
    (hasTable : join.table.isEmpty = false) : (Node.join join).RendersAsText :=
  Node.rendersAsText_of_isText (isText_script ⟨hasTable, conditioned⟩)

theorem script_of_isEmpty_table {join : Join} (noTable : join.table.isEmpty = true) :
    join.script = .abort (.missing .joinTable) := by
  simp only [Join.script, noTable, Script.require_true, Script.abort_append]

end Join

/-! ## Joins in queries -/

theorem Script.violation_append_of_broken {first : Script} {violation : Violation}
    (broken : first.violation = some violation) (second : Script) :
    (first ++ second).violation = some violation := by
  obtain ⟨pieces, violation⟩ := first
  subst broken
  rfl

theorem joinsScript_append (first second : List Join) :
    joinsScript (first ++ second) = joinsScript first ++ joinsScript second := by
  induction first with
  | nil => rfl
  | cons join rest ih =>
    rw [List.cons_append, joinsScript, joinsScript, ih, Script.append_assoc]

namespace Select

/-- The query with the given joins and without conditions. -/
def withJoinsAlone (query : Select) (joins : List Join) : Select :=
  { query with joins, filter := none, having := none }

/-- What a query is written as in front of its joins. -/
def front (query : Select) : Script :=
  .require .selectItems query.items.isEmpty
    ++ (openingScript query.leadingText (WithQuery.scripts query.withQueries) ++ query.head)

theorem exists_script_eq (query : Select) :
    ∃ rest, query.script = query.front ++ (joinsScript query.joins ++ rest) := by
  rw [script_eq, body_eq]
  simp only [clauses, front, Script.append_assoc]
  exact ⟨_, rfl⟩

variable {query : Select} {before after : List Join} {join : Join}

/-- A join without a table is not passed over, so that the query cannot be rendered. -/
theorem violation_of_mem_joins (notDefault : join ≠ {}) (noTable : join.table.isEmpty = true)
    (member : join ∈ query.joins) : query.script.violation ≠ none := by
  intro unbroken
  obtain ⟨rest, scriptEq⟩ := query.exists_script_eq
  obtain ⟨before, after, joinsEq⟩ := List.append_of_mem member
  rw [scriptEq, joinsEq, joinsScript_append, joinsScript, if_neg notDefault] at unbroken
  simp only [Script.violation_append] at unbroken
  obtain ⟨-, ⟨-, ⟨-, joinUnbroken⟩, -⟩, -⟩ := unbroken
  rw [Join.script_of_isEmpty_table noTable] at joinUnbroken
  cases joinUnbroken

/-- What stands in front of the join is written, so that the join is what breaks off. -/
theorem violation_of_join (notDefault : join ≠ {}) (noTable : join.table.isEmpty = true)
    (joinsEq : query.joins = before ++ join :: after)
    (written : (query.withJoinsAlone before).script.violation = none) :
    query.script.violation = some (.missing .joinTable) := by
  obtain ⟨behind, beforeEq⟩ := (query.withJoinsAlone before).exists_script_eq
  rw [beforeEq, Script.violation_append, Script.violation_append] at written
  obtain ⟨frontUnbroken, beforeUnbroken, -⟩ := written
  change query.front.violation = none at frontUnbroken
  change (joinsScript before).violation = none at beforeUnbroken
  obtain ⟨rest, scriptEq⟩ := query.exists_script_eq
  have broken : (Script.text " " ++ join.script ++ joinsScript after).violation =
      some (.missing .joinTable) := by
    rw [Join.script_of_isEmpty_table noTable]
    rfl
  have joinsBroken : (joinsScript query.joins).violation = some (.missing .joinTable) := by
    rw [joinsEq, joinsScript_append, joinsScript, if_neg notDefault,
      Script.violation_append_of_unbroken beforeUnbroken, broken]
  rw [scriptEq, Script.violation_append_of_unbroken frontUnbroken,
    Script.violation_append_of_broken joinsBroken]

end Select

/-! ## All fragments -/

/-- In every mode, rendering the node breaks the rule of construction that the message names. -/
def Node.BreaksWith (node : Node) (message : String) : Prop :=
  ∃ violation : Violation, violation.message = message ∧
    ∀ mode : RenderMode, node.render mode = .error violation

theorem Node.breaksWith_of_violation {node : Node} {violation : Violation}
    (broken : node.script.violation = some violation) : node.BreaksWith violation.message := by
  refine ⟨violation, rfl, fun mode => ?_⟩
  rw [Node.render_eq, broken]

theorem NamesJoin.isConditioned {tokens : List Token} {written : Option Table} {join : Join}
    (names : NamesJoin tokens written join) (proper : ProperTokens tokens) :
    join.IsConditioned := by
  cases names with
  | cross crosses joins names => exact .inl rfl
  | conditional namesKind namesTarget derives room shallow =>
    exact .inr ⟨_, rfl, (Phrase.isEmpty_of_derives derives proper.of_append).2⟩

/-- What has been read from a text can be rendered, as the same text in every mode and with nothing
bound.  A join that has been read is never the one that queries pass over.  One whose table is
written lacks nothing; one without a table cannot be rendered, neither alone nor among the joins of
a query, until it is given a table. -/
theorem Parse.fragments_are_rendered (text : String) :
    (∀ (clause : ConditionClause) (expression : Expression),
      clause.parse text = .ok expression →
        expression.isEmpty = false ∧ (Node.expression expression).RendersAsText) ∧
    (∀ query, Parse.select text = .ok query →
      query.isEmpty = false ∧ (Node.select query).RendersAsText) ∧
    (∀ join, Parse.join text = .ok join → join ≠ {} ∧
      ∃ written, NamesJoin (TokenStream.ofText text).ahead written join ∧
        (written ≠ none → join.isEmpty = false ∧ (Node.join join).RendersAsText) ∧
        (written = none → join.isEmpty = true ∧
          (Node.join join).BreaksWith "contract violation: join table must not be empty" ∧
          (∀ query : Select, join ∈ query.joins → ∀ mode context,
            (Node.select query).render mode ≠ .ok context) ∧
          (∀ (query : Select) before after, query.joins = before ++ join :: after →
            (∃ mode context,
              (Node.select (query.withJoinsAlone before)).render mode = .ok context) →
            (Node.select query).BreaksWith "contract violation: join table must not be empty") ∧
          ∀ table : Table, table.isEmpty = false →
            (Node.join (join.withTable table)).RendersAsText)) := by
  refine ⟨fun clause expression => ConditionClause.rendersAsText_of_parse,
    fun query => Select.rendersAsText_of_parse, fun join read => ?_⟩
  rw [Parse.join, report_eq_ok_iff] at read
  obtain ⟨written, names⟩ := exists_of_readJoin read
  have proper := TokenStream.proper_ofText text
  have conditioned := names.isConditioned proper
  have notDefault := Join.ne_default_of_isConditioned conditioned
  refine ⟨notDefault, written, names, fun isWritten => ?_, fun notWritten => ?_⟩
  · have hasTable : join.table.isEmpty = false := by
      rw [← Bool.not_eq_true, names.isEmpty_table_iff proper]
      exact isWritten
    exact ⟨by rw [Join.isEmpty_of_isConditioned conditioned, hasTable],
      Join.rendersAsText_of_table conditioned hasTable⟩
  · have noTable := (names.isEmpty_table_iff proper).mpr notWritten
    have broken : join.script.violation = some (.missing .joinTable) := by
      rw [Join.script_of_isEmpty_table noTable]
      rfl
    refine ⟨by rw [Join.isEmpty_of_isConditioned conditioned, noTable],
      @Node.breaksWith_of_violation (.join join) _ broken, ?_, ?_, ?_⟩
    · intro query member mode context rendered
      exact Select.violation_of_mem_joins notDefault noTable member
        (Node.sql_eq_of_render rendered).1
    · rintro query before after joinsEq ⟨mode, context, rendered⟩
      exact @Node.breaksWith_of_violation (.select query) _
        (Select.violation_of_join notDefault noTable joinsEq (Node.sql_eq_of_render rendered).1)
    · intro table hasTable
      exact @Join.rendersAsText_of_table (join.withTable table) conditioned hasTable

end SqlTree
