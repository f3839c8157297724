import SqlTree.Proofs.Render.CompleteTrees

/-!
# Trees of text alone

A script that does not break off and binds no value is rendered as the same text in every mode.
Everything but values is such a script: names, joins and the clauses made of them, and a query that
has neither conditions nor named queries.
-/

namespace SqlTree

/-! ## Scripts -/

namespace Script

/-- The script does not break off and binds no value. -/
def IsText (script : Script) : Prop :=
  script.violation = none ∧ Piece.boundValues script.pieces = []

namespace IsText

theorem empty : Script.empty.IsText :=
  ⟨rfl, rfl⟩

theorem text (content : String) : (Script.text content).IsText :=
  ⟨rfl, rfl⟩

theorem append {first second : Script} (firstText : first.IsText) (secondText : second.IsText) :
    (first ++ second).IsText := by
  refine ⟨violation_append.mpr ⟨firstText.1, secondText.1⟩, ?_⟩
  rw [pieces_append firstText.1, Piece.boundValues_append, firstText.2, secondText.2]
  rfl

theorem choice (condition : Prop) [Decidable condition] {first second : Script}
    (firstText : first.IsText) (secondText : second.IsText) :
    (if condition then first else second).IsText := by
  split
  · exact firstText
  · exact secondText

theorem clause (isAbsent : Bool) {script : Script} (isText : script.IsText) :
    (Script.clause isAbsent script).IsText :=
  choice _ empty ((text " ").append isText)

theorem commaSeparated {scripts : List Script} (allText : ∀ script ∈ scripts, script.IsText) :
    (Script.commaSeparated scripts).IsText := by
  unfold Script.commaSeparated
  induction scripts with
  | nil => exact empty
  | cons script rest ih =>
    obtain ⟨scriptText, restText⟩ := List.forall_mem_cons.mp allText
    cases rest with
    | nil => exact scriptText
    | cons next rest => exact (scriptText.append (text ", ")).append (ih restText)

theorem list {Item : Type} {script : Item → Script} (isText : ∀ item, (script item).IsText)
    (items : List Item) : (Script.commaSeparated (items.map script)).IsText := by
  apply commaSeparated
  intro written member
  obtain ⟨item, -, rfl⟩ := List.mem_map.mp member
  exact isText item

end IsText

end Script

open Script (IsText)

/-- The node is rendered as the same text in every mode, and no value is bound. -/
def Node.RendersAsText (node : Node) : Prop :=
  ∃ sql, ∀ mode : RenderMode, node.render mode = .ok { sql }

theorem Node.rendersAsText_of_isText {node : Node} (isText : node.script.IsText) :
    node.RendersAsText := by
  obtain ⟨unbroken, unbound⟩ := isText
  refine ⟨Piece.textFrom (fun _ _ => "") 0 node.script.pieces, fun mode => ?_⟩
  rw [Node.render_eq, unbroken, unbound, RenderMode.argumentsFrom_nil]
  simp only [Piece.textFrom_of_unbound unbound mode.mark (fun _ _ => "") 0 0]

/-! ## Clauses -/

theorem isText_asNameScript (name : Option String) : (asNameScript name).IsText := by
  cases name with
  | none => exact .empty
  | some name => exact .choice _ .empty ((IsText.text " AS ").append (.text name))

theorem Column.isText_script (column : Column) : column.script.IsText :=
  (IsText.text column.name).append (isText_asNameScript column.asName)

theorem Table.isText_script (table : Table) : table.script.IsText :=
  (IsText.text table.name).append (isText_asNameScript table.asName)

theorem Aggregate.isText_script (call : Aggregate) : call.script.IsText := by
  have upToDistinct := ((IsText.text call.function.text).append (.text "(")).append
    (.choice (call.distinct = true) (.text "DISTINCT ") .empty)
  exact ((upToDistinct.append (.text call.argument)).append (.text ")")).append
    (isText_asNameScript call.asName)

theorem SelectItem.isText_script (item : SelectItem) : item.script.IsText := by
  cases item with
  | column named => exact named.isText_script
  | fragment text => exact .text text
  | aggregate call => exact call.isText_script

theorem FromClause.isText_script (clause : FromClause) : clause.script.IsText :=
  (IsText.text _).append clause.table.isText_script

theorem JoinCondition.isText_script (condition : JoinCondition) : condition.script.IsText := by
  induction condition with
  | equality left right =>
    exact (left.isText_script.append (.text " = ")).append right.isText_script
  | connected left word right leftText rightText =>
    have upToWord := (((IsText.text "(").append leftText).append (.text " ")).append
      (.text word.text)
    exact ((upToWord.append (.text " ")).append rightText).append (.text ")")

theorem Join.isText_script {join : Join} (complete : join.IsComplete) : join.script.IsText := by
  obtain ⟨hasTable, condition⟩ := complete
  have named : (Script.require .joinTable join.table.isEmpty ++ .text join.kind.text ++ .text " "
      ++ join.table.script).IsText := by
    rw [hasTable]
    exact ((IsText.empty.append (.text _)).append (.text " ")).append join.table.isText_script
  refine named.append ?_
  split
  · exact .empty
  · next conditional =>
    obtain crosses | ⟨condition, isCondition, present⟩ := condition
    · exact absurd crosses conditional
    · simp only [Join.conditionScript, isCondition, present]
      exact (IsText.text " ON ").append condition.isText_script

/-- A query of a select list and a table alone binds nothing. -/
theorem Select.isText_script_upToTable {items : List SelectItem} (nonempty : items ≠ [])
    (distinct : Bool) (source : FromClause) :
    (Select.script { distinct, items, source }).IsText := by
  have hasItems : items.isEmpty = false := by simpa using nonempty
  have selects : (Script.text (if distinct then "SELECT DISTINCT " else "SELECT ")
      ++ .commaSeparated (items.map SelectItem.script)
      ++ .clause source.isEmpty source.script).IsText :=
    ((IsText.text _).append (.list SelectItem.isText_script items)).append
      (.clause _ source.isText_script)
  have noText : Text.isBlank "" = true := rfl
  have scriptEq : Select.script { distinct, items, source } =
      .text (if distinct then "SELECT DISTINCT " else "SELECT ")
        ++ .commaSeparated (items.map SelectItem.script)
        ++ .clause source.isEmpty source.script := by
    simp [Select.script, hasItems, openingScript, closingScript, noText, Script.leading,
      Script.clause, WithQuery.scripts, joinsScript, lacksCondition]
  rw [scriptEq]
  exact selects

end SqlTree
