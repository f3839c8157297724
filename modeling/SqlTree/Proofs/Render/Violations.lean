import SqlTree.Proofs.Render.Openings

/-!
# Scripts that break off

A script that is put together from others breaks off exactly if one of them does, apart from clauses
that are left out.  The clauses of a statement never break off by themselves; an empty statement or
join always does.
-/

namespace SqlTree

/-! ## Scripts that do not break off -/

namespace Script

@[simp]
theorem violation_empty : empty.violation = none :=
  rfl

@[simp]
theorem violation_text (content : String) : (text content).violation = none :=
  rfl

@[simp]
theorem violation_value (scalar : Scalar) : (value scalar).violation = none := by
  unfold value
  split <;> rfl

theorem violation_require {part : RequiredPart} {isEmpty : Bool} :
    (require part isEmpty).violation = none ↔ isEmpty = false := by
  cases isEmpty <;> simp [require, abort]

theorem violation_separated {separator : String} {scripts : List Script} :
    (separated separator scripts).violation = none ↔
      ∀ script ∈ scripts, script.violation = none := by
  induction scripts with
  | nil => simp [separated]
  | cons script rest ih =>
    cases rest with
    | nil => simp [separated]
    | cons next rest => simp [separated, violation_append, ih]

theorem violation_commaSeparated {scripts : List Script} :
    (commaSeparated scripts).violation = none ↔ ∀ script ∈ scripts, script.violation = none :=
  violation_separated

theorem violation_parenthesized {script : Script} :
    script.parenthesized.violation = none ↔ script.violation = none := by
  simp [parenthesized, violation_append]

theorem violation_append_of_unbroken {first : Script} (unbroken : first.violation = none)
    (second : Script) : (first ++ second).violation = second.violation := by
  obtain ⟨pieces, violation⟩ := first
  subst unbroken
  rfl

@[simp]
theorem abort_append (violation : Violation) (rest : Script) :
    abort violation ++ rest = abort violation :=
  rfl

@[simp]
theorem require_true (part : RequiredPart) : require part true = abort (.missing part) :=
  rfl

@[simp]
theorem require_false (part : RequiredPart) : require part false = empty :=
  rfl

/-- A clause that is left out does not break off, whatever it is. -/
theorem violation_clause {isAbsent : Bool} {script : Script} :
    (clause isAbsent script).violation = none ↔ isAbsent = true ∨ script.violation = none := by
  cases isAbsent <;> simp [clause, violation_append]

theorem violation_leading {isAbsent : Bool} {script : Script} :
    (leading isAbsent script).violation = none ↔ isAbsent = true ∨ script.violation = none := by
  cases isAbsent <;> simp [leading, violation_append]

end Script

open Script

/-! ## Clauses -/

@[simp]
theorem violation_asNameScript (name : Option String) : (asNameScript name).violation = none := by
  cases name with
  | none => rfl
  | some name =>
    simp only [asNameScript]
    split <;> rfl

@[simp]
theorem Column.violation_script (column : Column) : column.script.violation = none := by
  simp [Column.script, violation_append]

@[simp]
theorem Table.violation_script (table : Table) : table.script.violation = none := by
  simp [Table.script, violation_append]

@[simp]
theorem Aggregate.violation_script (call : Aggregate) : call.script.violation = none := by
  cases distinct : call.distinct <;> simp [Aggregate.script, violation_append, distinct]

@[simp]
theorem SelectItem.violation_script (item : SelectItem) : item.script.violation = none := by
  cases item <;> simp [SelectItem.script]

@[simp]
theorem Order.violation_script (order : Order) : order.script.violation = none := by
  simp [Order.script, violation_append]

@[simp]
theorem FromClause.violation_script (clause : FromClause) : clause.script.violation = none := by
  simp [FromClause.script, violation_append]

@[simp]
theorem Operator.violation_script (operator : Operator) : operator.script.violation = none :=
  rfl

@[simp]
theorem JoinCondition.violation_script (condition : JoinCondition) :
    condition.script.violation = none := by
  induction condition with
  | equality left right => simp [JoinCondition.script, violation_append]
  | connected left word right leftIH rightIH =>
    simp [JoinCondition.script, violation_append, leftIH, rightIH]

@[simp]
theorem violation_columnsScript (keyword : String) (columns : List Column) :
    (columnsScript keyword columns).violation = none := by
  simp [columnsScript, violation_append, violation_commaSeparated]

@[simp]
theorem violation_columnNamesScript (columns : List Column) :
    (columnNamesScript columns).violation = none := by
  simp [columnNamesScript, violation_append, violation_commaSeparated]

@[simp]
theorem violation_orderByScript (orders : List Order) :
    (orderByScript orders).violation = none := by
  simp [orderByScript, violation_append, violation_commaSeparated]

@[simp]
theorem violation_usingScript (tables : List Table) : (usingScript tables).violation = none := by
  simp [usingScript, violation_append, violation_commaSeparated]

@[simp]
theorem violation_limitScript (count : Option UInt64) : (limitScript count).violation = none := by
  cases count <;> rfl

@[simp]
theorem violation_offsetScript (count : Option UInt64) :
    (offsetScript count).violation = none := by
  cases count <;> rfl

@[simp]
theorem violation_commentScript (comment : String) : (commentScript comment).violation = none :=
  rfl

theorem violation_withScript {queries : List Script}
    (unbroken : ∀ script ∈ queries, script.violation = none) :
    (withScript queries).violation = none := by
  simpa [withScript, violation_append, violation_commaSeparated] using unbroken

theorem violation_openingScript (leadingText : String) {queries : List Script}
    (unbroken : ∀ script ∈ queries, script.violation = none) :
    (openingScript leadingText queries).violation = none := by
  simp [openingScript, violation_append, violation_leading, outerTextScript,
    violation_withScript unbroken]

@[simp]
theorem violation_closingScript (trailingText comment : String) :
    (closingScript trailingText comment).violation = none := by
  simp [closingScript, violation_append, violation_clause, outerTextScript]

/-! ## What is empty breaks off -/

theorem Select.script_of_isEmpty {query : Select} (empty : query.isEmpty = true) :
    query.script = .abort (.missing .selectItems) := by
  obtain ⟨queries, leadingText, distinct, items, source, joins⟩ := query
  have noItems : items.isEmpty = true := empty
  simp only [Select.script, noItems, require_true, abort_append]

theorem Insert.script_of_isEmpty {statement : Insert} (empty : statement.isEmpty = true) :
    statement.script = .abort (.missing .insertTable) := by
  simp only [Insert.script, empty, require_true, abort_append]

/-- The table is missed before the assignments are. -/
theorem Update.script_of_isEmpty {statement : Update} (empty : statement.isEmpty = true) :
    statement.script =
      .abort (.missing
        (if statement.table.isEmpty then .updateTable else .updateAssignments)) := by
  cases noTable : statement.table.isEmpty with
  | true => simp only [Update.script, noTable, require_true, abort_append, if_true]
  | false =>
    have setsNothing : statement.assignments.isEmpty = true := by
      simpa [Update.isEmpty, noTable] using empty
    simp only [Update.script, noTable, setsNothing, require_false, require_true, empty_append,
      abort_append]
    rfl

theorem Delete.script_of_isEmpty {statement : Delete} (empty : statement.isEmpty = true) :
    statement.script = .abort (.missing .deleteSource) := by
  simp only [Delete.script, empty, require_true, abort_append]

theorem Join.conditionScript_of_lacksCondition {join : Join} (lacks : join.lacksCondition = true) :
    join.conditionScript = .abort (.missing .joinCondition) := by
  unfold lacksCondition at lacks
  unfold conditionScript
  cases isCondition : join.condition with
  | none => rfl
  | some condition =>
    rw [isCondition] at lacks
    simp only at lacks
    simp only [lacks, if_true]

/-- A join whose condition is missing breaks off behind its table. -/
theorem Join.violation_of_isEmpty {join : Join} (empty : join.isEmpty = true) :
    join.script.violation =
      some (.missing (if join.table.isEmpty then .joinTable else .joinCondition)) := by
  cases noTable : join.table.isEmpty with
  | true =>
    rw [Join.script, noTable]
    simp only [require_true, abort_append]
    rfl
  | false =>
    have lacks : join.kind ≠ .cross ∧ join.lacksCondition = true := by
      simpa [Join.isEmpty, noTable] using empty
    have unbroken : (Script.require .joinTable false ++ .text join.kind.text ++ .text " "
        ++ join.table.script).violation = none := by
      simp [violation_append]
    rw [Join.script, noTable, violation_append_of_unbroken unbroken, if_neg lacks.1,
      Join.conditionScript_of_lacksCondition lacks.2]
    rfl

end SqlTree
