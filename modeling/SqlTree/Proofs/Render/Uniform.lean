import SqlTree.Proofs.Render.Revision

/-!
# Scripts do not look at values

Under all revisions a node has scripts with the same texts and the same violation, and in which each
bound value comes from one fixed place of the node.  The statement is carried through the tree by
templates: scripts in which a bound value is known by its place.
-/

namespace SqlTree

/-- A piece of a script, where a value to be bound is known by its place and by what is found
there. -/
inductive OpenPiece where
  | text (text : String)
  | value (place : Place) (found : Scalar)

namespace OpenPiece

@[simp]
def fill (revision : Revision) : OpenPiece → Piece
  | text content => .text content
  | value place found => .bind (revision place found)

/-- The piece of a node that has the piece's own node as the part with the given number. -/
@[simp]
def under (part : Nat) : OpenPiece → OpenPiece
  | text content => text content
  | value place found => value (part :: place) found

end OpenPiece

/-- The scripts of a node under all revisions. -/
structure Template where
  pieces : List OpenPiece
  violation : Option Violation := none

namespace Template

def fill (template : Template) (revision : Revision) : Script :=
  ⟨template.pieces.map (OpenPiece.fill revision), template.violation⟩

/-- No NULL is found where a value is to be bound. -/
def FindsNoNull (template : Template) : Prop :=
  ∀ place found, .value place found ∈ template.pieces → found.isNull = false

end Template

/-- The scripts differ only in what the revisions put in the places of a template. -/
def Uniform (scripts : Revision → Script) : Prop :=
  ∃ template : Template, template.FindsNoNull ∧
    ∀ revision : Revision, revision.KeepsNonNull → scripts revision = template.fill revision

namespace Uniform

theorem empty : Uniform fun _ => Script.empty :=
  ⟨⟨[], none⟩, by simp [Template.FindsNoNull], fun _ _ => rfl⟩

theorem text (content : String) : Uniform fun _ => Script.text content :=
  ⟨⟨[.text content], none⟩, by simp [Template.FindsNoNull], fun _ _ => rfl⟩

theorem abort (violation : Violation) : Uniform fun _ => Script.abort violation :=
  ⟨⟨[], some violation⟩, by simp [Template.FindsNoNull], fun _ _ => rfl⟩

/-- A value other than NULL is bound, whatever a revision puts in its place. -/
theorem value (scalar : Scalar) :
    Uniform fun revision =>
      Script.value (if scalar.isNull then scalar else revision [] scalar) := by
  cases null : scalar.isNull with
  | true =>
    refine ⟨⟨[.text "NULL"], none⟩, by simp [Template.FindsNoNull], fun revision keeps => ?_⟩
    simp [Script.value, null, Script.text, Template.fill]
  | false =>
    refine ⟨⟨[.value [] scalar], none⟩, by simp [Template.FindsNoNull, null], ?_⟩
    intro revision keeps
    simp [Script.value, keeps [] scalar null, Template.fill]

theorem append {first second : Revision → Script} (firstUniform : Uniform first)
    (secondUniform : Uniform second) :
    Uniform fun revision => first revision ++ second revision := by
  obtain ⟨⟨pieces, violation⟩, pieceFound, pieceFills⟩ := firstUniform
  obtain ⟨⟨others, nextViolation⟩, otherFound, otherFills⟩ := secondUniform
  cases violation with
  | some violation =>
    refine ⟨⟨pieces, some violation⟩, pieceFound, fun revision keeps => ?_⟩
    simp only [pieceFills revision keeps, otherFills revision keeps]
    rfl
  | none =>
    refine ⟨⟨pieces ++ others, nextViolation⟩, ?_, fun revision keeps => ?_⟩
    · intro place found member
      rcases List.mem_append.mp member with member | member
      · exact pieceFound place found member
      · exact otherFound place found member
    · simp only [pieceFills revision keeps, otherFills revision keeps, Template.fill,
        List.map_append]
      rfl

theorem within {scripts : Revision → Script} (uniform : Uniform scripts) (part : Nat) :
    Uniform fun revision => scripts (revision.within part) := by
  obtain ⟨⟨pieces, violation⟩, noNull, fills⟩ := uniform
  refine ⟨⟨pieces.map (OpenPiece.under part), violation⟩, ?_, fun revision keeps => ?_⟩
  · intro place found member
    obtain ⟨piece, pieceMem, under⟩ := List.mem_map.mp member
    cases piece with
    | text content => simp at under
    | value inner scalar =>
      simp only [OpenPiece.under, OpenPiece.value.injEq] at under
      rw [← under.2]
      exact noNull inner scalar pieceMem
  · change scripts (revision.within part) = _
    rw [fills _ (keeps.within part)]
    simp only [Template.fill, List.map_map]
    congr 1
    apply List.map_congr_left
    intro piece _
    cases piece <;> rfl

theorem choice (condition : Prop) [Decidable condition] {first second : Revision → Script}
    (firstUniform : Uniform first) (secondUniform : Uniform second) :
    Uniform fun revision => if condition then first revision else second revision := by
  split
  · exact firstUniform
  · exact secondUniform

theorem require (part : RequiredPart) (isEmpty : Bool) :
    Uniform fun _ => Script.require part isEmpty :=
  choice _ (abort _) empty

theorem parenthesized {scripts : Revision → Script} (uniform : Uniform scripts) :
    Uniform fun revision => (scripts revision).parenthesized :=
  ((text _).append uniform).append (text _)

theorem clause (isAbsent : Bool) {scripts : Revision → Script} (uniform : Uniform scripts) :
    Uniform fun revision => Script.clause isAbsent (scripts revision) :=
  choice _ empty ((text _).append uniform)

theorem leading (isAbsent : Bool) {scripts : Revision → Script} (uniform : Uniform scripts) :
    Uniform fun revision => Script.leading isAbsent (scripts revision) :=
  choice _ empty (uniform.append (text _))

end Uniform

/-- Lists of scripts of one length, each of whose elements is uniform. -/
def UniformList (scripts : Revision → List Script) : Prop :=
  ∃ elements : List (Revision → Script), (∀ element ∈ elements, Uniform element) ∧
    ∀ revision, scripts revision = elements.map fun element => element revision

namespace UniformList

theorem nil : UniformList fun _ => [] :=
  ⟨[], by simp, fun _ => rfl⟩

theorem cons {first : Revision → Script} {rest : Revision → List Script}
    (firstUniform : Uniform first) (restUniform : UniformList rest) :
    UniformList fun revision => first revision :: rest revision := by
  obtain ⟨elements, uniform, elementwise⟩ := restUniform
  refine ⟨first :: elements, ?_, fun revision => by simp [elementwise]⟩
  intro element member
  rcases List.mem_cons.mp member with rfl | member
  · exact firstUniform
  · exact uniform element member

theorem within {scripts : Revision → List Script} (uniform : UniformList scripts) (part : Nat) :
    UniformList fun revision => scripts (revision.within part) := by
  obtain ⟨elements, elementsUniform, elementwise⟩ := uniform
  refine ⟨elements.map fun element revision => element (revision.within part), ?_, ?_⟩
  · intro element member
    obtain ⟨inner, innerMem, rfl⟩ := List.mem_map.mp member
    exact (elementsUniform inner innerMem).within part
  · intro revision
    simp [elementwise, List.map_map, Function.comp_def]

theorem map {Item : Type} {script : Item → Script} (uniform : ∀ item, Uniform fun _ => script item)
    (items : List Item) : UniformList fun _ => items.map script := by
  induction items with
  | nil => exact nil
  | cons item rest ih => exact cons (uniform item) ih

theorem map_list {Item : Type} {script : Item → Script} {revise : Revision → Item → Item}
    (uniform : ∀ item, Uniform fun revision => script (revise revision item))
    (items : List Item) :
    UniformList fun revision => (Revision.list revise revision items).map script := by
  induction items with
  | nil => exact nil
  | cons item rest ih => exact cons ((uniform item).within 0) (ih.within 1)

theorem isEmpty_eq {scripts : Revision → List Script} (uniform : UniformList scripts)
    (first second : Revision) : (scripts first).isEmpty = (scripts second).isEmpty := by
  obtain ⟨elements, elementsUniform, elementwise⟩ := uniform
  rw [elementwise first, elementwise second, List.isEmpty_map, List.isEmpty_map]

theorem separated (separator : String) {scripts : Revision → List Script}
    (uniform : UniformList scripts) :
    Uniform fun revision => Script.separated separator (scripts revision) := by
  obtain ⟨elements, elementsUniform, elementwise⟩ := uniform
  simp only [elementwise]
  clear elementwise
  induction elements with
  | nil => exact Uniform.empty
  | cons element rest ih =>
    have elementUniform := elementsUniform element (by simp)
    cases rest with
    | nil => exact elementUniform
    | cons next rest =>
      exact (elementUniform.append (Uniform.text separator)).append
        (ih fun other member => elementsUniform other (by simp [member]))

theorem commaSeparated {scripts : Revision → List Script} (uniform : UniformList scripts) :
    Uniform fun revision => Script.commaSeparated (scripts revision) :=
  separated ", " uniform

end UniformList

/-! ## Clauses -/

namespace Uniform

theorem asNameScript (name : Option String) : Uniform fun _ => SqlTree.asNameScript name := by
  cases name with
  | none => exact empty
  | some name => exact choice _ empty ((text _).append (text _))

theorem column (column : Column) : Uniform fun _ => column.script :=
  (text _).append (asNameScript _)

theorem table (table : Table) : Uniform fun _ => table.script :=
  (text _).append (asNameScript _)

theorem aggregate (call : Aggregate) : Uniform fun _ => call.script := by
  unfold Aggregate.script
  refine append (append (append (append ?_ ?_) (text _)) (text _)) (asNameScript _)
  · exact (text _).append (text _)
  · exact choice _ (text _) empty

theorem selectItem (item : SelectItem) : Uniform fun _ => item.script := by
  cases item with
  | column named => exact column named
  | fragment content => exact text content
  | aggregate call => exact aggregate call

theorem order (order : Order) : Uniform fun _ => order.script :=
  ((text _).append (text _)).append (text _)

theorem fromClause (clause : FromClause) : Uniform fun _ => clause.script :=
  (text _).append (table _)

theorem joinCondition (condition : JoinCondition) : Uniform fun _ => condition.script := by
  induction condition with
  | equality left right => exact ((column left).append (text _)).append (column right)
  | connected left word right leftUniform rightUniform =>
    have upToWord := (((text "(").append leftUniform).append (text " ")).append (text word.text)
    exact ((upToWord.append (text " ")).append rightUniform).append (text ")")

theorem joinConditionScript (join : Join) : Uniform fun _ => join.conditionScript := by
  unfold Join.conditionScript
  cases join.condition with
  | none => exact abort _
  | some condition =>
    exact choice _ (abort _) ((text _).append (joinCondition condition))

theorem join (join : Join) : Uniform fun _ => join.script := by
  unfold Join.script
  refine append (append (append (append (require _ _) (text _)) (text _)) (table _)) ?_
  exact choice _ empty (joinConditionScript join)

theorem joinsScript (joins : List Join) : Uniform fun _ => SqlTree.joinsScript joins := by
  induction joins with
  | nil => exact empty
  | cons first rest ih => exact (choice _ empty ((text _).append (join first))).append ih

theorem columnsScript (keyword : String) (columns : List Column) :
    Uniform fun _ => SqlTree.columnsScript keyword columns :=
  (text keyword).append (UniformList.map column columns).commaSeparated

theorem columnNamesScript (columns : List Column) :
    Uniform fun _ => SqlTree.columnNamesScript columns :=
  ((text _).append (UniformList.map (fun _ => text _) columns).commaSeparated).append (text _)

theorem orderByScript (orders : List Order) : Uniform fun _ => SqlTree.orderByScript orders :=
  (text _).append (UniformList.map order orders).commaSeparated

theorem usingScript (tables : List Table) : Uniform fun _ => SqlTree.usingScript tables :=
  (text _).append (UniformList.map table tables).commaSeparated

theorem intoScript (named : Table) : Uniform fun _ => SqlTree.intoScript named :=
  (text _).append (table named)

theorem limitScript (count : Option UInt64) : Uniform fun _ => SqlTree.limitScript count := by
  cases count with
  | none => exact empty
  | some count => exact text _

theorem offsetScript (count : Option UInt64) : Uniform fun _ => SqlTree.offsetScript count := by
  cases count with
  | none => exact empty
  | some count => exact text _

theorem commentScript (comment : String) : Uniform fun _ => SqlTree.commentScript comment :=
  ((text _).append (text _)).append (text _)

theorem withScript {queries : Revision → List Script} (uniform : UniformList queries) :
    Uniform fun revision => SqlTree.withScript (queries revision) :=
  (text _).append uniform.commaSeparated

/-- Whether there are named queries does not depend on the revision. -/
theorem openingScript (leadingText : String) {queries : Revision → List Script}
    (uniform : UniformList queries) :
    Uniform fun revision => SqlTree.openingScript leadingText (queries revision) := by
  have sameEmptiness := uniform.isEmpty_eq
  simp only [SqlTree.openingScript, fun revision => sameEmptiness revision fun _ scalar => scalar]
  exact (leading _ (text _)).append (leading _ (withScript uniform))

theorem closingScript (trailingText comment : String) :
    Uniform fun _ => SqlTree.closingScript trailingText comment :=
  (clause _ (text _)).append (clause _ (commentScript _))

end Uniform

/-! ## Expressions and queries -/

mutual

theorem Expression.uniform_script :
    (expression : Expression) → Uniform fun revision => (expression.revise revision).script
  | .identifier name => .text name
  | .column named => .column named
  | .value scalar => .value scalar
  | .fragment content => .text content
  | .array items => (Expression.uniform_scripts items).commaSeparated
  | .binary left operator right => by
    have leftUniform := left.uniform_script.within 0
    have rightUniform := right.uniform_script.within 1
    have upToOperator :=
      (((Uniform.text "(").append leftUniform).append (.text " ")).append (.text operator.text)
    exact ((upToOperator.append (.text " ")).append rightUniform).append (.text ")")
  | .between name operator lower connective upper => by
    have lowerUniform := lower.uniform_script.within 0
    have upperUniform := upper.uniform_script.within 1
    have upToOperator :=
      (((Uniform.text "(").append (.text name)).append (.text " ")).append (.text operator.text)
    have upToLower := (upToOperator.append (.text " ")).append lowerUniform
    have upToConnective := (upToLower.append (.text " ")).append (.text connective.text)
    exact ((upToConnective.append (.text " ")).append upperUniform).append (.text ")")
  | .membership tested operator candidates => by
    have testedUniform := tested.uniform_script.within 0
    have candidatesUniform := candidates.uniform_script.within 1
    have upToOperator :=
      (((Uniform.text "(").append testedUniform).append (.text " ")).append (.text operator.text)
    simp only [Expression.revise, Expression.script, Expression.isSubquery_revise]
    refine ((upToOperator.append (.text " ")).append ?_).append (.text ")")
    exact .choice _ candidatesUniform candidatesUniform.parenthesized
  | .existence negated subject => by
    have subjectUniform := subject.uniform_script.within 0
    simp only [Expression.revise, Expression.script, Expression.isSubquery_revise]
    exact (Uniform.text _).append (.choice _ subjectUniform subjectUniform.parenthesized)
  | .aggregate call => .aggregate call
  | .wrapped inner => inner.uniform_script.within 0
  | .subquery query => (query.uniform_script.within 0).parenthesized

theorem Expression.uniform_scripts :
    (items : List Expression) →
      UniformList fun revision => Expression.scripts (Expression.reviseList revision items)
  | [] => .nil
  | item :: rest =>
    .cons (item.uniform_script.within 0) ((Expression.uniform_scripts rest).within 1)

theorem Expression.uniform_conditionScript (clause : ConditionClause) :
    (condition : Option Expression) →
      Uniform fun revision =>
        Expression.conditionScript clause (Expression.reviseOption revision condition)
  | some condition => (Uniform.text _).append (condition.uniform_script.within 0)
  | none => .empty

theorem WithQuery.uniform_script :
    (named : WithQuery) → Uniform fun revision => (named.revise revision).script
  | ⟨name, query⟩ =>
    (((Uniform.text name).append (.text _)).append (query.uniform_script.within 0)).append (.text _)

theorem WithQuery.uniform_scripts :
    (queries : List WithQuery) →
      UniformList fun revision => WithQuery.scripts (WithQuery.reviseList revision queries)
  | [] => .nil
  | named :: rest =>
    .cons (named.uniform_script.within 0) ((WithQuery.uniform_scripts rest).within 1)

theorem Select.uniform_script :
    (query : Select) → Uniform fun revision => (query.revise revision).script
  | ⟨withQueries, leadingText, distinct, items, source, joins, filter, groupBy, having, orderBy,
      limit, offset, trailingText, comment⟩ => by
    have queriesUniform := (WithQuery.uniform_scripts withQueries).within 0
    have filterUniform := (Expression.uniform_conditionScript .filter filter).within 1
    have havingUniform := (Expression.uniform_conditionScript .having having).within 2
    have upToItems :=
      (((Uniform.require .selectItems items.isEmpty).append
        (.openingScript leadingText queriesUniform)).append
        (.text (if distinct then "SELECT DISTINCT " else "SELECT "))).append
        (UniformList.map Uniform.selectItem items).commaSeparated
    have upToJoins :=
      (upToItems.append (.clause source.isEmpty (.fromClause source))).append (.joinsScript joins)
    have upToHaving :=
      ((upToJoins.append (.clause (lacksCondition filter) filterUniform)).append
        (.clause groupBy.isEmpty (.columnsScript "GROUP BY " groupBy))).append
        (.clause (lacksCondition having) havingUniform)
    simp only [Select.revise, Select.script, lacksCondition_reviseOption]
    exact (((upToHaving.append (.clause orderBy.isEmpty (.orderByScript orderBy))).append
      (.clause limit.isNone (.limitScript limit))).append
      (.clause offset.isNone (.offsetScript offset))).append
      (.closingScript trailingText comment)

end

/-! ## The other statements -/

theorem Assignment.uniform_script (assignment : Assignment) :
    Uniform fun revision => (assignment.revise revision).script :=
  ((Uniform.text assignment.column.name).append (.text " = ")).append
    assignment.value.uniform_script

theorem uniform_setScript (assignments : List Assignment) :
    Uniform fun revision => setScript (Revision.list Assignment.revise revision assignments) :=
  (Uniform.text _).append
    (UniformList.map_list Assignment.uniform_script assignments).commaSeparated

theorem uniform_valuesScript (rows : List (List Expression)) :
    Uniform fun revision => valuesScript (Revision.list Expression.reviseList revision rows) := by
  have rowUniform (row : List Expression) :
      Uniform fun revision =>
        (Expression.script (.array (Expression.reviseList revision row))).parenthesized :=
    (Expression.uniform_scripts row).commaSeparated.parenthesized
  exact (Uniform.text _).append (UniformList.map_list rowUniform rows).commaSeparated

theorem InsertSource.uniform_script (source : InsertSource) :
    Uniform fun revision => (source.revise revision).script := by
  cases source with
  | rows given => exact uniform_valuesScript given
  | query select => exact select.uniform_script

theorem ConflictAction.uniform_script (action : ConflictAction) :
    Uniform fun revision => (action.revise revision).script := by
  cases action with
  | doNothing => exact .text _
  | doUpdate assignments =>
    simp only [revise, script, Revision.isEmpty_list]
    exact ((Uniform.require _ _).append (.text _)).append (uniform_setScript assignments)

theorem OnConflict.uniform_script (clause : OnConflict) :
    Uniform fun revision => (clause.revise revision).script :=
  ((Uniform.text "ON CONFLICT").append
    (.choice clause.target.isEmpty .empty (.columnNamesScript clause.target))).append
    clause.action.uniform_script

theorem uniform_onConflictScript (clause : Option OnConflict) :
    Uniform fun revision => onConflictScript (clause.map (OnConflict.revise revision)) := by
  cases clause with
  | none => exact .empty
  | some clause => exact (Uniform.text _).append clause.uniform_script

theorem Insert.uniform_script (statement : Insert) :
    Uniform fun revision => (statement.revise revision).script := by
  have queriesUniform := (WithQuery.uniform_scripts statement.withQueries).within 0
  have sourceUniform := statement.source.uniform_script.within 1
  have conflictUniform := (uniform_onConflictScript statement.onConflict).within 2
  have upToTable :=
    (((Uniform.require .insertTable statement.isEmpty).append
      (.openingScript statement.leadingText queriesUniform)).append (.text "INSERT ")).append
      (.intoScript statement.table)
  have upToSource :=
    (upToTable.append
      (.choice statement.columns.isEmpty .empty (.columnNamesScript statement.columns))).append
      (.clause statement.source.isEmpty sourceUniform)
  simp only [revise, script, InsertSource.isEmpty_revise]
  exact ((upToSource.append conflictUniform).append
    (.clause statement.returning.isEmpty (.columnsScript "RETURNING " statement.returning))).append
    (.closingScript statement.trailingText statement.comment)

theorem Update.uniform_script (statement : Update) :
    Uniform fun revision => (statement.revise revision).script := by
  have queriesUniform := (WithQuery.uniform_scripts statement.withQueries).within 0
  have assignmentsUniform := (uniform_setScript statement.assignments).within 1
  have filterUniform := (Expression.uniform_conditionScript .filter statement.filter).within 2
  have upToTable :=
    ((((Uniform.require .updateTable statement.table.isEmpty).append
      (.require .updateAssignments statement.assignments.isEmpty)).append
      (.openingScript statement.leadingText queriesUniform)).append
      (.text (if statement.only then "UPDATE ONLY " else "UPDATE "))).append
      (.table statement.table)
  have upToSource :=
    ((upToTable.append (.text " ")).append assignmentsUniform).append
      (.clause statement.source.isEmpty (.fromClause statement.source))
  simp only [revise, script, Revision.isEmpty_list, lacksCondition_reviseOption]
  exact ((upToSource.append (.clause (lacksCondition statement.filter) filterUniform)).append
    (.clause statement.returning.isEmpty (.columnsScript "RETURNING " statement.returning))).append
    (.closingScript statement.trailingText statement.comment)

theorem Delete.uniform_script (statement : Delete) :
    Uniform fun revision => (statement.revise revision).script := by
  have queriesUniform := (WithQuery.uniform_scripts statement.withQueries).within 0
  have filterUniform := (Expression.uniform_conditionScript .filter statement.filter).within 1
  have upToUsing :=
    ((((Uniform.require .deleteSource statement.isEmpty).append
      (.openingScript statement.leadingText queriesUniform)).append (.text "DELETE ")).append
      (.fromClause statement.source)).append
      (.clause (statement.usingTables.all Table.isEmpty) (.usingScript statement.usingTables))
  simp only [revise, script, lacksCondition_reviseOption]
  exact ((upToUsing.append (.clause (lacksCondition statement.filter) filterUniform)).append
    (.clause statement.returning.isEmpty (.columnsScript "RETURNING " statement.returning))).append
    (.closingScript statement.trailingText statement.comment)

/-- Revising the values of a node leaves its script as it is, but for the values bound in it. -/
theorem Node.uniform_script (node : Node) :
    Uniform fun revision => (node.revise revision).script := by
  cases node with
  | select statement => exact statement.uniform_script
  | insert statement => exact statement.uniform_script
  | update statement => exact statement.uniform_script
  | delete statement => exact statement.uniform_script
  | expression expression => exact expression.uniform_script
  | operator operator => exact .text operator.text
  | selectItem item => exact .selectItem item
  | table table => exact .table table
  | joinCondition condition => exact .joinCondition condition
  | join join => exact .join join
  | condition clause condition => exact Expression.uniform_conditionScript clause condition
  | fromClause clause => exact .fromClause clause
  | into table => exact .intoScript table
  | usingTables tables => exact .usingScript tables
  | assignments assignments => exact uniform_setScript assignments
  | values rows => exact uniform_valuesScript rows
  | source given => exact given.uniform_script
  | groupBy columns => exact .columnsScript "GROUP BY " columns
  | order order => exact .order order
  | orderBy orders => exact .orderByScript orders
  | limit count => exact .limitScript count
  | offset count => exact .offsetScript count
  | returning columns => exact .columnsScript "RETURNING " columns
  | withQueries queries => exact .withScript (WithQuery.uniform_scripts queries)
  | withQuery query => exact query.uniform_script
  | outerText content => exact .text _
  | comment content => exact .commentScript content
  | onConflict clause => exact clause.uniform_script

end SqlTree
