import SqlTree.Render.Node

/-!
# The texts that are taken over

Names, fragments, comments and what is given to stand before or after a statement reach the text of
a statement as they are.  All other texts in it belong to the tree, or to values.
-/

namespace SqlTree

/-- The signs with which the texts of values begin. -/
def signs : List Char :=
  ['$', ':']

/-- The sign does not occur in the texts. -/
def FreeOf (sign : Char) (texts : List String) : Prop :=
  ∀ text ∈ texts, sign ∉ text.toList

instance (sign : Char) (texts : List String) : Decidable (FreeOf sign texts) :=
  inferInstanceAs (Decidable (∀ text ∈ texts, sign ∉ text.toList))

section FreeOf

variable {sign : Char}

@[simp]
theorem freeOf_cons {text : String} {rest : List String} :
    FreeOf sign (text :: rest) ↔ sign ∉ text.toList ∧ FreeOf sign rest :=
  List.forall_mem_cons

@[simp]
theorem freeOf_append {first second : List String} :
    FreeOf sign (first ++ second) ↔ FreeOf sign first ∧ FreeOf sign second :=
  List.forall_mem_append

theorem FreeOf.of_flatMap {Item : Type} {texts : Item → List String} {items : List Item}
    (free : FreeOf sign (items.flatMap texts)) : ∀ item ∈ items, FreeOf sign (texts item) :=
  fun _ isItem _ isText => free _ (List.mem_flatMap.mpr ⟨_, isItem, isText⟩)

end FreeOf

/-! ## The texts that are taken over -/

def Column.verbatimTexts (column : Column) : List String :=
  column.name :: column.asName.toList

def Table.verbatimTexts (table : Table) : List String :=
  table.name :: table.asName.toList

def Aggregate.verbatimTexts (call : Aggregate) : List String :=
  call.argument :: call.asName.toList

def SelectItem.verbatimTexts : SelectItem → List String
  | .column named => named.verbatimTexts
  | .fragment text => [text]
  | .aggregate call => call.verbatimTexts

def JoinCondition.verbatimTexts : JoinCondition → List String
  | .equality left right => left.verbatimTexts ++ right.verbatimTexts
  | .connected left _ right => left.verbatimTexts ++ right.verbatimTexts

def Join.verbatimTexts (join : Join) : List String :=
  join.table.verbatimTexts ++ join.condition.toList.flatMap JoinCondition.verbatimTexts

mutual

/-- The names, fragments and comments in the expression, in all the queries that it has too. -/
def Expression.verbatimTexts : Expression → List String
  | .identifier name => [name]
  | .column named => named.verbatimTexts
  | .value _ => []
  | .fragment text => [text]
  | .array items => Expression.verbatimTextsOfAll items
  | .binary left _ right => left.verbatimTexts ++ right.verbatimTexts
  | .between name _ lower _ upper => name :: (lower.verbatimTexts ++ upper.verbatimTexts)
  | .membership tested _ candidates => tested.verbatimTexts ++ candidates.verbatimTexts
  | .existence _ subject => subject.verbatimTexts
  | .aggregate call => call.verbatimTexts
  | .wrapped inner => inner.verbatimTexts
  | .subquery query => query.verbatimTexts

def Expression.verbatimTextsOfAll : List Expression → List String
  | [] => []
  | item :: rest => item.verbatimTexts ++ Expression.verbatimTextsOfAll rest

def Expression.verbatimTextsOfCondition : Option Expression → List String
  | some condition => condition.verbatimTexts
  | none => []

def WithQuery.verbatimTexts : WithQuery → List String
  | ⟨name, query⟩ => name :: query.verbatimTexts

def WithQuery.verbatimTextsOfAll : List WithQuery → List String
  | [] => []
  | named :: rest => named.verbatimTexts ++ WithQuery.verbatimTextsOfAll rest

def Select.verbatimTexts : Select → List String
  | ⟨withQueries, leadingText, _, items, source, joins, filter, groupBy, having, orderBy, _, _,
      trailingText, comment⟩ =>
    leadingText :: trailingText :: comment :: (WithQuery.verbatimTextsOfAll withQueries
      ++ items.flatMap SelectItem.verbatimTexts ++ source.table.verbatimTexts
      ++ joins.flatMap Join.verbatimTexts ++ Expression.verbatimTextsOfCondition filter
      ++ groupBy.flatMap Column.verbatimTexts ++ Expression.verbatimTextsOfCondition having
      ++ orderBy.flatMap fun order => order.column.verbatimTexts)

end

def Assignment.verbatimTexts (assignment : Assignment) : List String :=
  assignment.column.verbatimTexts ++ assignment.value.verbatimTexts

def InsertSource.verbatimTexts : InsertSource → List String
  | .rows given => given.flatMap Expression.verbatimTextsOfAll
  | .query select => select.verbatimTexts

def ConflictAction.verbatimTexts : ConflictAction → List String
  | .doNothing => []
  | .doUpdate assignments => assignments.flatMap Assignment.verbatimTexts

def OnConflict.verbatimTexts (clause : OnConflict) : List String :=
  clause.target.flatMap Column.verbatimTexts ++ clause.action.verbatimTexts

def Insert.verbatimTexts (statement : Insert) : List String :=
  statement.leadingText :: statement.trailingText :: statement.comment ::
    (WithQuery.verbatimTextsOfAll statement.withQueries ++ statement.table.verbatimTexts
      ++ statement.columns.flatMap Column.verbatimTexts ++ statement.source.verbatimTexts
      ++ statement.onConflict.toList.flatMap OnConflict.verbatimTexts
      ++ statement.returning.flatMap Column.verbatimTexts)

def Update.verbatimTexts (statement : Update) : List String :=
  statement.leadingText :: statement.trailingText :: statement.comment ::
    (WithQuery.verbatimTextsOfAll statement.withQueries ++ statement.table.verbatimTexts
      ++ statement.assignments.flatMap Assignment.verbatimTexts
      ++ statement.source.table.verbatimTexts
      ++ Expression.verbatimTextsOfCondition statement.filter
      ++ statement.returning.flatMap Column.verbatimTexts)

def Delete.verbatimTexts (statement : Delete) : List String :=
  statement.leadingText :: statement.trailingText :: statement.comment ::
    (WithQuery.verbatimTextsOfAll statement.withQueries ++ statement.source.table.verbatimTexts
      ++ statement.usingTables.flatMap Table.verbatimTexts
      ++ Expression.verbatimTextsOfCondition statement.filter
      ++ statement.returning.flatMap Column.verbatimTexts)

/-- The texts that are taken over from the node as they are, or without the white space at their
ends: names, fragments, comments and what is given to stand before or after a statement. -/
def Node.verbatimTexts : Node → List String
  | .select statement => statement.verbatimTexts
  | .insert statement => statement.verbatimTexts
  | .update statement => statement.verbatimTexts
  | .delete statement => statement.verbatimTexts
  | .expression node => node.verbatimTexts
  | .operator _ => []
  | .selectItem item => item.verbatimTexts
  | .table named => named.verbatimTexts
  | .joinCondition node => node.verbatimTexts
  | .join node => node.verbatimTexts
  | .condition _ node => Expression.verbatimTextsOfCondition node
  | .fromClause clause => clause.table.verbatimTexts
  | .into named => named.verbatimTexts
  | .usingTables tables => tables.flatMap Table.verbatimTexts
  | .assignments pairs => pairs.flatMap Assignment.verbatimTexts
  | .values rows => rows.flatMap Expression.verbatimTextsOfAll
  | .source given => given.verbatimTexts
  | .groupBy columns => columns.flatMap Column.verbatimTexts
  | .order entry => entry.column.verbatimTexts
  | .orderBy entries => entries.flatMap fun order => order.column.verbatimTexts
  | .limit _ => []
  | .offset _ => []
  | .returning columns => columns.flatMap Column.verbatimTexts
  | .withQueries queries => WithQuery.verbatimTextsOfAll queries
  | .withQuery query => query.verbatimTexts
  | .outerText text => [text]
  | .comment text => [text]
  | .onConflict clause => clause.verbatimTexts

end SqlTree
