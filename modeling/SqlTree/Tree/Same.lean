import SqlTree.Tree.Statement

/-!
# Trees that say the same

Two trees say the same when they have the same shape and the same names, and the values at
corresponding places denote the same thing: timestamps that are the same instant are not told
apart, and neither are the two zeros, while a NaN differs from itself.
-/

namespace SqlTree

mutual

/-- The two expressions say the same. -/
def Expression.same : Expression → Expression → Bool
  | .identifier first, .identifier second => first == second
  | .column first, .column second => first == second
  | .value first, .value second => first.same second
  | .fragment first, .fragment second => first == second
  | .array first, .array second => Expression.sameList first second
  | .binary left operator right, .binary left' operator' right' =>
    left.same left' && operator == operator' && right.same right'
  | .between name operator lower connective upper,
    .between name' operator' lower' connective' upper' =>
    name == name' && operator == operator' && lower.same lower' && connective == connective'
      && upper.same upper'
  | .membership tested operator candidates, .membership tested' operator' candidates' =>
    tested.same tested' && operator == operator' && candidates.same candidates'
  | .existence negated subject, .existence negated' subject' =>
    negated == negated' && subject.same subject'
  | .aggregate first, .aggregate second => first == second
  | .wrapped first, .wrapped second => first.same second
  | .subquery first, .subquery second => first.same second
  | _, _ => false

def Expression.sameList : List Expression → List Expression → Bool
  | [], [] => true
  | first :: firsts, second :: seconds => first.same second && Expression.sameList firsts seconds
  | _, _ => false

def Expression.sameOption : Option Expression → Option Expression → Bool
  | none, none => true
  | some first, some second => first.same second
  | _, _ => false

def WithQuery.same : WithQuery → WithQuery → Bool
  | ⟨name, query⟩, ⟨name', query'⟩ => name == name' && query.same query'

/-- The two lists of named queries say the same, one query after the other. -/
def WithQuery.sameList : List WithQuery → List WithQuery → Bool
  | [], [] => true
  | first :: firsts, second :: seconds => first.same second && WithQuery.sameList firsts seconds
  | _, _ => false

def Select.same : Select → Select → Bool
  | ⟨withQueries, leadingText, distinct, items, source, joins, filter, groupBy, having, orderBy,
      limit, offset, trailingText, comment⟩, other =>
    WithQuery.sameList withQueries other.withQueries && leadingText == other.leadingText
      && distinct == other.distinct && items == other.items && source == other.source
      && joins == other.joins && Expression.sameOption filter other.filter
      && groupBy == other.groupBy && Expression.sameOption having other.having
      && orderBy == other.orderBy && limit == other.limit && offset == other.offset
      && trailingText == other.trailingText && comment == other.comment

end

def Assignment.same (first second : Assignment) : Bool :=
  first.column == second.column && first.value.same second.value

def Assignment.sameList : List Assignment → List Assignment → Bool
  | [], [] => true
  | first :: firsts, second :: seconds => first.same second && Assignment.sameList firsts seconds
  | _, _ => false

def Expression.sameRows : List (List Expression) → List (List Expression) → Bool
  | [], [] => true
  | first :: firsts, second :: seconds =>
    Expression.sameList first second && Expression.sameRows firsts seconds
  | _, _ => false

def InsertSource.same : InsertSource → InsertSource → Bool
  | .rows first, .rows second => Expression.sameRows first second
  | .query first, .query second => first.same second
  | _, _ => false

def ConflictAction.same : ConflictAction → ConflictAction → Bool
  | .doNothing, .doNothing => true
  | .doUpdate first, .doUpdate second => Assignment.sameList first second
  | _, _ => false

def OnConflict.same (first second : OnConflict) : Bool :=
  first.target == second.target && first.action.same second.action

def OnConflict.sameOption : Option OnConflict → Option OnConflict → Bool
  | none, none => true
  | some first, some second => first.same second
  | _, _ => false

def Insert.same (first second : Insert) : Bool :=
  WithQuery.sameList first.withQueries second.withQueries
    && first.leadingText == second.leadingText && first.table == second.table
    && first.columns == second.columns && first.source.same second.source
    && OnConflict.sameOption first.onConflict second.onConflict
    && first.returning == second.returning && first.trailingText == second.trailingText
    && first.comment == second.comment

def Update.same (first second : Update) : Bool :=
  WithQuery.sameList first.withQueries second.withQueries
    && first.leadingText == second.leadingText && first.table == second.table
    && first.only == second.only && Assignment.sameList first.assignments second.assignments
    && first.source == second.source && Expression.sameOption first.filter second.filter
    && first.returning == second.returning && first.trailingText == second.trailingText
    && first.comment == second.comment

def Delete.same (first second : Delete) : Bool :=
  WithQuery.sameList first.withQueries second.withQueries
    && first.leadingText == second.leadingText && first.source == second.source
    && first.usingTables == second.usingTables
    && Expression.sameOption first.filter second.filter && first.returning == second.returning
    && first.trailingText == second.trailingText && first.comment == second.comment

end SqlTree
