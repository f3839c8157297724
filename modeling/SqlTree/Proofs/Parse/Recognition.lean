import Mathlib.Data.List.TakeWhile
import SqlTree.Proofs.Parse.SelectLists

/-!
# Rendered statements are recognised

A statement without named queries is rendered with its operation first, behind a text of its own,
and with its table behind what the operation puts there.  All the other clauses come later, so
that whatever they hold, the operation and the table are found in what is rendered.
-/

namespace SqlTree

open Parse (Path Passes NamesNoOperation onlyLexemes)
open Script (SetApart)
open Text (trimmed isBlank)

/-- A statement of one of the four operations. -/
inductive Statement where
  | select (query : Select)
  | insert (statement : Insert)
  | update (statement : Update)
  | delete (statement : Delete)

/-! ## Keywords with a blank behind them -/

theorem Keyword.leads_pair (first second : Keyword) :
    Leads (first.spelling ++ " " ++ (second.spelling ++ " ")).toList
      [first.lexeme, second.lexeme] := by
  rw [String.toList_append]
  exact first.leads.append second.leads

theorem leads_select (distinct : Bool) :
    Leads (if distinct then "SELECT DISTINCT " else "SELECT ").toList
      (Operation.select.keyword.lexeme ::
        if distinct then [Keyword.lexeme .distinct] else []) := by
  cases distinct with
  | false => exact Keyword.leads .select
  | true => exact Keyword.leads_pair .select .distinct

theorem exists_leads_select (distinct : Bool) :
    ∃ lexemes, Passes lexemes ∧
      Leads (if distinct then "SELECT DISTINCT " else "SELECT ").toList
        (Operation.select.keyword.lexeme :: lexemes) := by
  refine ⟨_, ?_, leads_select distinct⟩
  cases distinct with
  | false => exact .nil
  | true => exact .single (by decide)

theorem leads_from (only : Bool) :
    Leads (if only then "FROM ONLY " else "FROM ").toList
      (Keyword.lexeme .«from» :: onlyLexemes only) := by
  cases only with
  | false => exact Keyword.leads .«from»
  | true => exact Keyword.leads_pair .«from» .only

theorem leads_update (only : Bool) :
    Leads (if only then "UPDATE ONLY " else "UPDATE ").toList
      (Operation.update.keyword.lexeme :: onlyLexemes only) := by
  cases only with
  | false => exact Keyword.leads .update
  | true => exact Keyword.leads_pair .update .only

/-! ## What is set apart -/

theorem setApart_asName (asName : Option String) : (asNameScript asName).SetApart := by
  cases asName with
  | none => exact .empty
  | some name =>
    simp only [asNameScript]
    split
    · exact .empty
    · exact .text ' ' (by decide) (by decide) (.text name)

theorem setApart_joins (joins : List Join) : (joinsScript joins).SetApart := by
  induction joins with
  | nil => exact .empty
  | cons join rest ih =>
    unfold joinsScript
    refine .append ?_ ih
    split
    · exact .empty
    · exact .text ' ' (by decide) (by decide) join.script

theorem setApart_onConflict (clause : Option OnConflict) : (onConflictScript clause).SetApart := by
  cases clause with
  | none => exact .empty
  | some clause => exact .text ' ' (by decide) (by decide) clause.script

theorem setApart_closing (trailingText comment : String) :
    (closingScript trailingText comment).SetApart :=
  .append (.clause _ _) (.clause _ _)

/-! ## SELECT statements -/

namespace Select

/-- What stands behind the table that a query reads from. -/
def clauses (query : Select) : Script :=
  joinsScript query.joins
    ++ .clause (lacksCondition query.filter) (Expression.conditionScript .filter query.filter)
    ++ .clause query.groupBy.isEmpty (groupByScript query.groupBy)
    ++ .clause (lacksCondition query.having) (Expression.conditionScript .having query.having)
    ++ .clause query.orderBy.isEmpty (orderByScript query.orderBy)
    ++ .clause query.limit.isNone (limitScript query.limit)
    ++ .clause query.offset.isNone (offsetScript query.offset)
    ++ closingScript query.trailingText query.comment

/-- What stands behind the queries that a query names. -/
def body (query : Select) : Script :=
  .text (if query.distinct then "SELECT DISTINCT " else "SELECT ")
    ++ (.commaSeparated (query.items.map SelectItem.script)
    ++ (.clause query.source.isEmpty query.source.script ++ query.clauses))

theorem script_eq (query : Select) :
    query.script = .require .selectItems query.items.isEmpty
      ++ (openingScript query.leadingText (WithQuery.scripts query.withQueries)
      ++ query.body) := by
  cases query
  simp only [Select.script, body, clauses, Script.append_assoc]

theorem setApart_clauses (query : Select) : query.clauses.SetApart :=
  (((((((setApart_joins _).append (.clause _ _)).append (.clause _ _)).append
    (.clause _ _)).append (.clause _ _)).append (.clause _ _)).append (.clause _ _)).append
      (setApart_closing _ _)

/-- A query of words names its table behind FROM, whatever its further clauses are. -/
theorem exists_path_of_body {query : Select} (plain : ∀ item ∈ query.items, item.IsPlain)
    (isWord : IsWord query.source.table.name) :
    ∃ between, Path .select between ∧
      query.body.Opens (Operation.select.keyword.lexeme :: between)
        (query.source.table.script ++ query.clauses) := by
  obtain ⟨distinctLexemes, passesDistinct, leadsSelect⟩ := exists_leads_select query.distinct
  obtain ⟨characters, lexemes, tells⟩ := SelectItem.exists_tells_list plain
  have present : query.source.isEmpty = false := isWord.word.isBlank_text
  have opensSelect := Script.Opens.text leadsSelect
    (.commaSeparated (query.items.map SelectItem.script)
      ++ (.clause query.source.isEmpty query.source.script ++ query.clauses))
  have opensItems := Script.Opens.of_writes (tells.writes.append (Script.writes_text " "))
    tells.spells.leads_blank (query.source.script ++ query.clauses)
  have opensFrom := (Script.Opens.text (leads_from query.source.only)
    query.source.table.script).append query.clauses
  have fromClause : Script.clause query.source.isEmpty query.source.script =
      .text " " ++ query.source.script := by
    rw [present]
    rfl
  rw [Script.append_assoc, ← Script.append_assoc (.text " "), ← fromClause] at opensItems
  have opens := opensSelect.trans (opensItems.trans opensFrom)
  refine ⟨distinctLexemes ++ lexemes ++ _ :: onlyLexemes query.source.only,
    .select (passesDistinct.append tells.passes) query.source.only, ?_⟩
  simpa only [body, List.cons_append, List.append_assoc] using opens

end Select

/-! ## The other statements -/

/-- What stands behind the table that rows are inserted into. -/
def Insert.clauses (statement : Insert) : Script :=
  (if statement.columns.isEmpty then .empty else columnNamesScript statement.columns)
    ++ .clause statement.source.isEmpty statement.source.script
    ++ onConflictScript statement.onConflict
    ++ .clause statement.returning.isEmpty (returningScript statement.returning)
    ++ closingScript statement.trailingText statement.comment

/-- What stands behind the table whose rows are updated. -/
def Update.clauses (statement : Update) : Script :=
  .text " " ++ setScript statement.assignments
    ++ .clause statement.source.isEmpty statement.source.script
    ++ .clause (lacksCondition statement.filter)
        (Expression.conditionScript .filter statement.filter)
    ++ .clause statement.returning.isEmpty (returningScript statement.returning)
    ++ closingScript statement.trailingText statement.comment

/-- What stands behind the table whose rows are deleted. -/
def Delete.clauses (statement : Delete) : Script :=
  .clause (statement.usingTables.all Table.isEmpty) (usingScript statement.usingTables)
    ++ .clause (lacksCondition statement.filter)
        (Expression.conditionScript .filter statement.filter)
    ++ .clause statement.returning.isEmpty (returningScript statement.returning)
    ++ closingScript statement.trailingText statement.comment

theorem Insert.setApart_clauses (statement : Insert) : statement.clauses.SetApart := by
  have columns : SetApart (if statement.columns.isEmpty then .empty
      else columnNamesScript statement.columns) := by
    split
    · exact .empty
    · rw [columnNamesScript, Script.append_assoc]
      exact .text ' ' (by decide) (by decide) _
  exact (((columns.append (.clause _ _)).append (setApart_onConflict _)).append
    (.clause _ _)).append (setApart_closing _ _)

theorem Update.setApart_clauses (statement : Update) : statement.clauses.SetApart := by
  have assignments : (Script.text " " ++ setScript statement.assignments).SetApart :=
    .text ' ' (by decide) (by decide) _
  exact (((assignments.append (.clause _ _)).append (.clause _ _)).append (.clause _ _)).append
    (setApart_closing _ _)

theorem Delete.setApart_clauses (statement : Delete) : statement.clauses.SetApart :=
  (((SetApart.clause _ _).append (.clause _ _)).append (.clause _ _)).append
    (setApart_closing _ _)

namespace Statement

def node : Statement → Node
  | select query => .select query
  | insert statement => .insert statement
  | update statement => .update statement
  | delete statement => .delete statement

def operation : Statement → Operation
  | select _ => .select
  | insert _ => .insert
  | update _ => .update
  | delete _ => .delete

/-- The table that is read from or changed. -/
def target : Statement → Table
  | select query => query.source.table
  | insert statement => statement.table
  | update statement => statement.table
  | delete statement => statement.source.table

def leadingText : Statement → String
  | select query => query.leadingText
  | insert statement => statement.leadingText
  | update statement => statement.leadingText
  | delete statement => statement.leadingText

def withQueries : Statement → List WithQuery
  | select query => query.withQueries
  | insert statement => statement.withQueries
  | update statement => statement.withQueries
  | delete statement => statement.withQueries

/-- The entries of the select list, if there is one, are made of words. -/
def HasPlainItems : Statement → Prop
  | select query => ∀ item ∈ query.items, item.IsPlain
  | _ => True

instance (statement : Statement) : Decidable statement.HasPlainItems :=
  match statement with
  | select query => inferInstanceAs (Decidable (∀ item ∈ query.items, item.IsPlain))
  | insert _ | update _ | delete _ => isTrue trivial

/-- What stands behind the named queries. -/
def body : Statement → Script
  | select query => query.body
  | insert statement =>
    .text "INSERT " ++ (.text "INTO " ++ (statement.table.script ++ statement.clauses))
  | update statement =>
    .text (if statement.only then "UPDATE ONLY " else "UPDATE ")
      ++ (statement.table.script ++ statement.clauses)
  | delete statement => .text "DELETE " ++ (statement.source.script ++ statement.clauses)

/-- A statement opens with its own text and the queries it names. -/
theorem script_opens (statement : Statement) :
    statement.node.script.Opens []
      (openingScript statement.leadingText (WithQuery.scripts statement.withQueries)
        ++ statement.body) := by
  cases statement with
  | select query =>
    change query.script.Opens [] _
    rw [query.script_eq]
    exact .require _ _ _
  | insert statement =>
    change statement.script.Opens [] _
    simp only [Insert.script, intoScript, leadingText, withQueries, body, Insert.clauses,
      Script.append_assoc]
    exact .require _ _ _
  | update statement =>
    change statement.script.Opens [] _
    simp only [Update.script, leadingText, withQueries, body, Update.clauses, Script.append_assoc]
    exact (Script.Opens.require _ _ _).trans (.require _ _ _)
  | delete statement =>
    change statement.script.Opens [] _
    simp only [Delete.script, leadingText, withQueries, body, Delete.clauses, Script.append_assoc]
    exact .require _ _ _

/-- What stands behind the table. -/
def clauses : Statement → Script
  | select query => query.clauses
  | insert statement => statement.clauses
  | update statement => statement.clauses
  | delete statement => statement.clauses

theorem setApart_clauses (statement : Statement) : statement.clauses.SetApart := by
  cases statement with
  | select query => exact query.setApart_clauses
  | insert statement => exact statement.setApart_clauses
  | update statement => exact statement.setApart_clauses
  | delete statement => exact statement.setApart_clauses

/-- Whatever the statement is made of, the operation comes first. -/
theorem exists_opens_operation (statement : Statement) :
    ∃ further rest,
      statement.body.Opens (statement.operation.keyword.lexeme :: further) rest := by
  cases statement with
  | select query =>
    obtain ⟨lexemes, -, leads⟩ := exists_leads_select query.distinct
    exact ⟨lexemes, _, .text leads _⟩
  | insert statement => exact ⟨[], _, .text (Keyword.leads .insert) _⟩
  | update statement => exact ⟨_, _, .text (leads_update statement.only) _⟩
  | delete statement => exact ⟨[], _, .text (Keyword.leads .delete) _⟩

/-- The table follows what the operation puts in front of it. -/
theorem exists_path_of_body {statement : Statement} (plain : statement.HasPlainItems)
    (isWord : IsWord statement.target.name) :
    ∃ between, Path statement.operation between ∧
      statement.body.Opens (statement.operation.keyword.lexeme :: between)
        (statement.target.script ++ statement.clauses) := by
  cases statement with
  | select query => exact Select.exists_path_of_body plain isWord
  | insert statement =>
    exact ⟨_, .insert,
      (Script.Opens.text (Keyword.leads .insert) _).trans (.text (Keyword.leads .into) _)⟩
  | update statement => exact ⟨_, .update statement.only, .text (leads_update statement.only) _⟩
  | delete statement =>
    have opensFrom := (Script.Opens.text (leads_from statement.source.only)
      statement.source.table.script).append statement.clauses
    exact ⟨_, .delete statement.source.only,
      (Script.Opens.text (Keyword.leads .delete) _).trans opensFrom⟩

end Statement

/-! ## The opening text -/

theorem trimmed_of_isBlank {text : String} (blank : isBlank text = true) : trimmed text = "" := by
  have dropped : text.toList.dropWhile Text.isSpace = [] :=
    List.dropWhile_eq_nil_iff.mpr (List.all_eq_true.mp blank)
  simp [trimmed, Text.trimmedCharacters, dropped]

theorem SpacedWords.eq_nil {words : List Word} (spaced : SpacedWords [] words) : words = [] := by
  generalize charactersEq : ([] : List Char) = characters at spaced
  cases spaced with
  | nil => rfl
  | blank spaced => cases charactersEq
  | word word spaced ends =>
    exact absurd (List.append_eq_nil_iff.mp charactersEq.symm).1 word.toList_ne_nil

/-- The text in front of a statement spells its words. -/
theorem opens_leadingText {leadingText : String} {words : List Word}
    (spaced : SpacedWords (trimmed leadingText).toList words) (rest : Script) :
    (Script.leading (isBlank leadingText) (outerTextScript leadingText) ++ rest).Opens
      (words.map Word.lexeme) rest := by
  cases blank : isBlank leadingText with
  | true =>
    rw [trimmed_of_isBlank blank] at spaced
    rw [spaced.eq_nil]
    exact .refl rest
  | false =>
    exact .of_writes ((Script.writes_text _).append (Script.writes_text " "))
      spaced.spells.leads_blank rest

/-- The named queries and the blank behind them, if there are any. -/
def queriesScript (queries : List WithQuery) : Script :=
  .leading (WithQuery.scripts queries).isEmpty (withScript (WithQuery.scripts queries))

/-- The queries that a statement names come behind the words of its own text. -/
theorem Statement.opens_words (statement : Statement) {words : List Word}
    (spaced : SpacedWords (trimmed statement.leadingText).toList words) :
    statement.node.script.Opens (words.map Word.lexeme)
      (queriesScript statement.withQueries ++ statement.body) := by
  have opens := statement.script_opens
  rw [openingScript, Script.append_assoc] at opens
  exact opens.trans (opens_leadingText spaced _)

/-- Without named queries, the statement itself comes behind the words of its text. -/
theorem Statement.opens_alone (statement : Statement) {words : List Word}
    (spaced : SpacedWords (trimmed statement.leadingText).toList words)
    (alone : statement.withQueries = []) :
    statement.node.script.Opens (words.map Word.lexeme) (statement.body ++ .empty) := by
  have opens := statement.opens_words spaced
  rw [alone] at opens
  rw [Script.append_empty]
  exact opens

/-! ## What an analysis finds -/

section Rendered

variable {node : Node} {mode : RenderMode} {context : Context mode} {lead : List Lexeme}
  {statement : Statement} {rest : Script}

/-- Where a statement follows a beginning that names no operation, its operation is found, if any.
-/
theorem operation_of_opens (rendered : node.render mode = .ok context)
    (opens : node.script.Opens lead (statement.body ++ rest)) (noOperation : NamesNoOperation lead)
    (noWith : ∀ first ∈ lead.head?, first.isWith = false) {found : Analysis}
    (analyzed : Parse.analysis context.sql .all = .ok found) :
    found.operation = some statement.operation := by
  obtain ⟨further, behind, opensOperation⟩ := statement.exists_opens_operation
  have opensAll := opens.trans (opensOperation.append rest)
  obtain ⟨tokens, stream, textTokens, spelled⟩ := Node.exists_tokens_of_opens rendered opensAll
  exact Parse.operation_of_lead textTokens noOperation noWith spelled analyzed

/-- Where a statement follows a beginning that names no operation, the statement's operation and
its table are found. -/
theorem analysis_of_opens (rendered : node.render mode = .ok context)
    (opens : node.script.Opens lead (statement.body ++ rest)) (apart : rest.SetApart)
    (noOperation : NamesNoOperation lead) (noWith : ∀ first ∈ lead.head?, first.isWith = false)
    (plain : statement.HasPlainItems) (isWord : IsWord statement.target.name) :
    Parse.analysis context.sql .all =
      .ok ⟨some statement.operation, some statement.target.name⟩ := by
  obtain ⟨between, path, opensPath⟩ := Statement.exists_path_of_body plain isWord
  have opensAll := opens.trans (opensPath.append rest)
  rw [Script.append_assoc, Table.script, Script.append_assoc] at opensAll
  have apartAll := (setApart_asName statement.target.asName).append
    (statement.setApart_clauses.append apart)
  obtain ⟨tokens, stream, textTokens, spelled⟩ :=
    @Node.exists_tokens_of_opens_word _ _ _ rendered _ isWord.word _ opensAll apartAll
  rw [List.append_assoc, List.cons_append] at spelled
  exact Parse.analysis_of_path textTokens noOperation noWith path spelled

end Rendered

theorem isWith_words {words : List Word}
    (noWith : ∀ first ∈ words.head?, Parse.spellsWith first.text = false) :
    ∀ first ∈ (words.map Word.lexeme).head?, first.isWith = false := by
  intro lexeme isFirst
  rw [List.head?_map] at isFirst
  obtain ⟨first, firstEq, rfl⟩ := Option.map_eq_some_iff.mp isFirst
  exact noWith first firstEq

/-- Whatever its clauses hold, a statement that names no queries is recognised once it has been
rendered: behind words of which the first is not WITH, the operation and the table of the statement
are found in every mode. -/
theorem Statement.analysis_of_render {statement : Statement} (plain : statement.HasPlainItems)
    (isWord : IsWord statement.target.name) (alone : statement.withQueries = [])
    {words : List Word} (spaced : SpacedWords (trimmed statement.leadingText).toList words)
    (noWith : ∀ first ∈ words.head?, Parse.spellsWith first.text = false) {mode : RenderMode}
    {context : Context mode} (rendered : statement.node.render mode = .ok context) :
    Parse.analysis context.sql .all =
      .ok ⟨some statement.operation, some statement.target.name⟩ := by
  have opens := statement.opens_alone spaced alone
  have noOperation := Parse.namesNoOperation_words words
  exact analysis_of_opens rendered opens .empty noOperation (isWith_words noWith) plain isWord

/-- A word that may stand in front of every statement. -/
def explainWord : Word :=
  @IsWord.word "EXPLAIN" (by decide)

/-- A count of rows in which a value looks like a statement. -/
def explainedCount : Select where
  leadingText := "EXPLAIN "
  items := [
    .column { name := "team", asName := some "name" },
    .aggregate { function := .count, argument := "*" }]
  source := { table := { name := "users", asName := some "u" }, only := true }
  filter := some (.binary (.identifier "note") (.comparison .equal)
    (.value (.text "; DELETE FROM notes")))

/-- What looks like a statement in a value is not taken for one. -/
theorem Statement.analysis_of_render_explained :
    ∃ context : Context .raw,
      (Statement.select explainedCount).node.render .raw = .ok context ∧
      context.sql = "EXPLAIN SELECT team AS name, COUNT(*) FROM ONLY users AS u " ++
        "WHERE (note = '; DELETE FROM notes')" ∧
      Parse.analysis context.sql .all = .ok ⟨some .select, some "users"⟩ := by
  have spaced : SpacedWords (trimmed "EXPLAIN ").toList [explainWord] := by
    rw [show trimmed "EXPLAIN " = "EXPLAIN" by decide]
    exact .single explainWord
  have noWith : ∀ first ∈ [explainWord].head?, Parse.spellsWith first.text = false := by
    rintro first ⟨⟩
    decide
  have unbroken : explainedCount.script.violation = none := by decide +kernel
  have sqlEq : Piece.textFrom RenderMode.raw.mark 0 explainedCount.script.pieces =
      "EXPLAIN SELECT team AS name, COUNT(*) FROM ONLY users AS u " ++
        "WHERE (note = '; DELETE FROM notes')" := by
    decide +kernel
  have rendered := Node.render_eq (.select explainedCount) .raw
  simp only [Node.script, unbroken] at rendered
  have analyzed := @Statement.analysis_of_render (.select explainedCount) (by decide) (by decide)
    rfl _ spaced noWith _ _ rendered
  exact ⟨_, rendered, sqlEq, analyzed⟩

end SqlTree
