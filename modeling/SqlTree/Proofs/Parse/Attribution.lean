import SqlTree.Proofs.Parse.Recognition

/-!
# Statements that name queries

A statement that begins with WITH is refused.  But only the first word is looked at: behind any
other word, WITH is passed over like the word itself, and the search goes on inside the queries that
the statement names.  There it finds the operation and the table of the query whose select list
comes first, and not those of the statement.
-/

namespace SqlTree

open Parse (NamesNoOperation spellsWith)
open Script (SetApart)
open Text (trimmed)

/-! ## The first query -/

/-- Among the named queries and the queries that these name in turn, this is the one whose select
list comes first in the text. -/
inductive FirstQuery : List WithQuery → Select → Prop where
  | named {name : String} {query : Select} {others : List WithQuery}
      (alone : query.withQueries = []) : FirstQuery (⟨name, query⟩ :: others) query
  | nested {name : String} {query inner : Select} {others : List WithQuery}
      (first : FirstQuery query.withQueries inner) : FirstQuery (⟨name, query⟩ :: others) inner

/-- All names of queries are words, and so is what stands in front of a query. -/
inductive PlainQueries : List WithQuery → Prop where
  | nil : PlainQueries []
  | cons {name : String} {query : Select} {others : List WithQuery} (isWord : IsWord name)
      {words : List Word} (spaced : SpacedWords (trimmed query.leadingText).toList words)
      (own : PlainQueries query.withQueries) (plainOthers : PlainQueries others) :
    PlainQueries (⟨name, query⟩ :: others)

theorem PlainQueries.exists_first {queries : List WithQuery} (plain : PlainQueries queries)
    (nonempty : queries ≠ []) : ∃ inner, FirstQuery queries inner := by
  induction plain with
  | nil => exact absurd rfl nonempty
  | @cons name query others isWord words spaced own plainOthers ownIH othersIH =>
    by_cases alone : query.withQueries = []
    · exact ⟨query, .named alone⟩
    · obtain ⟨inner, first⟩ := ownIH alone
      exact ⟨inner, .nested first⟩

theorem isWord_with : IsWord "WITH" := by
  decide

/-- The word WITH, which is no keyword. -/
def withWord : Word :=
  isWord_with.word

theorem leads_with : Leads "WITH ".toList [withWord.lexeme] :=
  withWord.spells.leads_blank

/-- The lexemes in front of a named query. -/
def namedLexemes (name : Word) : List Lexeme :=
  [name.lexeme, Keyword.lexeme .as, ⟨.openParenthesis, "("⟩]

theorem leads_named (name : Word) :
    Leads (name.text.toList ++ " AS (".toList) (namedLexemes name) := by
  have spells := name.spells.append (Keyword.spells .as).blank (Lexer.endsWord_blank _)
  have leads := spells.leads_blank.spells.leads_opening
  simpa [namedLexemes, Keyword.spelling] using leads

theorem namesNoOperation_named (name : Word) : NamesNoOperation (namedLexemes name) := by
  simp only [NamesNoOperation, namedLexemes, List.forall_mem_cons, name.operation?_lexeme]
  decide

theorem Script.exists_commaSeparated_cons (first : Script) (others : List Script) :
    ∃ further, Script.commaSeparated (first :: others) = first ++ further := by
  cases others with
  | nil => exact ⟨.empty, first.append_empty.symm⟩
  | cons next others => exact ⟨_, Script.append_assoc _ _ _⟩

theorem exists_queriesScript_cons (first : WithQuery) (others : List WithQuery) (rest : Script) :
    ∃ further : Script,
      queriesScript (first :: others) ++ rest = .text "WITH " ++ (first.script ++ further) := by
  obtain ⟨further, separatedEq⟩ :=
    Script.exists_commaSeparated_cons first.script (WithQuery.scripts others)
  refine ⟨further ++ (.text " " ++ rest), ?_⟩
  change withScript (first.script :: WithQuery.scripts others) ++ .text " " ++ rest = _
  simp only [withScript, separatedEq, Script.append_assoc]

/-- The first named query stands in parentheses behind its name. -/
theorem exists_opens_named {name : String} (isWord : IsWord name) (query : Select)
    (others : List WithQuery) (rest : Script) :
    ∃ behind : Script, behind.SetApart ∧
      (queriesScript (⟨name, query⟩ :: others) ++ rest).Opens
        (withWord.lexeme :: namedLexemes isWord.word) (query.script ++ behind) := by
  obtain ⟨further, queriesEq⟩ := exists_queriesScript_cons ⟨name, query⟩ others rest
  have opensName := Script.Opens.of_writes
    ((Script.writes_text name).append (Script.writes_text " AS (")) (leads_named isWord.word)
    (query.script ++ (.text ")" ++ further))
  refine ⟨.text ")" ++ further, .text ')' (by decide) (by decide) further, ?_⟩
  rw [queriesEq, WithQuery.script, Script.append_assoc, Script.append_assoc]
  exact (Script.Opens.text leads_with _).trans opensName

/-- The text of a statement that names queries goes on, behind lexemes that name no operation, with
the query that comes first.  The induction goes from a query to the first one that it names. -/
theorem FirstQuery.exists_opens {queries : List WithQuery} {inner : Select}
    (first : FirstQuery queries inner) (plain : PlainQueries queries) (rest : Script) :
    ∃ lead behind, NamesNoOperation lead ∧ behind.SetApart ∧
      (queriesScript queries ++ rest).Opens (withWord.lexeme :: lead) (inner.body ++ behind) := by
  induction first generalizing rest with
  | @named name query others alone =>
    cases plain with
    | @cons _ _ _ isWord words spaced own plainOthers =>
      obtain ⟨behind, apart, opensNamed⟩ := exists_opens_named isWord query others rest
      have opensOwn := (Statement.select query).opens_alone spaced alone
      rw [Script.append_empty] at opensOwn
      exact ⟨_, behind, (namesNoOperation_named isWord.word).append
        (Parse.namesNoOperation_words words), apart, opensNamed.trans (opensOwn.append behind)⟩
  | @nested name query inner others first ih =>
    cases plain with
    | @cons _ _ _ isWord words spaced own plainOthers =>
      obtain ⟨behind, apart, opensNamed⟩ := exists_opens_named isWord query others rest
      have opensOwn := ((Statement.select query).opens_words spaced).append behind
      rw [Script.append_assoc] at opensOwn
      obtain ⟨lead, innerBehind, noOperation, innerApart, opensInner⟩ :=
        ih own (query.body ++ behind)
      have leadNames : NamesNoOperation (withWord.lexeme :: lead) :=
        List.forall_mem_cons.mpr ⟨rfl, noOperation⟩
      exact ⟨_, innerBehind, (namesNoOperation_named isWord.word).append
        ((Parse.namesNoOperation_words words).append leadNames), innerApart,
        opensNamed.trans (opensOwn.trans opensInner)⟩

/-! ## Statements -/

theorem analysis_of_opens_with {node : Node} {mode : RenderMode} {context : Context mode}
    (rendered : node.render mode = .ok context) {first : Lexeme} {others : List Lexeme}
    {rest : Script} (opens : node.script.Opens (first :: others) rest)
    (isWith : first.isWith = true) :
    ∃ error, Parse.analysis context.sql .all = .error error ∧ error.grammar = .query ∧
      error.cause = .withStatement := by
  obtain ⟨tokens, stream, textTokens, spelled⟩ := Node.exists_tokens_of_opens rendered opens
  exact Parse.analysis_of_isWith textTokens spelled isWith

namespace Statement

variable {statement : Statement} {words : List Word} {mode : RenderMode} {context : Context mode}

/-- Only the first word is looked at when statements with WITH are refused. -/
theorem refused_of_with
    (spaced : SpacedWords (trimmed statement.leadingText).toList words)
    (rendered : statement.node.render mode = .ok context)
    (isWith : (∃ first ∈ words.head?, spellsWith first.text = true) ∨
      words = [] ∧ statement.withQueries ≠ []) :
    ∃ error, Parse.analysis context.sql .all = .error error ∧ error.grammar = .query ∧
      error.cause = .withStatement := by
  have opens := statement.opens_words spaced
  rcases isWith with ⟨first, isFirst, spelled⟩ | ⟨rfl, named⟩
  · obtain ⟨others, rfl⟩ := List.head?_eq_some_iff.mp isFirst
    exact analysis_of_opens_with rendered opens spelled
  · obtain ⟨query, others, queriesEq⟩ := List.exists_cons_of_ne_nil named
    rw [queriesEq] at opens
    obtain ⟨further, leadingEq⟩ := exists_queriesScript_cons query others statement.body
    rw [leadingEq] at opens
    exact analysis_of_opens_with rendered (opens.trans (.text leads_with _)) (by decide)

/-- Behind a word other than WITH, the query whose select list comes first is taken for the
statement. -/
theorem attributed_to_first
    (spaced : SpacedWords (trimmed statement.leadingText).toList words)
    (rendered : statement.node.render mode = .ok context) (preceded : words ≠ [])
    (noWith : ∀ first ∈ words.head?, spellsWith first.text = false)
    (plainQueries : PlainQueries statement.withQueries) {inner : Select}
    (first : FirstQuery statement.withQueries inner) :
    (∀ found, Parse.analysis context.sql .all = .ok found → found.operation = some .select) ∧
    ((∀ item ∈ inner.items, item.IsPlain) → IsWord inner.source.table.name →
      Parse.analysis context.sql .all = .ok ⟨some .select, some inner.source.table.name⟩) := by
  obtain ⟨lead, behind, noOperation, apart, opensFirst⟩ :=
    first.exists_opens plainQueries statement.body
  have opens := (statement.opens_words spaced).trans opensFirst
  have leadNames : NamesNoOperation (words.map Word.lexeme ++ withWord.lexeme :: lead) :=
    (Parse.namesNoOperation_words words).append (List.forall_mem_cons.mpr ⟨rfl, noOperation⟩)
  have leadNoWith : ∀ lexeme ∈ (words.map Word.lexeme ++ withWord.lexeme :: lead).head?,
      lexeme.isWith = false := by
    have wordsNoWith := isWith_words noWith
    cases words with
    | nil => exact absurd rfl preceded
    | cons word words => exact wordsNoWith
  constructor
  · intro found analyzed
    exact @operation_of_opens _ _ _ _ (.select inner) _ rendered opens leadNames leadNoWith _
      analyzed
  · intro plain isWord
    exact @analysis_of_opens _ _ _ _ (.select inner) _ rendered opens apart leadNames leadNoWith
      plain isWord

end Statement

/-- A statement that begins with WITH is refused, and one that names no queries is attributed to
itself.  But a statement that names queries behind another word is attributed to the query whose
select list comes first. -/
theorem Statement.analysis_of_render_with_queries {statement : Statement} {words : List Word}
    (spaced : SpacedWords (trimmed statement.leadingText).toList words) {mode : RenderMode}
    {context : Context mode} (rendered : statement.node.render mode = .ok context) :
    ((∃ first ∈ words.head?, spellsWith first.text = true) ∨
        words = [] ∧ statement.withQueries ≠ [] →
      ∃ error, Parse.analysis context.sql .all = .error error ∧ error.grammar = .query ∧
        error.cause = .withStatement) ∧
    ((∀ first ∈ words.head?, spellsWith first.text = false) →
      (statement.withQueries = [] →
        (∀ found, Parse.analysis context.sql .all = .ok found →
          found.operation = some statement.operation) ∧
        (statement.HasPlainItems → IsWord statement.target.name →
          Parse.analysis context.sql .all =
            .ok ⟨some statement.operation, some statement.target.name⟩)) ∧
      (words ≠ [] → statement.withQueries ≠ [] → PlainQueries statement.withQueries →
        (∃ inner, FirstQuery statement.withQueries inner) ∧
        ∀ inner, FirstQuery statement.withQueries inner →
          (∀ found, Parse.analysis context.sql .all = .ok found →
            found.operation = some .select) ∧
          ((∀ item ∈ inner.items, item.IsPlain) → IsWord inner.source.table.name →
            Parse.analysis context.sql .all =
              .ok ⟨some .select, some inner.source.table.name⟩))) := by
  refine ⟨refused_of_with spaced rendered, fun noWith => ⟨fun alone => ?_, ?_⟩⟩
  · have opens := statement.opens_alone spaced alone
    exact ⟨fun found => operation_of_opens rendered opens
        (Parse.namesNoOperation_words words) (isWith_words noWith),
      analysis_of_opens rendered opens .empty (Parse.namesNoOperation_words words)
        (isWith_words noWith)⟩
  · intro preceded named plainQueries
    refine ⟨plainQueries.exists_first named, fun inner first => ?_⟩
    exact attributed_to_first spaced rendered preceded noWith plainQueries first

/-- An update that names a query which names another one, behind a word of its own. -/
def explainedUpdate : Update where
  leadingText := "EXPLAIN"
  withQueries := [⟨"recent", {
    withQueries := [⟨"stale", {
      items := [.column { name := "id" }]
      source := { table := { name := "sessions" } } }⟩]
    items := [.column { name := "id" }]
    source := { table := { name := "logins" } } }⟩]
  table := { name := "users" }
  assignments := [⟨{ name := "active" }, .value (.boolean true)⟩]

/-- An update is taken for the innermost query. -/
theorem Statement.update_taken_for_innermost_query :
    ∃ context : Context .named,
      (Statement.update explainedUpdate).node.render .named = .ok context ∧
      context.sql = "EXPLAIN WITH recent AS (WITH stale AS (SELECT id FROM sessions) " ++
        "SELECT id FROM logins) UPDATE users SET active = :arg_1" ∧
      Parse.analysis context.sql .all = .ok ⟨some .select, some "sessions"⟩ := by
  have spaced : SpacedWords (trimmed "EXPLAIN").toList [explainWord] := by
    rw [show trimmed "EXPLAIN" = "EXPLAIN" by decide]
    exact .single explainWord
  have noWith : ∀ first ∈ [explainWord].head?, spellsWith first.text = false := by
    rintro first ⟨⟩
    decide
  have noText : SpacedWords (trimmed "").toList [] := by
    rw [show trimmed "" = "" by decide]
    exact .nil
  have first : FirstQuery (Statement.update explainedUpdate).withQueries _ :=
    .nested (.named rfl)
  have plainQueries : PlainQueries (Statement.update explainedUpdate).withQueries :=
    .cons (by decide) noText (.cons (by decide) noText .nil .nil) .nil
  have unbroken : explainedUpdate.script.violation = none := by decide +kernel
  have sqlEq : Piece.textFrom RenderMode.named.mark 0 explainedUpdate.script.pieces =
      "EXPLAIN WITH recent AS (WITH stale AS (SELECT id FROM sessions) " ++
        "SELECT id FROM logins) UPDATE users SET active = :arg_1" := by
    decide +kernel
  have rendered := Node.render_eq (.update explainedUpdate) .named
  simp only [Node.script, unbroken] at rendered
  obtain ⟨-, unrefused⟩ := @Statement.analysis_of_render_with_queries (.update explainedUpdate) _
    spaced _ _ rendered
  obtain ⟨-, attributed⟩ :=
    (unrefused noWith).2 (List.cons_ne_nil _ _) (List.cons_ne_nil _ _) plainQueries
  exact ⟨_, rendered, sqlEq, (attributed _ first).2 (by decide) (by decide)⟩

/-- A deletion that names a query behind a word of its own. -/
def explainedDeletion : Delete where
  leadingText := "EXPLAIN"
  withQueries := [⟨"stale", {
    items := [.column { name := "id" }]
    source := { table := { name := "sessions" } }
    limit := some 10 }⟩]
  source := { table := { name := "users" } }

/-- The rows of one table are deleted, but a query on another one is found. -/
theorem Statement.deletion_taken_for_query :
    ∃ context : Context .positional,
      (Statement.delete explainedDeletion).node.render .positional = .ok context ∧
      context.sql =
        "EXPLAIN WITH stale AS (SELECT id FROM sessions LIMIT 10) DELETE FROM users" ∧
      (Statement.delete explainedDeletion).operation = .delete ∧
      (Statement.delete explainedDeletion).target.name = "users" ∧
      Parse.analysis context.sql .all = .ok ⟨some .select, some "sessions"⟩ := by
  have unbroken : explainedDeletion.script.violation = none := by decide +kernel
  have sqlEq : Piece.textFrom RenderMode.positional.mark 0 explainedDeletion.script.pieces =
      "EXPLAIN WITH stale AS (SELECT id FROM sessions LIMIT 10) DELETE FROM users" := by
    decide +kernel
  have rendered := Node.render_eq (.delete explainedDeletion) .positional
  simp only [Node.script, unbroken] at rendered
  refine ⟨_, rendered, sqlEq, rfl, rfl, ?_⟩
  rw [sqlEq]
  decide +kernel

end SqlTree
