import SqlTree.Proofs.Parse.JoinRoundTrip
import SqlTree.Proofs.Parse.Queries
import SqlTree.Proofs.Parse.Recognition
import SqlTree.Proofs.Render.CompleteTrees

/-!
# Rendered queries are read back up to their table

A query whose select list and table are made of words is rendered with them first.  Every clause
that can stand behind them begins with a keyword or a comment, with which neither a select list nor
a table goes on.  So the select list and the table are read back, whatever the clauses are.
-/

namespace SqlTree

open Lexer (EndsWord)
open Script (SetApart)
open Text (trimmed isBlank)

/-! ## What stands behind a query -/

/-- Unless it breaks off, the script is nothing or begins with texts that lead to a lexeme with which
a query does not go on. -/
def Script.FollowsQuery (script : Script) : Prop :=
  script.violation = none → script.pieces = [] ∨
    ∃ (texts : List String) (further : List Piece) (lead others : List Char) (lexeme : Lexeme),
      script.pieces = texts.map .text ++ further ∧ texts.flatMap String.toList = lead ++ others ∧
      Leads lead [lexeme] ∧ lexeme.kind ∉ [.comma, .keyword .as, .keyword .«from»]

namespace Script.FollowsQuery

theorem empty : Script.empty.FollowsQuery :=
  fun _ => .inl rfl

theorem append {first second : Script} (firstFollows : first.FollowsQuery)
    (secondFollows : second.FollowsQuery) : (first ++ second).FollowsQuery := by
  intro unbroken
  obtain ⟨firstUnbroken, secondUnbroken⟩ := violation_append.mp unbroken
  rw [pieces_append firstUnbroken]
  rcases firstFollows firstUnbroken with
    nothing | ⟨texts, further, lead, others, lexeme, pieces, begins⟩
  · rw [nothing, List.nil_append]
    exact secondFollows secondUnbroken
  · refine .inr ⟨texts, further ++ second.pieces, lead, others, lexeme, ?_, begins⟩
    rw [pieces, List.append_assoc]

theorem of_leads {content : String} {lead others : List Char} {lexeme : Lexeme}
    (begins : content.toList = lead ++ others) (leads : Leads lead [lexeme])
    (ends : lexeme.kind ∉ [.comma, .keyword .as, .keyword .«from»]) (rest : Script) :
    (Script.text " " ++ (Script.text content ++ rest)).FollowsQuery := by
  intro unbroken
  have leadsBlank : Leads ([' '] ++ lead) ([] ++ [lexeme]) := Spells.nil.leads_blank.append leads
  refine .inr ⟨[" ", content], rest.pieces, [' '] ++ lead, others, lexeme, rfl, ?_, leadsBlank, ends⟩
  simp [begins]

theorem keyword (keyword : Keyword) (ends : keyword ∉ [.as, .«from»]) {content : String}
    (others : List Char) (begins : content.toList = (keyword.spelling ++ " ").toList ++ others)
    (rest : Script) : (Script.text " " ++ (Script.text content ++ rest)).FollowsQuery := by
  apply of_leads begins keyword.leads
  simpa [Keyword.lexeme] using ends

/-- A clause that is there begins with its keyword. -/
theorem clause {isAbsent : Bool} {script : Script}
    (follows : isAbsent = false → (Script.text " " ++ script).FollowsQuery) :
    (Script.clause isAbsent script).FollowsQuery := by
  cases isAbsent with
  | true => exact empty
  | false => exact follows rfl

end Script.FollowsQuery

open Script (FollowsQuery)

theorem Leads.mark {mark : Char} (noWord : isWordCharacter mark = false)
    (visible : Lexer.isLayout false mark = false) :
    Leads [mark] [⟨punctuationKind mark, punctuationText mark⟩] :=
  fun rest offset => ⟨_, rfl, Lexer.cuts_mark noWord visible rest offset⟩

theorem followsQuery_join (join : Join) : (Script.text " " ++ join.script).FollowsQuery := by
  have kindBegins (kind : JoinKind) :
      kind.text.toList = (kind.keyword.spelling ++ " ").toList ++ "JOIN".toList := by
    cases kind <;> decide
  have noQuery (kind : JoinKind) : kind.keyword ∉ [.as, .«from»] := by
    cases kind <;> decide
  cases noTable : join.table.isEmpty with
  | true =>
    intro unbroken
    rw [Join.script, noTable] at unbroken
    cases unbroken
  | false =>
    rw [Join.script, noTable, Script.require_false]
    simp only [Script.append_assoc, Script.empty_append]
    exact .keyword join.kind.keyword (noQuery _) _ (kindBegins _) _

theorem followsQuery_joins (joins : List Join) : (joinsScript joins).FollowsQuery := by
  induction joins with
  | nil => exact .empty
  | cons join rest ih =>
    rw [joinsScript]
    refine .append ?_ ih
    split
    · exact .empty
    · exact followsQuery_join join

theorem followsQuery_condition (clause : ConditionClause) (condition : Option Expression) :
    (Script.clause (lacksCondition condition)
      (Expression.conditionScript clause condition)).FollowsQuery := by
  apply FollowsQuery.clause
  intro present
  cases condition with
  | none => cases present
  | some condition =>
    cases clause with
    | filter => exact .keyword .«where» (by decide) [] rfl _
    | having => exact .keyword .having (by decide) [] rfl _

theorem followsQuery_closing {trailingText : String} (noTrailing : isBlank trailingText = true)
    (comment : String) : (closingScript trailingText comment).FollowsQuery := by
  rw [closingScript, noTrailing]
  refine FollowsQuery.append .empty (.clause fun _ => ?_)
  rw [commentScript, Script.append_assoc]
  have begins : "/* ".toList = ['/'] ++ "* ".toList := rfl
  exact .of_leads begins (.mark (by decide) (by decide)) (by decide) _

/-- The word in front of a count is a clause by itself. -/
theorem followsQuery_count (keyword : Keyword) (ends : keyword ∉ [.as, .«from»]) (count : UInt64) :
    (Script.text " " ++
      Script.text (keyword.spelling ++ " " ++ toString count.toNat)).FollowsQuery := by
  have follows : (Script.text " " ++
      (Script.text (keyword.spelling ++ " " ++ toString count.toNat) ++ .empty)).FollowsQuery :=
    .keyword keyword ends _ String.toList_append _
  rw [Script.append_empty] at follows
  exact follows

/-- Whatever the clauses of a query are, the query up to its table does not go on with them. -/
theorem Select.followsQuery_clauses {query : Select}
    (noTrailing : isBlank query.trailingText = true) : query.clauses.FollowsQuery := by
  have group : (Script.clause query.groupBy.isEmpty (groupByScript query.groupBy)).FollowsQuery :=
    .clause fun _ => .keyword .group (by decide) "BY ".toList (by decide) _
  have order : (Script.clause query.orderBy.isEmpty (orderByScript query.orderBy)).FollowsQuery :=
    .clause fun _ => .keyword .order (by decide) "BY ".toList (by decide) _
  have limit : (Script.clause query.limit.isNone (limitScript query.limit)).FollowsQuery := by
    cases query.limit with
    | none => exact .empty
    | some count => exact followsQuery_count .limit (by decide) count
  have offset : (Script.clause query.offset.isNone (offsetScript query.offset)).FollowsQuery := by
    cases query.offset with
    | none => exact .empty
    | some count => exact followsQuery_count .offset (by decide) count
  exact (((((((followsQuery_joins _).append (followsQuery_condition _ _)).append group).append
    (followsQuery_condition _ _)).append order).append limit).append offset).append
      (followsQuery_closing noTrailing _)

/-- The tokens of what follows a query do not go on with it. -/
theorem Script.FollowsQuery.endsQuery {script : Script} (follows : script.FollowsQuery)
    (unbroken : script.violation = none) (mark : Nat → Scalar → String) (bound offset : Nat) :
    EndsQuery (Lexer.stream ⟨(Piece.textFrom mark bound script.pieces).toList, offset, false⟩).ahead
    := by
  intro token isFirst
  rcases follows unbroken with
    nothing | ⟨texts, further, lead, others, lexeme, pieces, textsEq, leads, ends⟩
  · rw [nothing, Piece.textFrom, String.toList_empty, Lexer.stream_nil] at isFirst
    cases isFirst
  · rw [pieces, Piece.toList_textFrom_texts, textsEq, List.append_assoc] at isFirst
    obtain ⟨tokens, spelled, cuts⟩ := leads _ offset
    obtain ⟨first, rest, rfl, firstSpelled, -⟩ := List.map_eq_cons_iff.mp spelled
    rw [cuts] at isFirst
    cases isFirst
    rw [← firstSpelled] at ends
    exact ends

/-! ## What a query is rendered as -/

/-- The script is texts alone, and the tokens that they are cut into name what is asked for. -/
def Script.Says (script : Script) (names : List Token → Prop) : Prop :=
  ∃ characters lexemes, script.Writes characters ∧ Spells characters lexemes ∧
    ∀ tokens, tokens.map Token.lexeme = lexemes → names tokens

theorem Script.Writes.endsWord {script : Script} {characters : List Char}
    (writes : script.Writes characters) (apart : script.SetApart) : EndsWord characters := by
  obtain ⟨-, texts, pieces, rfl⟩ := writes
  have ends := apart.endsWord (fun _ _ => "") 0
  rw [pieces, ← List.append_nil (texts.map _), Piece.toList_textFrom_texts] at ends
  simpa [Piece.textFrom] using ends

namespace Script.Says

variable {first second : Script} {firstNames secondNames names : List Token → Prop}

theorem append (saysFirst : first.Says firstNames) (saysSecond : second.Says secondNames)
    (apart : second.SetApart)
    (named : ∀ firstTokens secondTokens, firstNames firstTokens → secondNames secondTokens →
      names (firstTokens ++ secondTokens)) :
    (first ++ second).Says names := by
  obtain ⟨firstCharacters, firstLexemes, writesFirst, spellsFirst, namedFirst⟩ := saysFirst
  obtain ⟨secondCharacters, secondLexemes, writesSecond, spellsSecond, namedSecond⟩ := saysSecond
  refine ⟨_, _, writesFirst.append writesSecond,
    spellsFirst.append spellsSecond (writesSecond.endsWord apart), fun tokens spelled => ?_⟩
  obtain ⟨firstTokens, secondTokens, rfl, firstSpelled, secondSpelled⟩ :=
    List.map_eq_append_iff.mp spelled
  exact named _ _ (namedFirst _ firstSpelled) (namedSecond _ secondSpelled)

/-- A text that leads to its lexemes may stand in front of anything. -/
theorem lead {content : String} {lexemes : List Lexeme} (leads : Leads content.toList lexemes)
    (saysSecond : second.Says secondNames)
    (named : ∀ firstTokens secondTokens, firstTokens.map Token.lexeme = lexemes →
      secondNames secondTokens → names (firstTokens ++ secondTokens)) :
    (Script.text content ++ second).Says names := by
  obtain ⟨secondCharacters, secondLexemes, writesSecond, spellsSecond, namedSecond⟩ := saysSecond
  refine ⟨_, _, (Script.writes_text content).append writesSecond,
    leads.append_spells spellsSecond, fun tokens spelled => ?_⟩
  obtain ⟨firstTokens, secondTokens, rfl, firstSpelled, secondSpelled⟩ :=
    List.map_eq_append_iff.mp spelled
  exact named _ _ firstSpelled (namedSecond _ secondSpelled)

theorem imp (saysFirst : first.Says firstNames)
    (weaker : ∀ tokens, firstNames tokens → names tokens) : first.Says names := by
  obtain ⟨characters, lexemes, writes, spells, named⟩ := saysFirst
  exact ⟨characters, lexemes, writes, spells, fun tokens spelled => weaker _ (named _ spelled)⟩

end Script.Says

theorem PlainTable.writes_script (given : PlainTable) :
    given.table.script.Writes given.text.toList := by
  obtain ⟨name, asName⟩ := given
  cases asName with
  | none =>
    rw [table, Table.script, Option.map_none, asNameScript, Script.append_empty]
    exact Script.writes_text name.text
  | some asName =>
    have writes := (Script.writes_text name.text).append
      ((Script.writes_text " AS ").append (Script.writes_text asName.text))
    simpa [table, text, Table.script, asNameScript, asName.isBlank_text] using writes

theorem says_table {table : Table} (isWord : IsWord table.name)
    (plain : IsPlainAsName table.asName) : table.script.Says (NamesTable · table) := by
  obtain ⟨given, rfl⟩ : ∃ given : PlainTable, given.table = table := by
    obtain ⟨name, asName⟩ := table
    cases asName with
    | none => exact ⟨⟨isWord.word, none⟩, rfl⟩
    | some asName => exact ⟨⟨isWord.word, some (plain asName rfl).word⟩, rfl⟩
  have spells := given.spells Spells.nil Lexer.endsWord_nil
  rw [List.append_nil, List.append_nil] at spells
  exact ⟨_, _, given.writes_script, spells, fun tokens spelled => given.names spelled⟩

/-- The entry is `*`, or a column that is named by words. -/
def SelectItem.IsReadable : SelectItem → Prop
  | .column named => IsWord named.name ∧ IsPlainAsName named.asName
  | .fragment text => text = "*"
  | .aggregate _ => False

instance (item : SelectItem) : Decidable item.IsReadable :=
  match item with
  | .column _ => inferInstanceAs (Decidable (_ ∧ _))
  | .fragment _ => inferInstanceAs (Decidable (_ = _))
  | .aggregate _ => isFalse id

/-- There is no table, or one that is named by words. -/
def FromClause.IsReadable (source : FromClause) : Prop :=
  source = {} ∨ IsWord source.table.name ∧ IsPlainAsName source.table.asName

instance (source : FromClause) : Decidable source.IsReadable :=
  inferInstanceAs (Decidable (_ ∨ _))

theorem says_item {item : SelectItem} (readable : item.IsReadable) :
    item.script.Says (NamesItem · item) := by
  cases item with
  | column named =>
    have saysTable := @says_table ⟨named.name, named.asName⟩ readable.1 readable.2
    exact saysTable.imp fun tokens names => .column names
  | fragment text =>
    obtain rfl : text = "*" := readable
    have leads : Leads "*".toList [⟨.asterisk, "*"⟩] := .mark (by decide) (by decide)
    refine ⟨_, _, Script.writes_text _, leads.spells, fun tokens spelled => ?_⟩
    obtain ⟨token, rfl, spelledAll⟩ := List.map_eq_singleton_iff.mp spelled
    exact .all (congrArg Lexeme.kind spelledAll)
  | aggregate call => exact readable.elim

/-- The entries of a list are set apart by the commas between them. -/
theorem says_items {items : List SelectItem} (nonempty : items ≠ [])
    (readable : ∀ item ∈ items, item.IsReadable) :
    (Script.commaSeparated (items.map SelectItem.script)).Says (NamesItems · items) := by
  induction items with
  | nil => exact absurd rfl nonempty
  | cons item rest ih =>
    obtain ⟨itemReadable, restReadable⟩ := List.forall_mem_cons.mp readable
    have saysItem := says_item itemReadable
    cases rest with
    | nil => exact saysItem.imp fun tokens names => .single names
    | cons next rest =>
      have saysRest := ih (List.cons_ne_nil _ _) restReadable
      have leadsComma : Leads ", ".toList [⟨.comma, ","⟩] :=
        (Leads.mark (by decide) (by decide)).spells.leads_blank
      have saysBehind : (Script.text ", " ++
          Script.commaSeparated ((next :: rest).map SelectItem.script)).Says fun tokens =>
            ∃ comma others, tokens = comma :: others ∧ comma.kind = .comma ∧
              NamesItems others (next :: rest) := by
        refine saysRest.lead leadsComma fun commaTokens others spelled names => ?_
        obtain ⟨comma, rfl, separates⟩ := List.map_eq_singleton_iff.mp spelled
        exact ⟨comma, others, rfl, congrArg Lexeme.kind separates, names⟩
      have saysAll : (item.script ++ (Script.text ", " ++
          Script.commaSeparated ((next :: rest).map SelectItem.script))).Says
            (NamesItems · (item :: next :: rest)) := by
        refine saysItem.append saysBehind (.text ',' (by decide) (by decide) _) ?_
        rintro itemTokens - namesItem ⟨comma, others, rfl, separates, namesOthers⟩
        exact .more namesItem separates namesOthers
      rw [← Script.append_assoc] at saysAll
      exact saysAll

theorem says_source {source : FromClause} (readable : source.IsReadable) :
    (Script.clause source.isEmpty source.script).Says (NamesSource · source) := by
  rcases readable with rfl | ⟨isWord, plain⟩
  · refine ⟨[], [], Script.writes_empty, .nil, fun tokens spelled => ?_⟩
    obtain rfl := List.map_eq_nil_iff.mp spelled
    exact .absent
  · have present : source.isEmpty = false := isWord.word.isBlank_text
    have saysFrom : source.script.Says (NamesSource · source) := by
      refine (says_table isWord plain).lead (leads_from source.only) ?_
      intro fromTokens tokens spelled names
      obtain ⟨fromToken, onlyTokens, rfl, begins, spelledOnly⟩ := List.map_eq_cons_iff.mp spelled
      exact .table (congrArg Lexeme.kind begins) (.of_lexemes spelledOnly) names
    have saysClause : (Script.text " " ++ source.script).Says (NamesSource · source) := by
      refine saysFrom.lead Spells.nil.leads_blank fun noTokens tokens spelled names => ?_
      obtain rfl := List.map_eq_nil_iff.mp spelled
      exact names
    rw [present]
    exact saysClause

/-! ## Queries -/

namespace Select

/-- The query with nothing behind its table. -/
def upToTable (query : Select) : Select :=
  { distinct := query.distinct, items := query.items, source := query.source }

/-- The query stands alone, and its select list and its table are made of words.  Nothing is said of
its other clauses. -/
structure IsReadable (query : Select) : Prop where
  alone : query.withQueries = []
  noLeading : isBlank query.leadingText = true
  noTrailing : isBlank query.trailingText = true
  items : ∀ item ∈ query.items, item.IsReadable
  source : query.source.IsReadable

/-- What a query is rendered as up to its table. -/
def head (query : Select) : Script :=
  .text (if query.distinct then "SELECT DISTINCT " else "SELECT ")
    ++ (.commaSeparated (query.items.map SelectItem.script)
    ++ .clause query.source.isEmpty query.source.script)

theorem body_eq (query : Select) : query.body = query.head ++ query.clauses := by
  simp only [body, head, Script.append_assoc]

theorem says_head {query : Select} (nonempty : query.items ≠ [])
    (items : ∀ item ∈ query.items, item.IsReadable) (source : query.source.IsReadable) :
    query.head.Says (NamesQuery · query.upToTable) := by
  have saysBoth : (Script.commaSeparated (query.items.map SelectItem.script)
      ++ .clause query.source.isEmpty query.source.script).Says fun tokens =>
        ∃ itemTokens sourceTokens, tokens = itemTokens ++ sourceTokens ∧
          NamesItems itemTokens query.items ∧ NamesSource sourceTokens query.source := by
    refine (says_items nonempty items).append (says_source source) (.clause _ _) ?_
    exact fun itemTokens sourceTokens namesItems namesSource =>
      ⟨itemTokens, sourceTokens, rfl, namesItems, namesSource⟩
  refine saysBoth.lead (leads_select query.distinct) ?_
  rintro selectTokens - spelled ⟨itemTokens, sourceTokens, rfl, namesItems, namesSource⟩
  obtain ⟨selectToken, distinctTokens, rfl, selects, spelledDistinct⟩ :=
    List.map_eq_cons_iff.mp spelled
  exact .query (congrArg Lexeme.kind selects) (.of_lexemes spelledDistinct) namesItems namesSource

theorem nonempty_of_render {query : Select} {mode : RenderMode} {context : Context mode}
    (rendered : (Node.select query).render mode = .ok context) : query.items ≠ [] := by
  intro empty
  obtain ⟨unbroken, -⟩ := Node.sql_eq_of_render rendered
  rw [Node.script, Select.script_of_isEmpty (by simp [isEmpty, empty])] at unbroken
  cases unbroken

/-- The first tokens of a rendered query name it up to its table, and the tokens of its clauses, with
which it does not go on, stand behind them. -/
theorem exists_names_of_render {query : Select} (readable : query.IsReadable)
    {mode : RenderMode} {context : Context mode}
    (rendered : (Node.select query).render mode = .ok context) :
    ∃ tokens offset, TokenStream.ofText context.sql = TokenStream.prepend tokens
        (Lexer.stream ⟨(Piece.textFrom mode.mark 0 query.clauses.pieces).toList, offset, false⟩) ∧
      NamesQuery tokens query.upToTable ∧
      EndsQuery (Lexer.stream
        ⟨(Piece.textFrom mode.mark 0 query.clauses.pieces).toList, offset, false⟩).ahead := by
  -- A blank text in front of the query has no words.
  have spaced : SpacedWords (trimmed query.leadingText).toList [] := by
    rw [trimmed_of_isBlank readable.noLeading]
    exact .nil
  have opens := (Statement.select query).opens_alone spaced readable.alone
  rw [Script.append_empty, Statement.body, query.body_eq] at opens
  obtain ⟨characters, lexemes, writes, spells, names⟩ :=
    says_head (nonempty_of_render rendered) readable.items readable.source
  obtain ⟨unbroken, tokens, offset, streamEq, spelled⟩ :=
    Node.exists_stream_of_writes rendered opens writes spells query.setApart_clauses
  exact ⟨tokens, offset, streamEq, names tokens spelled,
    (followsQuery_clauses readable.noTrailing).endsQuery unbroken mode.mark 0 offset⟩

/-- What follows the table cannot be taken for a part of the query up to its table. -/
theorem select_of_render_of_isReadable {query : Select} (readable : query.IsReadable)
    {mode : RenderMode} {context : Context mode}
    (rendered : (Node.select query).render mode = .ok context) :
    Parse.select context.sql = .ok query.upToTable := by
  obtain ⟨tokens, offset, streamEq, names, ends⟩ := exists_names_of_render readable rendered
  rw [Parse.select, Parse.report_eq_ok_iff]
  exact names.readSelect ends (congrArg TokenStream.ahead streamEq)

theorem isReadable_upToTable {query : Select} (readable : query.IsReadable) :
    query.upToTable.IsReadable where
  alone := rfl
  noLeading := rfl
  noTrailing := rfl
  items := readable.items
  source := readable.source

theorem isComplete_upToTable {query : Select} (nonempty : query.items ≠ []) :
    query.upToTable.IsComplete := by
  simp [upToTable, IsComplete, WithQuery.AreComplete, Expression.ConditionIsComplete, nonempty]

end Select

/-- In every mode, the select list and the table of a rendered query are read back, whatever its
joins, its conditions and its further clauses are.  The query that has been read can be rendered
and read again. -/
theorem Select.select_of_render {query : Select} (readable : query.IsReadable) {mode : RenderMode}
    {context : Context mode} (rendered : (Node.select query).render mode = .ok context) :
    Parse.select context.sql = .ok query.upToTable ∧
      ∃ again : Context .raw, (Node.select query.upToTable).render .raw = .ok again ∧
        Parse.select again.sql = .ok query.upToTable := by
  obtain ⟨again, renderedAgain⟩ := @Node.exists_render_of_isComplete (.select query.upToTable)
    (isComplete_upToTable (nonempty_of_render rendered)) .raw
  exact ⟨select_of_render_of_isReadable readable rendered, again, renderedAgain,
    select_of_render_of_isReadable (isReadable_upToTable readable) renderedAgain⟩

/-- A page of a list, with every clause that a query can have behind its table. -/
def memberPage : Select where
  distinct := true
  items := [.column { name := "u.name", asName := some "member" }, .fragment "*"]
  source := { table := { name := "users", asName := some "u" }, only := true }
  joins := [{}, .cross { name := "teams" }]
  filter := some (.binary (.identifier "note") (.comparison .equal) (.value (.text ", x FROM y")))
  groupBy := [{ name := "u.name" }]
  having := some (.binary (.aggregate { function := .count, argument := "*" })
    (.comparison .greaterThan) (.value (.text "1")))
  orderBy := [{ column := { name := "member" }, direction := .descending }]
  limit := some 10
  offset := some 20
  comment := "AS t, FROM v"

theorem Select.isReadable_memberPage : memberPage.IsReadable where
  alone := rfl
  noLeading := rfl
  noTrailing := rfl
  items := by decide
  source := by decide

/-- No other name, entry or table is read from the clauses of the page, or from its comment. -/
theorem Select.select_of_render_memberPage :
    ∃ context : Context .positional, (Node.select memberPage).render .positional = .ok context ∧
      context.sql = "SELECT DISTINCT u.name AS member, * FROM ONLY users AS u CROSS JOIN teams " ++
        "WHERE (note = $1) GROUP BY u.name HAVING (COUNT(*) > $2) ORDER BY member DESC " ++
        "LIMIT 10 OFFSET 20 /* AS t, FROM v */" ∧
      Parse.select context.sql = .ok {
        distinct := true
        items := [.column { name := "u.name", asName := some "member" }, .fragment "*"]
        source := { table := { name := "users", asName := some "u" }, only := true } } := by
  have unbroken : memberPage.script.violation = none := by decide +kernel
  have textEq : Piece.textFrom RenderMode.positional.mark 0 memberPage.script.pieces =
      "SELECT DISTINCT u.name AS member, * FROM ONLY users AS u CROSS JOIN teams " ++
        "WHERE (note = $1) GROUP BY u.name HAVING (COUNT(*) > $2) ORDER BY member DESC " ++
        "LIMIT 10 OFFSET 20 /* AS t, FROM v */" := by
    decide +kernel
  obtain ⟨context, rendered, sqlEq⟩ :=
    @Node.exists_render_of_unbroken (.select memberPage) unbroken .positional
  have read := Select.select_of_render isReadable_memberPage rendered
  exact ⟨context, rendered, sqlEq.trans textEq, read.1⟩

end SqlTree
