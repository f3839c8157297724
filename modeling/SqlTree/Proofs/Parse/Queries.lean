import Mathlib.Data.List.Basic
import SqlTree.Parse.Select
import SqlTree.Proofs.Parse.Joins
import SqlTree.Proofs.Parse.Targets

/-!
# The beginning of a query

The select list and the table of a query are read by their grammar: what is read is named by tokens
at the beginning of the text, and what is named there is read as long as the tokens behind it do not
go on with it.  An analysis of the same text, which passes over the select list in search of FROM,
finds the same table.
-/

namespace SqlTree

open Parse

/-! ## Grammar -/

/-- The tokens name an entry of a select list:

    item := "*" | word [AS word]
-/
inductive NamesItem : List Token → SelectItem → Prop
  | all {token : Token} (asterisk : token.kind = .asterisk) : NamesItem [token] (.fragment "*")
  | column {tokens : List Token} {table : Table} (names : NamesTable tokens table) :
      NamesItem tokens (.column { name := table.name, asName := table.asName })

/-- The tokens name the entries of a select list:

    items := item | item "," items
-/
inductive NamesItems : List Token → List SelectItem → Prop
  | single {tokens : List Token} {item : SelectItem} (names : NamesItem tokens item) :
      NamesItems tokens [item]
  | more {tokens others : List Token} {comma : Token} {item : SelectItem}
      {items : List SelectItem} (names : NamesItem tokens item) (separates : comma.kind = .comma)
      (namesOthers : NamesItems others items) :
      NamesItems (tokens ++ comma :: others) (item :: items)

theorem NamesItems.ne_nil {tokens : List Token} {items : List SelectItem}
    (names : NamesItems tokens items) : items ≠ [] := by
  cases names <;> exact List.cons_ne_nil _ _

/-- The tokens name the table that a query reads from, if it reads from one:

    source := [FROM [ONLY] table]
-/
inductive NamesSource : List Token → FromClause → Prop
  | absent : NamesSource [] {}
  | table {fromToken : Token} {onlyTokens tokens : List Token} {only : Bool} {table : Table}
      (begins : fromToken.kind = .keyword .«from») (namesOnly : NamesOptional .only onlyTokens only)
      (names : NamesTable tokens table) :
      NamesSource (fromToken :: (onlyTokens ++ tokens)) { table, only }

/-- The tokens name a query up to its table:

    query := SELECT [DISTINCT] items source
-/
inductive NamesQuery : List Token → Select → Prop
  | query {selectToken : Token} {distinctTokens itemTokens sourceTokens : List Token}
      {distinct : Bool} {items : List SelectItem} {source : FromClause}
      (selects : selectToken.kind = .keyword .select)
      (namesDistinct : NamesOptional .distinct distinctTokens distinct)
      (namesItems : NamesItems itemTokens items) (namesSource : NamesSource sourceTokens source) :
      NamesQuery (selectToken :: (distinctTokens ++ (itemTokens ++ sourceTokens)))
        { distinct, items, source }

/-! ## What is read is named -/

section Sound

open State

variable {state rest : State}

theorem readItem_eq (state : State) :
    readItem state =
      if state.isAt .asterisk then .ok (.fragment "*", state.advance)
      else (readTable state).map fun (table, rest) =>
        (.column { name := table.name, asName := table.asName }, rest) := by
  unfold readItem readTable
  split
  · rfl
  cases state.literal with
  | error failure => rfl
  | ok word =>
    simp only
    cases word.2.asName <;> rfl

theorem readSource_eq (state : State) :
    readSource state =
      (readTable (state.skip (.keyword .only))).map fun (table, _) =>
        { table, only := state.isAt (.keyword .only) } := by
  unfold readSource readTable
  simp only
  cases (state.skip (.keyword .only)).literal with
  | error failure => rfl
  | ok word =>
    simp only
    cases word.2.asName <;> rfl

theorem exists_of_map_eq_ok {Error First Second : Type} {first : Except Error First}
    {convert : First → Second} {result : Second} (success : first.map convert = .ok result) :
    ∃ value, first = .ok value ∧ convert value = result := by
  cases first with
  | error failure => cases success
  | ok value =>
    cases success
    exact ⟨value, rfl, rfl⟩

theorem passes_of_skip (state : State) (keyword : Keyword) :
    ∃ tokens, state.Passes tokens (state.skip (.keyword keyword)) ∧
      NamesOptional keyword tokens (state.isAt (.keyword keyword)) := by
  unfold skip
  cases atKeyword : state.isAt (.keyword keyword) with
  | true =>
    obtain ⟨passes, names⟩ := passes_of_isAt atKeyword (by simp)
    exact ⟨_, passes, .present names⟩
  | false => exact ⟨_, .refl state, .absent⟩

theorem passes_of_readItem {item : SelectItem} (read : readItem state = .ok (item, rest)) :
    ∃ tokens, state.Passes tokens rest ∧ NamesItem tokens item := by
  rw [readItem_eq] at read
  split at read
  · next atAsterisk =>
    cases read
    obtain ⟨passes, asterisk⟩ := passes_of_isAt atAsterisk (by simp)
    exact ⟨_, passes, .all asterisk⟩
  · obtain ⟨⟨table, last⟩, readName, converted⟩ := exists_of_map_eq_ok read
    cases converted
    obtain ⟨tokens, passes, names⟩ := passes_of_readTable readName
    exact ⟨tokens, passes, .column names⟩

/-- The induction is on the entries that are still to be read. -/
theorem passes_of_commaSeparated {items : List SelectItem}
    (read : item.commaSeparated state = .ok (items, rest)) :
    ∃ tokens, state.Passes tokens rest ∧ NamesItems tokens items := by
  fun_induction Production.commaSeparated item state generalizing items with
  | case1 state failure failed => cases read
  | case2 state first afterFirst readFirst atComma others last readOthers ih =>
    cases read
    obtain ⟨firstTokens, passesFirst, namesFirst⟩ := passes_of_readItem readFirst
    obtain ⟨passesComma, separates⟩ := passes_of_isAt atComma (by simp)
    obtain ⟨otherTokens, passesOthers, namesOthers⟩ := ih readOthers
    exact ⟨_, passesFirst.trans (passesComma.trans passesOthers),
      .more namesFirst separates namesOthers⟩
  | case3 state first afterFirst readFirst atComma failure failed => cases read
  | case4 state first afterFirst readFirst noComma =>
    cases read
    obtain ⟨tokens, passes, names⟩ := passes_of_readItem readFirst
    exact ⟨tokens, passes, .single names⟩

/-- The table that was read, up to the end of its name. -/
theorem exists_of_readSource {source : FromClause} (read : readSource state = .ok source) :
    ∃ onlyTokens tokens behind only table, state.ahead = onlyTokens ++ tokens ++ behind ∧
      NamesOptional .only onlyTokens only ∧ NamesTable tokens table ∧ source = { table, only } := by
  rw [readSource_eq] at read
  obtain ⟨⟨table, last⟩, readName, rfl⟩ := exists_of_map_eq_ok read
  obtain ⟨onlyTokens, passesOnly, namesOnly⟩ := passes_of_skip state .only
  obtain ⟨tokens, passes, names⟩ := passes_of_readTable readName
  exact ⟨onlyTokens, tokens, last.ahead, _, table, (passesOnly.trans passes).ahead, namesOnly,
    names, rfl⟩

/-- What is read of a text is named by the tokens at its beginning. -/
theorem exists_names_of_readSelect {text : String} {query : Select}
    (read : readSelect text = .ok query) :
    ∃ tokens behind, (TokenStream.ofText text).ahead = tokens ++ behind ∧
      NamesQuery tokens query := by
  unfold readSelect at read
  split at read
  · cases read
  next afterSelect readKeyword =>
  split at read
  · cases read
  next items afterItems readItems =>
  obtain ⟨selectToken, passesSelect, selects⟩ := passes_of_expect (by simp) readKeyword
  obtain ⟨distinctTokens, passesDistinct, namesDistinct⟩ := passes_of_skip afterSelect .distinct
  obtain ⟨itemTokens, passesItems, namesItems⟩ := passes_of_commaSeparated readItems
  have passes := passesSelect.trans (passesDistinct.trans passesItems)
  have ahead := passes.ahead
  simp only at read
  split at read
  · next atFrom =>
    obtain ⟨passesFrom, begins⟩ := passes_of_isAt atFrom (by simp)
    split at read
    · cases read
    next source readTable =>
    cases read
    obtain ⟨onlyTokens, tokens, behind, only, table, aheadFrom, namesOnly, names, rfl⟩ :=
      exists_of_readSource readTable
    refine ⟨_, behind, ?_, .query selects namesDistinct namesItems (.table begins namesOnly names)⟩
    have aheadAll := (passes.trans passesFrom).ahead
    rw [aheadFrom] at aheadAll
    simpa [State.ofStream] using aheadAll
  · cases read
    refine ⟨_, afterItems.ahead, ?_, .query selects namesDistinct namesItems .absent⟩
    simpa [State.ofStream] using ahead

end Sound

/-! ## What is named is read -/

/-- The tokens do not go on with a select list or with the table behind it. -/
def EndsQuery (behind : List Token) : Prop :=
  ∀ token ∈ behind.head?, token.kind ∉ [.comma, .keyword .as, .keyword .«from»]

section Complete

variable {tokens behind : List Token} {stop depth tests : Nat}

theorem EndsQuery.isAt_eq_false (ends : EndsQuery behind) (stop : Nat) {kind : TokenKind}
    (goesOn : kind ∈ [.comma, .keyword .as, .keyword .«from»]) :
    State.isAt ⟨⟨behind, stop⟩, 0, 0⟩ kind = false := by
  cases behind with
  | nil =>
    have noEnd : kind ≠ .endOfInput := by
      rintro rfl
      simp at goesOn
    exact beq_false_of_ne noEnd.symm
  | cons token others =>
    rw [State.isAt_cons]
    apply beq_false_of_ne
    rintro rfl
    exact ends token rfl goesOn

theorem NamesItem.read {item : SelectItem} (names : NamesItem tokens item)
    (noName : State.isAt ⟨⟨behind, stop⟩, depth, tests⟩ (.keyword .as) = false) :
    readItem ⟨⟨tokens ++ behind, stop⟩, depth, tests⟩ =
      .ok (item, ⟨⟨behind, stop⟩, depth, tests⟩) := by
  rw [readItem_eq]
  cases names with
  | all asterisk => simp [asterisk]
  | column names =>
    obtain ⟨name, others, rfl, nameWord, -⟩ := names.start
    have read := names.read noName
    rw [List.cons_append] at read ⊢
    rw [State.isAt_cons, nameWord, if_neg (by simp), read]
    rfl

theorem Parse.Production.commaSeparated_of_run {Value : Type} {production : Production Value}
    {state rest : State} {value : Value} (read : production.run state = .ok (value, rest)) :
    production.commaSeparated state =
      if rest.isAt .comma then
        (production.commaSeparated rest.advance).map fun (values, last) => (value :: values, last)
      else .ok ([value], rest) := by
  rw [commaSeparated]
  split
  · next failure failed =>
    rw [read] at failed
    cases failed
  · next found last readFound =>
    rw [read] at readFound
    cases readFound
    split
    · cases production.commaSeparated rest.advance <;> rfl
    · rfl

/-- A comma stands behind every entry but the last, so that what ends the list has to be known for
the last one alone. -/
theorem NamesItems.read {items : List SelectItem} (names : NamesItems tokens items)
    (noComma : State.isAt ⟨⟨behind, stop⟩, depth, tests⟩ .comma = false)
    (noName : State.isAt ⟨⟨behind, stop⟩, depth, tests⟩ (.keyword .as) = false) :
    item.commaSeparated ⟨⟨tokens ++ behind, stop⟩, depth, tests⟩ =
      .ok (items, ⟨⟨behind, stop⟩, depth, tests⟩) := by
  induction names with
  | single names =>
    rw [Production.commaSeparated_of_run (names.read noName), noComma]
    rfl
  | @more tokens others comma first items names separates namesOthers ih =>
    have noNameHere : State.isAt ⟨⟨comma :: (others ++ behind), stop⟩, depth, tests⟩
        (.keyword .as) = false := by
      simp [separates]
    rw [List.append_assoc, List.cons_append,
      Production.commaSeparated_of_run (names.read noNameHere), State.isAt_cons, separates,
      if_pos (by simp), State.advance_cons, ih]
    rfl

theorem NamesItems.start {items : List SelectItem} (names : NamesItems tokens items) :
    ∃ first others, tokens = first :: others ∧ (first.kind = .asterisk ∨ first.kind = .literal) := by
  have ofItem {itemTokens : List Token} {item : SelectItem} (namesItem : NamesItem itemTokens item) :
      ∃ first others, itemTokens = first :: others ∧
        (first.kind = .asterisk ∨ first.kind = .literal) := by
    cases namesItem with
    | all asterisk => exact ⟨_, _, rfl, .inl asterisk⟩
    | column namesTable =>
      obtain ⟨name, others, rfl, nameWord, -⟩ := namesTable.start
      exact ⟨name, others, rfl, .inr nameWord⟩
  cases names with
  | single names => exact ofItem names
  | more names separates namesOthers =>
    obtain ⟨first, others, rfl, kind⟩ := ofItem names
    exact ⟨first, _, rfl, kind⟩

theorem readSource_of_names {onlyTokens : List Token} {only : Bool} {table : Table}
    (namesOnly : NamesOptional .only onlyTokens only) (names : NamesTable tokens table)
    (noName : State.isAt ⟨⟨behind, stop⟩, depth, tests⟩ (.keyword .as) = false) :
    readSource ⟨⟨onlyTokens ++ (tokens ++ behind), stop⟩, depth, tests⟩ = .ok { table, only } := by
  have noOnly : State.isAt ⟨⟨tokens ++ behind, stop⟩, depth, tests⟩ (.keyword .only) = false := by
    obtain ⟨name, others, rfl, nameWord, -⟩ := names.start
    simp [nameWord]
  obtain ⟨isOnly, skipped⟩ := namesOnly.read noOnly
  rw [readSource_eq, isOnly, skipped, names.read noName]
  rfl

/-- A select list does not go on with the table behind it, nor with what is behind the table. -/
theorem NamesSource.isAt_eq_false {source : FromClause} (names : NamesSource tokens source)
    (ends : EndsQuery behind) {kind : TokenKind} (goesOn : kind ∈ [.comma, .keyword .as]) :
    State.isAt ⟨⟨tokens ++ behind, stop⟩, 0, 0⟩ kind = false := by
  cases names with
  | absent =>
    apply ends.isAt_eq_false stop
    rcases List.mem_pair.mp goesOn with rfl | rfl <;> simp
  | table begins namesOnly names =>
    rcases List.mem_pair.mp goesOn with rfl | rfl <;> simp [begins]

/-- What the tokens at the beginning of a text name is read, whatever the rest of the text is. -/
theorem NamesQuery.readSelect {text : String} {query : Select} (names : NamesQuery tokens query)
    (ends : EndsQuery behind) (ahead : (TokenStream.ofText text).ahead = tokens ++ behind) :
    readSelect text = .ok query := by
  have start : State.ofStream (TokenStream.ofText text) =
      ⟨⟨tokens ++ behind, (TokenStream.ofText text).stop⟩, 0, 0⟩ := by
    rw [← ahead]
    rfl
  obtain @⟨selectToken, distinctTokens, itemTokens, sourceTokens, distinct, items, source, selects,
    namesDistinct, namesItems, namesSource⟩ := names
  have noDistinct : State.isAt
      ⟨⟨itemTokens ++ (sourceTokens ++ behind), (TokenStream.ofText text).stop⟩, 0, 0⟩
      (.keyword .distinct) = false := by
    obtain ⟨first, others, rfl, kind⟩ := namesItems.start
    rcases kind with kind | kind <;> simp [kind]
  obtain ⟨isDistinct, skipped⟩ := namesDistinct.read noDistinct
  have noFurther {kind : TokenKind} (goesOn : kind ∈ [.comma, .keyword .as]) :
      State.isAt ⟨⟨sourceTokens ++ behind, (TokenStream.ofText text).stop⟩, 0, 0⟩ kind = false :=
    namesSource.isAt_eq_false ends goesOn
  have itemsRead := namesItems.read (noFurther (by simp)) (noFurther (by simp))
  simp only [List.cons_append, List.append_assoc] at start
  simp only [Parse.readSelect, start, State.expect_cons selects, skipped, itemsRead, isDistinct]
  cases namesSource with
  | absent =>
    rw [List.nil_append, ends.isAt_eq_false _ (by simp)]
    rfl
  | table begins namesOnly names =>
    rw [List.cons_append, State.isAt_cons, begins, if_pos (by simp), State.advance_cons,
      List.append_assoc, readSource_of_names namesOnly names (ends.isAt_eq_false _ (by simp))]
    rfl

end Complete

/-! ## What is named is passed over -/

section Analysis

variable {tokens : List Token}

theorem Parse.Passes.of_forall
    (plain : ∀ token ∈ tokens,
      token.kind ∉ [.openParenthesis, .closeParenthesis, .keyword .«from»]) :
    Passes (tokens.map Token.lexeme) := by
  induction tokens with
  | nil => exact .nil
  | cons token rest ih =>
    obtain ⟨tokenPlain, restPlain⟩ := List.forall_mem_cons.mp plain
    have passesToken : Passes [token.lexeme] := .single tokenPlain
    exact passesToken.append (ih restPlain)

theorem NamesTable.passes {table : Table} (names : NamesTable tokens table) :
    Passes (tokens.map Token.lexeme) := by
  cases names with
  | plain nameWord => exact .of_forall (by simp [nameWord])
  | renamed nameWord asKeyword asWord => exact .of_forall (by simp [nameWord, asKeyword, asWord])

theorem NamesItem.passes {item : SelectItem} (names : NamesItem tokens item) :
    Passes (tokens.map Token.lexeme) := by
  cases names with
  | all asterisk => exact .of_forall (by simp [asterisk])
  | column names => exact names.passes

theorem NamesItems.passes {items : List SelectItem} (names : NamesItems tokens items) :
    Passes (tokens.map Token.lexeme) := by
  induction names with
  | single names => exact names.passes
  | @more tokens others comma item items names separates namesOthers ih =>
    have passesComma : Passes ([comma].map Token.lexeme) := .of_forall (by simp [separates])
    rw [List.map_append]
    exact names.passes.append (passesComma.append ih)

theorem NamesOptional.passes {keyword : Keyword} {present : Bool} (noFrom : keyword ≠ .«from»)
    (names : NamesOptional keyword tokens present) : Passes (tokens.map Token.lexeme) := by
  cases names with
  | absent => exact .nil
  | present names => exact .of_forall (by simp [names, noFrom])

/-- The table of a query is the first word behind the first FROM, ONLY apart. -/
theorem readTargetTable_of_names {between onlyTokens : List Token} {fromToken : Token}
    {only : Bool} {table : Table} (passes : Passes (between.map Token.lexeme))
    (begins : fromToken.kind = .keyword .«from») (namesOnly : NamesOptional .only onlyTokens only)
    (names : NamesTable tokens table) (behind : List Token) (stop : Nat) :
    readTargetTable .select
        ⟨⟨between ++ fromToken :: (onlyTokens ++ (tokens ++ behind)), stop⟩, 0, 0⟩ =
      .ok table.name := by
  obtain ⟨name, others, rfl, nameWord, nameText, -⟩ := names.start
  have noOnly : State.isAt ⟨⟨name :: others ++ behind, stop⟩, 0, 0⟩ (.keyword .only) = false := by
    simp [nameWord]
  simp only [readTargetTable, readUpToTable_of_passes (.inl rfl) passes begins,
    (namesOnly.read noOnly).2]
  rw [List.cons_append, State.literal_cons nameWord, nameText]

/-- An analysis finds the table of a query that names one. -/
theorem NamesQuery.readAnalysis {query : Select} (names : NamesQuery tokens query)
    (named : query.source.isEmpty = false) (behind : List Token) (stop : Nat) :
    readAnalysis .all ⟨⟨tokens ++ behind, stop⟩, 0, 0⟩ =
      .ok ⟨some .select, some query.source.table.name⟩ := by
  obtain ⟨selects, namesDistinct, namesItems, namesSource⟩ := names
  cases namesSource with
  | absent => cases named
  | @table fromToken onlyTokens tableTokens only table begins namesOnly namesTable =>
    rename_i selectToken distinctTokens itemTokens distinct items
    have passes : Passes ((distinctTokens ++ itemTokens).map Token.lexeme) := by
      rw [List.map_append]
      exact (namesDistinct.passes (by simp)).append namesItems.passes
    have target := readTargetTable_of_names passes begins namesOnly namesTable behind stop
    simp only [List.cons_append, List.append_assoc] at target ⊢
    have found := @operationAhead_cons _ .select selects
      (distinctTokens ++ (itemTokens ++ fromToken :: (onlyTokens ++ (tableTokens ++ behind))))
    rw [readAnalysis_of_operationAhead (by simp [selects]) found, target]
    rfl

end Analysis

/-- Whatever follows, a text from which a query with a table can be read is found to be a SELECT from
that table. -/
theorem Parse.analysis_of_select {text : String} {query : Select}
    (read : Parse.select text = .ok query) (named : query.source.isEmpty = false) :
    Parse.analysis text .all = .ok ⟨some .select, some query.source.table.name⟩ := by
  rw [Parse.select, report_eq_ok_iff] at read
  obtain ⟨tokens, behind, ahead, names⟩ := exists_names_of_readSelect read
  have found := names.readAnalysis named behind (TokenStream.ofText text).stop
  rw [← ahead] at found
  rw [Parse.analysis, report_eq_ok_iff]
  exact found

/-- What stands behind the table is not looked at by either of the two. -/
theorem Parse.analysis_of_select_with_rest :
    ∃ query, Parse.select "select distinct a as b, * from only t u) from v" = .ok query ∧
      query.source.isEmpty = false ∧
      Parse.analysis "select distinct a as b, * from only t u) from v" .all =
        .ok ⟨some .select, some "t"⟩ := by
  have source : (Parse.select "select distinct a as b, * from only t u) from v").map
      Select.source = .ok { table := { name := "t" }, only := true } := by
    decide +kernel
  obtain ⟨query, read, sourceEq⟩ := exists_of_map_eq_ok source
  have named : query.source.isEmpty = false := by
    rw [sourceEq]
    decide
  have found := Parse.analysis_of_select read named
  rw [sourceEq] at found
  exact ⟨query, read, named, found⟩

end SqlTree
