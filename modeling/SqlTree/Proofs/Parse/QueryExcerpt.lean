import SqlTree.Proofs.Parse.QueryRoundTrip

/-!
# What is read of a query is an excerpt of its text

A query that has been read from a text is rendered as the beginning of that text: the same keywords,
marks and words in the same order, and nothing else.  So the rendered text is read as the same query
again.
-/

namespace SqlTree

open Parse

/-! ## Literals are words -/

theorem lookup_of_wordKind {word : String} (literal : wordKind word = .literal) :
    Keyword.lookup word = none := by
  unfold wordKind at literal
  split at literal
  · cases literal
  · assumption

theorem Lexer.isWord_of_scan {lexer : Lexer} (literal : lexer.scan.1.kind = .literal) :
    IsWord lexer.scan.1.text := by
  obtain ⟨rest, offset, lineFeeds⟩ := lexer
  cases rest with
  | nil => cases literal
  | cons character following =>
    cases inWord : isWordCharacter character with
    | false =>
      simp only [scan, inWord] at literal
      exact absurd literal (punctuationKind_ne_literal character)
    | true =>
      simp only [scan, inWord, if_true, word] at literal ⊢
      refine ⟨?_, ?_, lookup_of_wordKind literal⟩
      · simp [inWord]
      · rw [String.toList_ofList]
        exact List.all_takeWhile

/-- Every literal among the tokens is a word and no keyword. -/
def LiteralsAreWords (tokens : List Token) : Prop :=
  ∀ token ∈ tokens, token.kind = .literal → IsWord token.text

theorem TokenStream.literalsAreWords_ofText (text : String) :
    LiteralsAreWords (ofText text).ahead := by
  intro token member literal
  obtain ⟨position, rfl, -⟩ := Lexer.exists_scan_of_mem member
  exact Lexer.isWord_of_scan literal

namespace LiteralsAreWords

variable {first second : List Token}

theorem of_append_left (words : LiteralsAreWords (first ++ second)) : LiteralsAreWords first :=
  fun token member => words token (List.mem_append_left second member)

theorem of_append_right (words : LiteralsAreWords (first ++ second)) : LiteralsAreWords second :=
  fun token member => words token (List.mem_append_right first member)

theorem of_cons {token : Token} (words : LiteralsAreWords (token :: second)) :
    LiteralsAreWords second :=
  fun other member => words other (List.mem_cons_of_mem token member)

end LiteralsAreWords

/-! ## What is named by words can be read -/

section Readable

variable {tokens : List Token}

theorem NamesTable.isWord {table : Table} (names : NamesTable tokens table)
    (words : LiteralsAreWords tokens) : IsWord table.name ∧ IsPlainAsName table.asName := by
  cases names with
  | @plain name nameWord =>
    refine ⟨words name (by simp) nameWord, ?_⟩
    intro asName isNone
    cases isNone
  | @renamed name as asName nameWord asKeyword asWord =>
    refine ⟨words name (by simp) nameWord, ?_⟩
    intro given isGiven
    cases isGiven
    exact words asName (by simp) asWord

theorem NamesItem.isReadable {item : SelectItem} (names : NamesItem tokens item)
    (words : LiteralsAreWords tokens) : item.IsReadable := by
  cases names with
  | all asterisk => rfl
  | column names => exact names.isWord words

theorem NamesItems.isReadable {items : List SelectItem} (names : NamesItems tokens items)
    (words : LiteralsAreWords tokens) : ∀ item ∈ items, item.IsReadable := by
  induction names with
  | single names => simpa using names.isReadable words
  | more names separates namesOthers ih =>
    exact List.forall_mem_cons.mpr
      ⟨names.isReadable words.of_append_left, ih words.of_append_right.of_cons⟩

theorem NamesSource.isReadable {source : FromClause} (names : NamesSource tokens source)
    (words : LiteralsAreWords tokens) : source.IsReadable := by
  cases names with
  | absent => exact .inl rfl
  | table begins namesOnly names => exact .inr (names.isWord words.of_cons.of_append_right)

theorem NamesQuery.isReadable {query : Select} (names : NamesQuery tokens query)
    (words : LiteralsAreWords tokens) : query.IsReadable := by
  obtain ⟨selects, namesDistinct, namesItems, namesSource⟩ := names
  have behindDistinct := words.of_cons.of_append_right
  exact {
    alone := rfl
    noLeading := rfl
    noTrailing := rfl
    items := namesItems.isReadable behindDistinct.of_append_left
    source := namesSource.isReadable behindDistinct.of_append_right }

theorem NamesQuery.upToTable_eq {query : Select} (names : NamesQuery tokens query) :
    query.upToTable = query := by
  cases names
  rfl

end Readable

/-! ## What a query says -/

/-- What a token says apart from its place and, if it is a keyword, the case of its letters. -/
def Token.content (token : Token) : TokenKind × Option String :=
  (token.kind, if token.kind = .literal then some token.text else none)

theorem Token.content_of_literal {token : Token} (literal : token.kind = .literal) :
    token.content = (.literal, some token.text) := by
  simp [content, literal]

theorem Token.content_of_kind {token : Token} {kind : TokenKind} (kindEq : token.kind = kind)
    (noLiteral : kind ≠ .literal) : token.content = (kind, none) := by
  simp [content, kindEq, noLiteral]

/-- The contents of the tokens that name something, with its other name if it has one. -/
def nameContents (name : String) (asName : Option String) : List (TokenKind × Option String) :=
  match asName with
  | none => [(.literal, some name)]
  | some other => [(.literal, some name), (.keyword .as, none), (.literal, some other)]

def optionalContents (keyword : Keyword) (present : Bool) : List (TokenKind × Option String) :=
  if present then [(.keyword keyword, none)] else []

/-- The contents of the tokens that name the entry.  An aggregate is not read from tokens. -/
def SelectItem.contents : SelectItem → List (TokenKind × Option String)
  | .column named => nameContents named.name named.asName
  | .fragment _ => [(.asterisk, none)]
  | .aggregate _ => []

def itemsContents : List SelectItem → List (TokenKind × Option String)
  | [] => []
  | [item] => item.contents
  | item :: items => item.contents ++ (.comma, none) :: itemsContents items

def FromClause.contents (source : FromClause) : List (TokenKind × Option String) :=
  if source.isEmpty then []
  else (.keyword .«from», none)
    :: (optionalContents .only source.only ++ nameContents source.table.name source.table.asName)

/-- The contents of the tokens that name the query up to its table. -/
def Select.contents (query : Select) : List (TokenKind × Option String) :=
  (.keyword .select, none) :: (optionalContents .distinct query.distinct
    ++ (itemsContents query.items ++ query.source.contents))

section Contents

variable {tokens : List Token}

theorem NamesTable.map_content {table : Table} (names : NamesTable tokens table) :
    tokens.map Token.content = nameContents table.name table.asName := by
  cases names with
  | plain nameWord => simp [nameContents, Token.content_of_literal nameWord]
  | renamed nameWord asKeyword asWord =>
    simp [nameContents, Token.content_of_literal nameWord, Token.content_of_literal asWord,
      Token.content_of_kind asKeyword]

theorem NamesOptional.map_content {keyword : Keyword} {present : Bool}
    (names : NamesOptional keyword tokens present) :
    tokens.map Token.content = optionalContents keyword present := by
  cases names with
  | absent => rfl
  | present names => simp [optionalContents, Token.content_of_kind names]

theorem NamesItem.map_content {item : SelectItem} (names : NamesItem tokens item) :
    tokens.map Token.content = item.contents := by
  cases names with
  | all asterisk => simp [SelectItem.contents, Token.content_of_kind asterisk]
  | column names => exact names.map_content

theorem NamesItems.map_content {items : List SelectItem} (names : NamesItems tokens items) :
    tokens.map Token.content = itemsContents items := by
  induction names with
  | single names => exact names.map_content
  | @more tokens others comma item items names separates namesOthers ih =>
    obtain ⟨next, rest, rfl⟩ := List.exists_cons_of_ne_nil namesOthers.ne_nil
    rw [List.map_append, List.map_cons, names.map_content, ih,
      Token.content_of_kind separates (by simp)]
    rfl

/-- A table that is named is never the empty one, which stands for no table. -/
theorem NamesSource.map_content {source : FromClause} (names : NamesSource tokens source)
    (words : LiteralsAreWords tokens) : tokens.map Token.content = source.contents := by
  cases names with
  | absent => rfl
  | @table fromToken onlyTokens tableTokens only table begins namesOnly names =>
    have isWord := (names.isWord words.of_cons.of_append_right).1
    have present : FromClause.isEmpty { table, only } = false := isWord.word.isBlank_text
    rw [FromClause.contents, present, List.map_cons, List.map_append, names.map_content,
      namesOnly.map_content, Token.content_of_kind begins (by simp)]
    rfl

theorem NamesQuery.map_content {query : Select} (names : NamesQuery tokens query)
    (words : LiteralsAreWords tokens) : tokens.map Token.content = query.contents := by
  obtain ⟨selects, namesDistinct, namesItems, namesSource⟩ := names
  have sourceContents := namesSource.map_content words.of_cons.of_append_right.of_append_right
  rw [List.map_cons, List.map_append, List.map_append, namesDistinct.map_content,
    namesItems.map_content, sourceContents, Token.content_of_kind selects (by simp)]
  rfl

end Contents

/-! ## Excerpts -/

namespace Select

theorem clauses_upToTable (query : Select) : query.upToTable.clauses = .empty := by
  have noText : Text.isBlank "" = true := rfl
  simp [upToTable, clauses, joinsScript, closingScript, noText, Script.clause, lacksCondition]

/-- A query without clauses is rendered as the tokens that name it and nothing else. -/
theorem names_of_render_upToTable {query : Select} (readable : query.upToTable.IsReadable)
    {mode : RenderMode} {context : Context mode}
    (rendered : (Node.select query.upToTable).render mode = .ok context) :
    NamesQuery (TokenStream.ofText context.sql).ahead query.upToTable := by
  obtain ⟨tokens, offset, streamEq, names, -⟩ := exists_names_of_render readable rendered
  have nothingBehind : (Piece.textFrom mode.mark 0 Script.empty.pieces).toList = [] := rfl
  rw [clauses_upToTable, nothingBehind, Lexer.stream_nil] at streamEq
  have onlyTokens : (TokenStream.ofText context.sql).ahead = tokens := by
    rw [streamEq]
    exact List.append_nil tokens
  rw [onlyTokens]
  exact names

end Select

/-- A query that has been read from a text is rendered as a text whose tokens are the first ones of
the text that was read, apart from the case of keywords, and from which the same query is read. -/
theorem Parse.excerpt_of_select {text : String} {query : Select}
    (read : Parse.select text = .ok query) :
    ∃ excerpt : Context .raw, (Node.select query).render .raw = .ok excerpt ∧
      (TokenStream.ofText excerpt.sql).ahead.map Token.content <+:
        (TokenStream.ofText text).ahead.map Token.content ∧
      Parse.select excerpt.sql = .ok query := by
  rw [Parse.select, report_eq_ok_iff] at read
  obtain ⟨tokens, behind, ahead, names⟩ := exists_names_of_readSelect read
  have literals := TokenStream.literalsAreWords_ofText text
  rw [ahead] at literals
  have readable := names.isReadable literals.of_append_left
  have nonempty : query.items ≠ [] := by
    obtain ⟨selects, namesDistinct, namesItems, namesSource⟩ := names
    exact namesItems.ne_nil
  have upToTable := names.upToTable_eq
  obtain ⟨excerpt, rendered⟩ := @Node.exists_render_of_isComplete (.select query)
    (upToTable ▸ Select.isComplete_upToTable nonempty) .raw
  have namesAgain : NamesQuery (TokenStream.ofText excerpt.sql).ahead query := by
    rw [← upToTable] at readable rendered ⊢
    exact Select.names_of_render_upToTable readable rendered
  have readAgain := Select.select_of_render_of_isReadable readable rendered
  rw [upToTable] at readAgain
  refine ⟨excerpt, rendered, ?_, readAgain⟩
  -- Both lists of tokens name the same query.
  rw [namesAgain.map_content (TokenStream.literalsAreWords_ofText excerpt.sql), ahead,
    List.map_append, names.map_content literals.of_append_left]
  exact List.prefix_append _ _

/-- Neither the small letters of the keywords nor the rest of the text reach the excerpt. -/
theorem Parse.excerpt_of_select_with_rest :
    ∃ query, Parse.select "select distinct a as b, * from only t u) from v" = .ok query ∧
      ∃ excerpt : Context .raw, (Node.select query).render .raw = .ok excerpt ∧
        (TokenStream.ofText excerpt.sql).ahead.map Token.content <+:
          (TokenStream.ofText "select distinct a as b, * from only t u) from v").ahead.map
            Token.content ∧
        Parse.select excerpt.sql = .ok query := by
  have source : (Parse.select "select distinct a as b, * from only t u) from v").map
      Select.source = .ok { table := { name := "t" }, only := true } := by
    decide +kernel
  obtain ⟨query, read, -⟩ := exists_of_map_eq_ok source
  exact ⟨query, read, Parse.excerpt_of_select read⟩

end SqlTree
