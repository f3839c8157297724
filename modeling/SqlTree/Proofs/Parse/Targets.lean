import SqlTree.Parse.Analysis
import SqlTree.Proofs.Parse.Derivation
import SqlTree.Proofs.Token.Leading

/-!
# Finding the operation and the table

An analysis reads the tokens up to the table and no further.  In front of the operation it passes
over everything that names no operation, as long as the text does not begin with WITH.  Between the
operation and the table it passes over what has its parentheses closed, up to the keyword that the
table follows.
-/

namespace SqlTree

/-- The keyword that names the operation. -/
def Operation.keyword : Operation → Keyword
  | select => .select
  | insert => .insert
  | update => .update
  | delete => .delete

theorem Operation.ofKeyword?_keyword (operation : Operation) :
    ofKeyword? operation.keyword = some operation := by
  cases operation <;> rfl

namespace Lexeme

def operation? (lexeme : Lexeme) : Option Operation :=
  match lexeme.kind with
  | .keyword keyword => Operation.ofKeyword? keyword
  | _ => none

/-- The lexeme is the word WITH in any mixture of ASCII cases. -/
def isWith (lexeme : Lexeme) : Bool :=
  lexeme.kind == .literal && Parse.spellsWith lexeme.text

end Lexeme

theorem Word.operation?_lexeme (word : Word) : word.lexeme.operation? = none :=
  rfl

theorem Token.operation?_lexeme (token : Token) :
    token.lexeme.operation? = token.keyword?.bind Operation.ofKeyword? := by
  obtain ⟨kind, text, span⟩ := token
  cases kind <;> rfl

/-! ## Optional keywords -/

/-- The tokens are the keyword, or nothing. -/
inductive NamesOptional (keyword : Keyword) : List Token → (present : Bool) → Prop
  | absent : NamesOptional keyword [] false
  | present {token : Token} (names : token.kind = .keyword keyword) :
      NamesOptional keyword [token] true

theorem NamesOptional.of_lexemes {keyword : Keyword} {present : Bool} {tokens : List Token}
    (spelled : tokens.map Token.lexeme = if present then [keyword.lexeme] else []) :
    NamesOptional keyword tokens present := by
  cases present with
  | false =>
    obtain rfl := List.map_eq_nil_iff.mp spelled
    exact .absent
  | true =>
    obtain ⟨token, rfl, spelledKeyword⟩ := List.map_eq_singleton_iff.mp spelled
    exact .present (congrArg Lexeme.kind spelledKeyword)

/-- An optional keyword is read where it stands, and nothing is read where another token stands. -/
theorem NamesOptional.read {keyword : Keyword} {present : Bool}
    {tokens others : List Token} (names : NamesOptional keyword tokens present)
    {stop depth tests : Nat}
    (absent : Parse.State.isAt ⟨⟨others, stop⟩, depth, tests⟩ (.keyword keyword) = false) :
    Parse.State.isAt ⟨⟨tokens ++ others, stop⟩, depth, tests⟩ (.keyword keyword) = present ∧
      Parse.State.skip ⟨⟨tokens ++ others, stop⟩, depth, tests⟩ (.keyword keyword) =
        ⟨⟨others, stop⟩, depth, tests⟩ := by
  cases names with
  | absent => exact ⟨absent, by simp [Parse.State.skip, absent]⟩
  | present names => simp [Parse.State.skip, names]

namespace Parse

/-! ## Passing over tokens -/

/-- No operation is named. -/
def NamesNoOperation (lexemes : List Lexeme) : Prop :=
  ∀ lexeme ∈ lexemes, lexeme.operation? = none

theorem NamesNoOperation.append {first second : List Lexeme} (noneFirst : NamesNoOperation first)
    (noneSecond : NamesNoOperation second) : NamesNoOperation (first ++ second) :=
  List.forall_mem_append.mpr ⟨noneFirst, noneSecond⟩

theorem namesNoOperation_words (words : List Word) :
    NamesNoOperation (words.map Word.lexeme) := by
  intro lexeme member
  obtain ⟨word, -, rfl⟩ := List.mem_map.mp member
  rfl

theorem operationAhead_append {tokens : List Token}
    (noOperation : NamesNoOperation (tokens.map Token.lexeme)) (rest : List Token) :
    operationAhead (tokens ++ rest) = operationAhead rest := by
  induction tokens with
  | nil => rfl
  | cons token tokens ih =>
    have noneHere := noOperation token.lexeme (by simp)
    rw [Token.operation?_lexeme] at noneHere
    have noneBehind : NamesNoOperation (tokens.map Token.lexeme) :=
      fun lexeme member => noOperation lexeme (List.mem_cons_of_mem _ member)
    rw [List.cons_append, operationAhead, noneHere]
    exact ih noneBehind

theorem operationAhead_cons {token : Token} {operation : Operation}
    (named : token.kind = .keyword operation.keyword) (rest : List Token) :
    operationAhead (token :: rest) = some (operation, rest) := by
  have found : token.keyword?.bind Operation.ofKeyword? = some operation := by
    simp [Token.keyword?, named, operation.ofKeyword?_keyword]
  rw [operationAhead, found]

/-- The search for FROM passes over tokens that say the lexemes and is as deep behind them as before
them. -/
def Passes (lexemes : List Lexeme) : Prop :=
  ∀ tokens rest depth, tokens.map Token.lexeme = lexemes →
    afterFrom depth (tokens ++ rest) = afterFrom depth rest

namespace Passes

theorem nil : Passes [] := by
  intro tokens rest depth spelled
  rw [List.map_eq_nil_iff.mp spelled]
  rfl

theorem append {first second : List Lexeme} (passesFirst : Passes first)
    (passesSecond : Passes second) : Passes (first ++ second) := by
  intro tokens rest depth spelled
  obtain ⟨firstTokens, secondTokens, rfl, firstSpelled, secondSpelled⟩ :=
    List.map_eq_append_iff.mp spelled
  rw [List.append_assoc, passesFirst _ _ _ firstSpelled, passesSecond _ _ _ secondSpelled]

/-- A lexeme by itself is passed over unless it is a parenthesis or FROM. -/
theorem single {lexeme : Lexeme}
    (plain : lexeme.kind ∉ [.openParenthesis, .closeParenthesis, .keyword .«from»]) :
    Passes [lexeme] := by
  intro tokens rest depth spelled
  obtain ⟨token, rfl, said⟩ := List.map_eq_singleton_iff.mp spelled
  subst said
  simp only [List.mem_cons, List.not_mem_nil, or_false, not_or] at plain
  obtain ⟨noOpening, noClosing, noFrom⟩ := plain
  rw [List.singleton_append, afterFrom]
  split
  · next kindEq => exact absurd kindEq noOpening
  · next kindEq => exact absurd kindEq noClosing
  · next kindEq => exact absurd kindEq noFrom
  · rfl

theorem enclose {inner : List Lexeme} (passes : Passes inner) : Passes (Lexeme.enclose inner) := by
  intro tokens rest depth spelled
  obtain ⟨opening, others, rfl, opens, spelled⟩ := List.map_eq_cons_iff.mp spelled
  obtain ⟨innerTokens, last, rfl, innerSpelled, spelled⟩ := List.map_eq_append_iff.mp spelled
  obtain ⟨closing, rfl, closes⟩ := List.map_eq_singleton_iff.mp spelled
  have opensKind : opening.kind = .openParenthesis := congrArg Lexeme.kind opens
  have closesKind : closing.kind = .closeParenthesis := congrArg Lexeme.kind closes
  rw [List.cons_append, afterFrom, opensKind, List.append_assoc,
    passes innerTokens _ (depth + 1) innerSpelled, List.singleton_append]
  simp only [afterFrom, closesKind, Nat.add_sub_cancel]

theorem word (word : Word) : Passes [word.lexeme] :=
  single (by simp [Word.lexeme])

end Passes

/-! ## From the operation to the table -/

def onlyLexemes (only : Bool) : List Lexeme :=
  if only then [Keyword.lexeme .only] else []

/-- What stands between an operation and its table. -/
inductive Path : Operation → List Lexeme → Prop where
  | insert : Path .insert [Keyword.lexeme .into]
  | update (only : Bool) : Path .update (onlyLexemes only)
  | select {between : List Lexeme} (passes : Passes between) (only : Bool) :
    Path .select (between ++ Keyword.lexeme .«from» :: onlyLexemes only)
  | delete (only : Bool) : Path .delete (Keyword.lexeme .«from» :: onlyLexemes only)

theorem skip_only {tokens : List Token} {only : Bool}
    (spelled : tokens.map Token.lexeme = onlyLexemes only) {table : Token}
    (literal : table.kind = .literal) (rest : List Token) (stop : Nat) :
    State.skip ⟨⟨tokens ++ table :: rest, stop⟩, 0, 0⟩ (.keyword .only) =
      ⟨⟨table :: rest, stop⟩, 0, 0⟩ := by
  have names : NamesOptional .only tokens only := .of_lexemes spelled
  exact (names.read (by simp [literal])).2

theorem readFrom_of_passes {between tokens : List Token}
    (passes : Passes (between.map Token.lexeme)) {fromToken : Token}
    (fromKind : fromToken.kind = .keyword .«from») (stop : Nat) :
    readFrom ⟨⟨between ++ fromToken :: tokens, stop⟩, 0, 0⟩ = .ok ⟨⟨tokens, stop⟩, 0, 0⟩ := by
  have found : afterFrom 0 (between ++ fromToken :: tokens) = some tokens := by
    rw [passes between _ 0 rfl, afterFrom, fromKind, if_pos rfl]
  simp only [readFrom, found]
  rfl

/-- Both operations look for FROM, in front of which anything may be passed over. -/
theorem readUpToTable_of_passes {operation : Operation}
    (searches : operation = .select ∨ operation = .delete) {between tokens : List Token}
    (passes : Passes (between.map Token.lexeme)) {fromToken : Token}
    (fromKind : fromToken.kind = .keyword .«from») (stop : Nat) :
    readUpToTable operation ⟨⟨between ++ fromToken :: tokens, stop⟩, 0, 0⟩ =
      .ok (State.skip ⟨⟨tokens, stop⟩, 0, 0⟩ (.keyword .only)) := by
  have found := @readFrom_of_passes between tokens passes fromToken fromKind stop
  rcases searches with rfl | rfl
  · rw [readUpToTable, found]
  · rw [readUpToTable, found]

theorem readUpToTable_of_path {operation : Operation} {between : List Lexeme}
    (path : Path operation between) {tokens : List Token}
    (spelled : tokens.map Token.lexeme = between) {table : Token}
    (literal : table.kind = .literal) (rest : List Token) (stop : Nat) :
    readUpToTable operation ⟨⟨tokens ++ table :: rest, stop⟩, 0, 0⟩ =
      .ok ⟨⟨table :: rest, stop⟩, 0, 0⟩ := by
  cases path with
  | insert =>
    obtain ⟨into, rfl, isInto⟩ := List.map_eq_singleton_iff.mp spelled
    exact State.expect_cons (congrArg Lexeme.kind isInto) _ _ _ _
  | update only => exact congrArg Except.ok (skip_only spelled literal rest stop)
  | select passes only =>
    obtain ⟨betweenTokens, others, rfl, betweenSpelled, spelled⟩ :=
      List.map_eq_append_iff.mp spelled
    obtain ⟨fromToken, onlyTokens, rfl, isFrom, onlySpelled⟩ := List.map_eq_cons_iff.mp spelled
    subst betweenSpelled
    have fromKind : fromToken.kind = .keyword .«from» := congrArg Lexeme.kind isFrom
    rw [List.append_assoc, List.cons_append, readUpToTable_of_passes (.inl rfl) passes fromKind,
      skip_only onlySpelled literal]
  | delete only =>
    obtain ⟨fromToken, onlyTokens, rfl, isFrom, onlySpelled⟩ := List.map_eq_cons_iff.mp spelled
    have fromKind : fromToken.kind = .keyword .«from» := congrArg Lexeme.kind isFrom
    have found := @readUpToTable_of_passes .delete (.inr rfl) [] (onlyTokens ++ table :: rest)
      Passes.nil _ fromKind stop
    rw [List.nil_append] at found
    rw [List.cons_append, found, skip_only onlySpelled literal]

/-! ## The analysis -/

theorem readAnalysis_of_isWith {first : Token} (isWith : first.lexeme.isWith = true)
    (rest : List Token) (stop : Nat) :
    readAnalysis .all ⟨⟨first :: rest, stop⟩, 0, 0⟩ = .error ⟨.withStatement, first.span⟩ :=
  if_pos isWith

/-- Unless WITH comes first, the first operation is read, and then its table. -/
theorem readAnalysis_of_operationAhead {tokens rest : List Token} {operation : Operation}
    {stop : Nat}
    (guardPassed : (State.isAt ⟨⟨tokens, stop⟩, 0, 0⟩ .literal &&
      spellsWith (TokenStream.current ⟨tokens, stop⟩).text) = false)
    (found : operationAhead tokens = some (operation, rest)) :
    readAnalysis .all ⟨⟨tokens, stop⟩, 0, 0⟩ =
      (readTargetTable operation ⟨⟨rest, stop⟩, 0, 0⟩).map fun table =>
        ⟨some operation, some table⟩ := by
  have operationRead : readOperation ⟨⟨tokens, stop⟩, 0, 0⟩ =
      .ok (operation, ⟨⟨rest, stop⟩, 0, 0⟩) := by
    simp only [readOperation, found]
    rfl
  simp only [readAnalysis, AnalysisRequest.all, guardPassed, operationRead]
  cases readTargetTable operation ⟨⟨rest, stop⟩, 0, 0⟩ <;> rfl

/-- Behind a beginning that names no operation and does not begin with WITH, the operation is read,
and then its table. -/
theorem readAnalysis_of_lead {lead : List Lexeme} {operation : Operation}
    (noOperation : NamesNoOperation lead) (noWith : ∀ first ∈ lead.head?, first.isWith = false)
    {tokens : List Token} (spelled : tokens.map Token.lexeme = lead ++ [operation.keyword.lexeme])
    (rest : List Token) (stop : Nat) :
    readAnalysis .all ⟨⟨tokens ++ rest, stop⟩, 0, 0⟩ =
      (readTargetTable operation ⟨⟨rest, stop⟩, 0, 0⟩).map fun table =>
        ⟨some operation, some table⟩ := by
  obtain ⟨leadTokens, others, rfl, leadSpelled, spelled⟩ := List.map_eq_append_iff.mp spelled
  obtain ⟨named, rfl, namedSpelled⟩ := List.map_eq_singleton_iff.mp spelled
  subst leadSpelled
  have found : operationAhead (leadTokens ++ [named] ++ rest) = some (operation, rest) := by
    rw [List.append_assoc, operationAhead_append noOperation]
    exact operationAhead_cons (congrArg Lexeme.kind namedSpelled) rest
  have guardPassed :
      (State.isAt ⟨⟨leadTokens ++ [named] ++ rest, stop⟩, 0, 0⟩ .literal &&
        spellsWith (TokenStream.current ⟨leadTokens ++ [named] ++ rest, stop⟩).text) = false := by
    cases leadTokens with
    | nil =>
      have namedKind : named.kind = .keyword operation.keyword := congrArg Lexeme.kind namedSpelled
      simp [namedKind]
    | cons first _ => exact noWith first.lexeme rfl
  exact readAnalysis_of_operationAhead guardPassed found

theorem readTargetTable_of_path {operation : Operation} {between : List Lexeme}
    (path : Path operation between) {tokens : List Token} {table : Word}
    (spelled : tokens.map Token.lexeme = between ++ [table.lexeme]) (rest : List Token)
    (stop : Nat) :
    readTargetTable operation ⟨⟨tokens ++ rest, stop⟩, 0, 0⟩ = .ok table.text := by
  obtain ⟨betweenTokens, others, rfl, betweenSpelled, spelled⟩ :=
    List.map_eq_append_iff.mp spelled
  obtain ⟨tableToken, rfl, tableSpelled⟩ := List.map_eq_singleton_iff.mp spelled
  have literal : tableToken.kind = .literal := congrArg Lexeme.kind tableSpelled
  have tableText : tableToken.text = table.text := congrArg Lexeme.text tableSpelled
  rw [List.append_assoc, List.singleton_append]
  simp only [readTargetTable, readUpToTable_of_path path betweenSpelled literal,
    State.literal_cons literal, tableText]

section Text

variable {text : String} {tokens : List Token} {behind : TokenStream}

theorem analysis_eq (textTokens : TokenStream.ofText text = behind.prepend tokens) :
    analysis text .all =
      (readAnalysis .all ⟨⟨tokens ++ behind.ahead, behind.stop⟩, 0, 0⟩).mapError
        fun failure => failure.report .query text := by
  rw [analysis, textTokens]
  rfl

/-- A text that begins with WITH is refused. -/
theorem analysis_of_isWith (textTokens : TokenStream.ofText text = behind.prepend tokens)
    {first : Lexeme} {others : List Lexeme} (spelled : tokens.map Token.lexeme = first :: others)
    (isWith : first.isWith = true) :
    ∃ error, analysis text .all = .error error ∧ error.grammar = .query ∧
      error.cause = .withStatement := by
  obtain ⟨firstToken, rest, rfl, rfl, -⟩ := List.map_eq_cons_iff.mp spelled
  rw [analysis_eq textTokens, List.cons_append, readAnalysis_of_isWith isWith]
  exact ⟨_, rfl, rfl, rfl⟩

/-- The first operation that a text names is the one that is found, if any. -/
theorem operation_of_lead (textTokens : TokenStream.ofText text = behind.prepend tokens)
    {lead further : List Lexeme} {operation : Operation} (noOperation : NamesNoOperation lead)
    (noWith : ∀ first ∈ lead.head?, first.isWith = false)
    (spelled : tokens.map Token.lexeme = lead ++ operation.keyword.lexeme :: further)
    {found : Analysis} (analyzed : analysis text .all = .ok found) :
    found.operation = some operation := by
  rw [← List.singleton_append, ← List.append_assoc] at spelled
  obtain ⟨leadTokens, furtherTokens, rfl, leadSpelled, -⟩ := List.map_eq_append_iff.mp spelled
  rw [analysis_eq textTokens, List.append_assoc,
    readAnalysis_of_lead noOperation noWith leadSpelled] at analyzed
  cases target : readTargetTable operation ⟨⟨furtherTokens ++ behind.ahead, behind.stop⟩, 0, 0⟩ with
  | error failure =>
    rw [target] at analyzed
    cases analyzed
  | ok table =>
    rw [target] at analyzed
    cases analyzed
    rfl

/-- The first operation of a text is found together with the table behind it. -/
theorem analysis_of_path (textTokens : TokenStream.ofText text = behind.prepend tokens)
    {lead between : List Lexeme} {operation : Operation} {table : Word}
    (noOperation : NamesNoOperation lead) (noWith : ∀ first ∈ lead.head?, first.isWith = false)
    (path : Path operation between)
    (spelled : tokens.map Token.lexeme =
      lead ++ operation.keyword.lexeme :: (between ++ [table.lexeme])) :
    analysis text .all = .ok ⟨some operation, some table.text⟩ := by
  rw [← List.singleton_append, ← List.append_assoc] at spelled
  obtain ⟨leadTokens, pathTokens, rfl, leadSpelled, pathSpelled⟩ :=
    List.map_eq_append_iff.mp spelled
  rw [analysis_eq textTokens, List.append_assoc,
    readAnalysis_of_lead noOperation noWith leadSpelled, readTargetTable_of_path path pathSpelled]
  rfl

end Text

end Parse

end SqlTree
