import SqlTree.Proofs.Parse.Recognition
import SqlTree.Proofs.Token.Concatenation

/-!
# Nested queries are passed over

Between SELECT or DELETE and the table, any text may stand as long as its parentheses are balanced
and every FROM in it lies inside parentheses.  However many queries are nested there, the table that
an analysis finds is the one behind the first FROM outside of them.
-/

namespace SqlTree

open Lexer (EndsWord)

namespace Parse

/-! ## Balanced parentheses -/

/-- The parentheses are balanced, and every FROM lies inside parentheses. -/
structure EnclosesFrom (kinds : List TokenKind) : Prop where
  neverNegative : ∀ count ≤ kinds.length,
    (kinds.take count).count .closeParenthesis ≤ (kinds.take count).count .openParenthesis
  closed : kinds.count .closeParenthesis = kinds.count .openParenthesis
  enclosed : ∀ count, ∀ inside : count < kinds.length, kinds[count] = .keyword .«from» →
    (kinds.take count).count .closeParenthesis < (kinds.take count).count .openParenthesis

instance (kinds : List TokenKind) : Decidable (EnclosesFrom kinds) :=
  decidable_of_iff
    ((∀ count ≤ kinds.length,
      (kinds.take count).count .closeParenthesis ≤ (kinds.take count).count .openParenthesis) ∧
    kinds.count .closeParenthesis = kinds.count .openParenthesis ∧
    ∀ count, ∀ inside : count < kinds.length, kinds[count] = .keyword .«from» →
      (kinds.take count).count .closeParenthesis < (kinds.take count).count .openParenthesis)
    ⟨fun ⟨neverNegative, closed, enclosed⟩ => ⟨neverNegative, closed, enclosed⟩,
      fun ⟨neverNegative, closed, enclosed⟩ => ⟨neverNegative, closed, enclosed⟩⟩

/-- How many parentheses are open behind the tokens. -/
def openBehind (kinds : List TokenKind) : Nat :=
  kinds.count .openParenthesis - kinds.count .closeParenthesis

namespace EnclosesFrom

variable {front behind : List TokenKind}

theorem count_le (encloses : EnclosesFrom (front ++ behind)) :
    front.count .closeParenthesis ≤ front.count .openParenthesis := by
  have within := encloses.neverNegative front.length (by simp)
  rwa [List.take_left] at within

theorem openBehind_pos (encloses : EnclosesFrom (front ++ .keyword .«from» :: behind)) :
    0 < openBehind front := by
  have within := encloses.enclosed front.length (by simp) (by simp)
  rw [List.take_left] at within
  exact Nat.sub_pos_of_lt within

theorem openBehind_opening (encloses : EnclosesFrom (front ++ behind)) :
    openBehind (front ++ [.openParenthesis]) = openBehind front + 1 := by
  have notNegative := encloses.count_le
  simp only [openBehind, List.count_append, List.count_singleton]
  simp
  omega

/-- What is closed has been opened. -/
theorem openBehind_closing (encloses : EnclosesFrom (front ++ .closeParenthesis :: behind)) :
    openBehind front = openBehind (front ++ [.closeParenthesis]) + 1 := by
  rw [List.append_cons] at encloses
  have notNegative := encloses.count_le
  simp only [openBehind, List.count_append, List.count_singleton] at notNegative ⊢
  simp at notNegative ⊢
  omega

end EnclosesFrom

theorem openBehind_other {kind : TokenKind} (noOpening : kind ≠ .openParenthesis)
    (noClosing : kind ≠ .closeParenthesis) (front : List TokenKind) :
    openBehind (front ++ [kind]) = openBehind front := by
  simp [openBehind, List.count_append, noOpening, noClosing]

/-- Behind a part of what is balanced, the search for FROM is as deep as there are parentheses open.
The induction moves one token at a time from what is still ahead to that part. -/
theorem afterFrom_of_enclosesFrom {front : List TokenKind} {tokens : List Token}
    (encloses : EnclosesFrom (front ++ tokens.map Token.kind)) (rest : List Token) (depth : Nat) :
    afterFrom (depth + openBehind front) (tokens ++ rest) = afterFrom depth rest := by
  induction tokens generalizing front with
  | nil =>
    have closed := encloses.closed
    rw [List.map_nil, List.append_nil] at closed
    rw [openBehind, closed, Nat.sub_self]
    rfl
  | cons token tokens ih =>
    rw [List.map_cons] at encloses
    have passed := @ih (front ++ [token.kind]) (by simpa using encloses)
    rw [List.cons_append, afterFrom, ← passed]
    split
    · next opens => rw [opens, encloses.openBehind_opening, Nat.add_assoc]
    · next closes =>
      rw [closes] at encloses ⊢
      rw [encloses.openBehind_closing]
      rfl
    · next isFrom =>
      rw [isFrom] at encloses ⊢
      have inside := encloses.openBehind_pos
      rw [if_neg (by omega), openBehind_other (by simp) (by simp)]
    · next noOpening noClosing noFrom => rw [openBehind_other noOpening noClosing]

/-- What is balanced is passed over. -/
theorem EnclosesFrom.passes {tokens : List Token}
    (encloses : EnclosesFrom (tokens.map Token.kind)) : Passes (tokens.map Token.lexeme) := by
  intro others rest depth spelled
  have sameKinds : others.map Token.kind = tokens.map Token.kind := by
    simpa [Function.comp_def, Token.lexeme] using congrArg (List.map Lexeme.kind) spelled
  rw [← sameKinds] at encloses
  exact @afterFrom_of_enclosesFrom [] others encloses rest depth

/-! ## The table behind them -/

section Text

variable {operation : Operation} {between rest : String} {only : Bool} {table : Word}

theorem readTargetTable_of_passes (searches : operation = .select ∨ operation = .delete)
    {betweenTokens tokens : List Token} (passes : Passes (betweenTokens.map Token.lexeme))
    (spelled : tokens.map Token.lexeme =
      Keyword.lexeme .«from» :: (onlyLexemes only ++ [table.lexeme])) (behind : List Token)
    (stop : Nat) :
    readTargetTable operation ⟨⟨betweenTokens ++ (tokens ++ behind), stop⟩, 0, 0⟩ =
      .ok table.text := by
  obtain ⟨fromToken, others, rfl, isFrom, spelled⟩ := List.map_eq_cons_iff.mp spelled
  obtain ⟨onlyTokens, tableTokens, rfl, onlySpelled, spelled⟩ := List.map_eq_append_iff.mp spelled
  obtain ⟨tableToken, rfl, tableSpelled⟩ := List.map_eq_singleton_iff.mp spelled
  have fromKind : fromToken.kind = .keyword .«from» := congrArg Lexeme.kind isFrom
  have literal : tableToken.kind = .literal := congrArg Lexeme.kind tableSpelled
  have tableText : tableToken.text = table.text := congrArg Lexeme.text tableSpelled
  simp only [List.cons_append, List.append_assoc, List.nil_append]
  simp only [readTargetTable, readUpToTable_of_passes searches passes fromKind,
    skip_only onlySpelled literal, State.literal_cons literal, tableText]

/-- The first tokens of the text, up to the table, and the lexemes that they say. -/
theorem exists_tokens_up_to_table {text : String} (ends : EndsWord rest.toList)
    (textEq : text = operation.keyword.spelling ++ " " ++ between ++ " FROM "
      ++ (if only then "ONLY " else "") ++ table.text ++ rest) :
    ∃ named betweenTokens tokens behind, TokenStream.ofText text =
        TokenStream.prepend (named :: (betweenTokens ++ tokens)) behind ∧
      named.kind = .keyword operation.keyword ∧
      betweenTokens.map Token.lexeme = (TokenStream.ofText between).ahead.map Token.lexeme ∧
      tokens.map Token.lexeme =
        Keyword.lexeme .«from» :: (onlyLexemes only ++ [table.lexeme]) := by
  have leads := (operation.keyword.leads.append (spells_ofText between).leads_blank).append
    (leads_from only)
  have spells := (leads (table.text.toList ++ rest.toList)).append (table.spells.before ends)
  have charactersEq : text.toList = (operation.keyword.spelling ++ " ").toList
      ++ (between.toList ++ [' ']) ++ (if only then "FROM ONLY " else "FROM ").toList
      ++ table.text.toList ++ rest.toList := by
    cases only <;> simp [textEq]
  obtain ⟨tokens, behind, streamEq, spelled⟩ := spells.exists_tokens charactersEq
  simp only [List.cons_append, List.append_assoc, List.nil_append] at spelled
  obtain ⟨named, others, rfl, namedSpelled, spelled⟩ := List.map_eq_cons_iff.mp spelled
  obtain ⟨betweenTokens, fromTokens, rfl, betweenSpelled, fromSpelled⟩ :=
    List.map_eq_append_iff.mp spelled
  exact ⟨named, betweenTokens, fromTokens, behind, streamEq, congrArg Lexeme.kind namedSpelled,
    betweenSpelled, fromSpelled⟩

theorem analysis_of_enclosesFrom (searches : operation = .select ∨ operation = .delete)
    {text : String}
    (encloses : EnclosesFrom ((TokenStream.ofText between).ahead.map Token.kind))
    (ends : EndsWord rest.toList)
    (textEq : text = operation.keyword.spelling ++ " " ++ between ++ " FROM "
      ++ (if only then "ONLY " else "") ++ table.text ++ rest) :
    analysis text .all = .ok ⟨some operation, some table.text⟩ := by
  obtain ⟨named, betweenTokens, tokens, behind, streamEq, namedKind, betweenSpelled, spelled⟩ :=
    exists_tokens_up_to_table ends textEq
  have passes := encloses.passes
  rw [← betweenSpelled] at passes
  have found := operationAhead_cons namedKind (betweenTokens ++ (tokens ++ behind.ahead))
  have guardPassed : (State.isAt ⟨⟨named :: (betweenTokens ++ (tokens ++ behind.ahead)),
      behind.stop⟩, 0, 0⟩ .literal && spellsWith named.text) = false := by
    simp [namedKind]
  rw [analysis_eq streamEq, List.cons_append, List.append_assoc,
    readAnalysis_of_operationAhead guardPassed found,
    readTargetTable_of_passes searches passes spelled]
  rfl

end Text

/-- Whatever stands between SELECT or DELETE and FROM, as long as its parentheses are balanced and
every FROM in it lies inside them, and whatever follows the table: the analysis finds the operation
and the table behind that FROM. -/
theorem analysis_behind_nested_queries {between rest : String} {only : Bool} {table : Word}
    (encloses : EnclosesFrom ((TokenStream.ofText between).ahead.map Token.kind))
    (ends : EndsWord rest.toList) :
    analysis ("SELECT " ++ between ++ " FROM " ++ (if only then "ONLY " else "") ++ table.text
        ++ rest) .all = .ok ⟨some .select, some table.text⟩ ∧
      analysis ("DELETE " ++ between ++ " FROM " ++ (if only then "ONLY " else "") ++ table.text
        ++ rest) .all = .ok ⟨some .delete, some table.text⟩ :=
  ⟨analysis_of_enclosesFrom (.inl rfl) encloses ends rfl,
    analysis_of_enclosesFrom (.inr rfl) encloses ends rfl⟩

/-- Neither the queries in the select list nor a FROM behind the table is taken for the source. -/
theorem analysis_behind_nested_queries_of_counted :
    EnclosesFrom ((TokenStream.ofText "id, (SELECT n FROM (SELECT 1 FROM b)) AS n").ahead.map
        Token.kind) ∧
      EndsWord ") FROM c".toList ∧
      analysis ("SELECT " ++ "id, (SELECT n FROM (SELECT 1 FROM b)) AS n" ++ " FROM "
        ++ "ONLY " ++ "users" ++ ") FROM c") .all = .ok ⟨some .select, some "users"⟩ ∧
      analysis ("DELETE " ++ "id, (SELECT n FROM (SELECT 1 FROM b)) AS n" ++ " FROM "
        ++ "ONLY " ++ "users" ++ ") FROM c") .all = .ok ⟨some .delete, some "users"⟩ := by
  have encloses : EnclosesFrom
      ((TokenStream.ofText "id, (SELECT n FROM (SELECT 1 FROM b)) AS n").ahead.map
        Token.kind) := by
    decide +kernel
  have ends : EndsWord ") FROM c".toList := Lexer.endsWord_closing _
  have isWord : IsWord "users" := by decide
  exact ⟨encloses, ends,
    @analysis_behind_nested_queries _ _ true isWord.word encloses ends⟩

end Parse

end SqlTree
