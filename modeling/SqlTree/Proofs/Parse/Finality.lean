import SqlTree.Proofs.Parse.Filters
import SqlTree.Proofs.Parse.Targets
import SqlTree.Proofs.Token.Concatenation

/-!
# Answers are final

An analysis looks at no token behind the last one that it needs.  So an answer stays the same when
more text follows behind a blank.  What is asked for decides only how far an analysis reads and what
it tells: the operation comes first, and the table is looked for behind it.
-/

namespace SqlTree

/-- The tokens of a text come first where a blank and more text follow it. -/
theorem TokenStream.exists_ofText_blank (text further : String) :
    ∃ behind, ofText (text ++ " " ++ further) = prepend (ofText text).ahead behind := by
  have atStart : Lexer.Splits [] text.toList := .inl (by simp)
  obtain ⟨tokens, streamEq, tiles⟩ := @Lexer.tiles_stream [] text.toList false atStart
  have cuts := tiles.cuts (Lexer.endsWord_blank further.toList)
  have textTokens : (ofText text).ahead = tokens := congrArg ahead streamEq
  have charactersEq : (text ++ " " ++ further).toList = text.toList ++ ' ' :: further.toList := by
    simp
  refine ⟨Lexer.stream ⟨' ' :: further.toList, byteLength text.toList, false⟩, ?_⟩
  rw [textTokens, ofText, Lexer.ofText, charactersEq]
  exact cuts

namespace Parse

namespace State

/-- The state with the tokens of another stream behind its own. -/
def followedBy (state : State) (behind : TokenStream) : State :=
  { state with toTokenStream := behind.prepend state.ahead }

section Followed

variable {state rest : State} {kind : TokenKind}

theorem ahead_ne_nil_of_isAt (atKind : state.isAt kind = true) (notEnd : kind ≠ .endOfInput) :
    state.ahead ≠ [] := by
  intro nothingLeft
  have passed := (passes_of_isAt atKind notEnd).1.ahead
  rw [nothingLeft] at passed
  cases passed

theorem ahead_ne_nil_of_skip (unread : (state.skip kind).ahead ≠ []) : state.ahead ≠ [] := by
  intro nothingLeft
  apply unread
  unfold skip
  split
  · simp [advance, TokenStream.advance, nothingLeft]
  · exact nothingLeft

theorem current_followedBy (unread : state.ahead ≠ []) (behind : TokenStream) :
    (state.followedBy behind).current = state.current := by
  obtain ⟨⟨ahead, stop⟩, depth, tests⟩ := state
  cases ahead with
  | nil => exact absurd rfl unread
  | cons token others => rfl

theorem advance_followedBy (unread : state.ahead ≠ []) (behind : TokenStream) :
    (state.followedBy behind).advance = state.advance.followedBy behind := by
  obtain ⟨⟨ahead, stop⟩, depth, tests⟩ := state
  cases ahead with
  | nil => exact absurd rfl unread
  | cons token others => rfl

theorem isAt_followedBy (unread : state.ahead ≠ []) (behind : TokenStream) (kind : TokenKind) :
    (state.followedBy behind).isAt kind = state.isAt kind := by
  rw [isAt, isAt, current_followedBy unread]

theorem skip_followedBy (unread : state.ahead ≠ []) (behind : TokenStream) (kind : TokenKind) :
    (state.followedBy behind).skip kind = (state.skip kind).followedBy behind := by
  rw [skip, skip, isAt_followedBy unread, advance_followedBy unread]
  split <;> rfl

theorem expect_followedBy (read : state.expect kind = .ok rest) (notEnd : kind ≠ .endOfInput)
    (behind : TokenStream) :
    (state.followedBy behind).expect kind = .ok (rest.followedBy behind) := by
  unfold expect at read
  split at read
  · next atKind =>
    cases read
    have unread := ahead_ne_nil_of_isAt atKind notEnd
    rw [expect, isAt_followedBy unread, advance_followedBy unread, if_pos atKind]
  · cases read

theorem literal_followedBy {name : String} (read : state.literal = .ok (name, rest))
    (behind : TokenStream) :
    (state.followedBy behind).literal = .ok (name, rest.followedBy behind) := by
  unfold literal at read
  split at read
  · next atWord =>
    cases read
    have unread := ahead_ne_nil_of_isAt atWord (by simp)
    rw [literal, isAt_followedBy unread, current_followedBy unread, advance_followedBy unread,
      if_pos atWord]
  · cases read

theorem ahead_ne_nil_of_literal {name : String} (read : state.literal = .ok (name, rest)) :
    state.ahead ≠ [] := by
  unfold literal at read
  split at read
  · next atWord => exact ahead_ne_nil_of_isAt atWord (by simp)
  · cases read

end Followed

end State

/-! ## Scans that have stopped -/

theorem operationAhead_append_of_found {tokens rest : List Token} {operation : Operation}
    (found : operationAhead tokens = some (operation, rest)) (behind : List Token) :
    operationAhead (tokens ++ behind) = some (operation, rest ++ behind) := by
  induction tokens with
  | nil => cases found
  | cons token tokens ih =>
    rw [operationAhead] at found
    rw [List.cons_append, operationAhead]
    split at found
    · cases found
      rfl
    · exact ih found

theorem afterFrom_append_of_found {depth : Nat} {tokens rest : List Token}
    (found : afterFrom depth tokens = some rest) (behind : List Token) :
    afterFrom depth (tokens ++ behind) = some (rest ++ behind) := by
  induction tokens generalizing depth with
  | nil => cases found
  | cons token tokens ih =>
    rw [afterFrom] at found
    rw [List.cons_append, afterFrom]
    split at found
    · exact ih found
    · exact ih found
    · split at found
      · next outside =>
        cases found
        exact if_pos outside
      · next inside =>
        rw [if_neg inside]
        exact ih found
    · exact ih found

section Tables

variable {operation : Operation} {state rest : State}

theorem readOperation_followedBy (read : readOperation state = .ok (operation, rest))
    (behind : TokenStream) :
    readOperation (state.followedBy behind) = .ok (operation, rest.followedBy behind) := by
  unfold readOperation at read
  split at read
  · next aheadRest found =>
    cases read
    have foundAgain : operationAhead (state.followedBy behind).ahead =
        some (operation, aheadRest ++ behind.ahead) :=
      operationAhead_append_of_found found behind.ahead
    unfold readOperation
    rw [foundAgain]
    rfl
  · cases read

theorem readFrom_followedBy (read : readFrom state = .ok rest) (behind : TokenStream) :
    readFrom (state.followedBy behind) = .ok (rest.followedBy behind) := by
  unfold readFrom at read
  split at read
  · next aheadRest found =>
    cases read
    have foundAgain : afterFrom 0 (state.followedBy behind).ahead =
        some (aheadRest ++ behind.ahead) :=
      afterFrom_append_of_found found behind.ahead
    unfold readFrom
    rw [foundAgain]
    rfl
  · cases read

/-- ONLY may be left out, so that a token has to be left from which this can be told. -/
theorem readUpToTable_followedBy (read : readUpToTable operation state = .ok rest)
    (unread : rest.ahead ≠ []) (behind : TokenStream) :
    readUpToTable operation (state.followedBy behind) = .ok (rest.followedBy behind) := by
  cases operation with
  | insert => exact State.expect_followedBy read (by simp) behind
  | update =>
    cases read
    exact congrArg Except.ok (State.skip_followedBy (State.ahead_ne_nil_of_skip unread) behind _)
  | select | delete =>
    simp only [readUpToTable] at read ⊢
    split at read
    · next afterFrom found =>
      cases read
      rw [readFrom_followedBy found behind]
      exact congrArg Except.ok (State.skip_followedBy (State.ahead_ne_nil_of_skip unread) behind _)
    · cases read

theorem readTargetTable_followedBy {table : String}
    (read : readTargetTable operation state = .ok table) (behind : TokenStream) :
    readTargetTable operation (state.followedBy behind) = .ok table := by
  unfold readTargetTable at read
  split at read
  · cases read
  next atTable readUpTo =>
  split at read
  · next readName =>
    cases read
    have unread := State.ahead_ne_nil_of_literal readName
    rw [readTargetTable, readUpToTable_followedBy readUpTo unread behind]
    simp only [State.literal_followedBy readName behind]
  · cases read

end Tables

/-! ## What is asked for -/

/-- The statement does not begin with WITH, and the analysis tells the operation and the table of it
as far as they are asked for. -/
structure Answers (request : AnalysisRequest) (state : State) (found : Analysis)
    (operation : Operation) (rest : State) : Prop where
  noWith : (state.isAt .literal && spellsWith state.current.text) = false
  operationRead : readOperation state = .ok (operation, rest)
  operation_eq : found.operation = if request.operation then some operation else none
  tableRead : request.table = true →
    ∃ table, readTargetTable operation rest = .ok table ∧ found.table = some table
  table_eq_none : request.table = false → found.table = none

section Requests

variable {request : AnalysisRequest} {state : State} {found : Analysis}

theorem readAnalysis_of_nothing (asksNothing : (!request.operation && !request.table) = true)
    (state : State) : readAnalysis request state = .ok {} :=
  if_pos asksNothing

theorem readAnalysis_eq_ok_iff (asks : (!request.operation && !request.table) = false) :
    readAnalysis request state = .ok found ↔
      ∃ operation rest, Answers request state found operation rest := by
  simp only [readAnalysis, asks, Bool.false_eq_true, if_false]
  constructor
  · intro read
    split at read
    · cases read
    next noWith =>
    split at read
    · cases read
    next operation rest operationRead =>
    have noWith := Bool.of_not_eq_true noWith
    cases asksTable : request.table with
    | true =>
      simp only [asksTable, if_true] at read
      split at read
      · cases read
      · next table tableRead =>
        cases read
        exact ⟨operation, rest, noWith, operationRead, rfl, fun _ => ⟨table, tableRead, rfl⟩,
          by simp [asksTable]⟩
    | false =>
      simp only [asksTable, Bool.false_eq_true, if_false] at read
      cases read
      exact ⟨operation, rest, noWith, operationRead, rfl, by simp [asksTable], fun _ => rfl⟩
  · rintro ⟨operation, rest, noWith, operationRead, operationEq, tableRead, tableEqNone⟩
    obtain ⟨foundOperation, foundTable⟩ := found
    simp only at operationEq tableRead tableEqNone
    simp only [noWith, Bool.false_eq_true, if_false, operationRead, operationEq]
    cases asksTable : request.table with
    | true =>
      obtain ⟨table, read, tableEq⟩ := tableRead asksTable
      simp only [read, tableEq, if_true]
    | false => simp [tableEqNone asksTable]

theorem Answers.followedBy {operation : Operation} {rest : State}
    (answers : Answers request state found operation rest) (behind : TokenStream) :
    Answers request (state.followedBy behind) found operation (rest.followedBy behind) where
  noWith := by
    have unread : state.ahead ≠ [] := by
      intro nothingLeft
      have operationRead := answers.operationRead
      rw [readOperation, nothingLeft] at operationRead
      cases operationRead
    rw [State.isAt_followedBy unread, State.current_followedBy unread, answers.noWith]
  operationRead := readOperation_followedBy answers.operationRead behind
  operation_eq := answers.operation_eq
  tableRead := by
    intro asksTable
    obtain ⟨table, read, tableEq⟩ := answers.tableRead asksTable
    exact ⟨table, readTargetTable_followedBy read behind, tableEq⟩
  table_eq_none := answers.table_eq_none

/-- What has been read stays when more tokens follow. -/
theorem readAnalysis_followedBy (read : readAnalysis request state = .ok found)
    (behind : TokenStream) : readAnalysis request (state.followedBy behind) = .ok found := by
  cases asks : !request.operation && !request.table with
  | true =>
    rw [readAnalysis_of_nothing asks] at read ⊢
    exact read
  | false =>
    rw [readAnalysis_eq_ok_iff asks] at read ⊢
    obtain ⟨operation, rest, answers⟩ := read
    exact ⟨operation, rest.followedBy behind, answers.followedBy behind⟩

/-- Everything is read if and only if each of the two parts is read by itself. -/
theorem readAnalysis_all_eq_ok_iff :
    readAnalysis .all state = .ok found ↔
      ∃ first second, readAnalysis ⟨true, false⟩ state = .ok first ∧
        readAnalysis ⟨false, true⟩ state = .ok second ∧
        found = ⟨first.operation, second.table⟩ := by
  constructor
  · intro read
    obtain ⟨operation, rest, answers⟩ := (readAnalysis_eq_ok_iff rfl).mp read
    obtain ⟨table, tableRead, tableEq⟩ := answers.tableRead rfl
    have first : Answers ⟨true, false⟩ state ⟨some operation, none⟩ operation rest :=
      ⟨answers.noWith, answers.operationRead, rfl, by simp, fun _ => rfl⟩
    have second : Answers ⟨false, true⟩ state ⟨none, some table⟩ operation rest :=
      ⟨answers.noWith, answers.operationRead, rfl, fun _ => ⟨table, tableRead, rfl⟩, by simp⟩
    refine ⟨_, _, (readAnalysis_eq_ok_iff rfl).mpr ⟨operation, rest, first⟩,
      (readAnalysis_eq_ok_iff rfl).mpr ⟨operation, rest, second⟩, ?_⟩
    obtain ⟨foundOperation, foundTable⟩ := found
    simpa [AnalysisRequest.all] using ⟨answers.operation_eq, tableEq⟩
  · rintro ⟨first, second, readFirst, readSecond, rfl⟩
    obtain ⟨operation, rest, firstAnswers⟩ := (readAnalysis_eq_ok_iff rfl).mp readFirst
    obtain ⟨sameOperation, sameRest, secondAnswers⟩ := (readAnalysis_eq_ok_iff rfl).mp readSecond
    -- Both parts come from the same operation, which is what is looked for first.
    have operationRead := firstAnswers.operationRead
    rw [secondAnswers.operationRead] at operationRead
    cases operationRead
    refine (readAnalysis_eq_ok_iff rfl).mpr ⟨operation, rest, ?_⟩
    exact ⟨firstAnswers.noWith, firstAnswers.operationRead, firstAnswers.operation_eq,
      secondAnswers.tableRead, by simp [AnalysisRequest.all]⟩

/-- Behind a table that was read there is an operation that was read. -/
theorem exists_operation_of_readAnalysis (read : readAnalysis ⟨false, true⟩ state = .ok found) :
    ∃ named, readAnalysis ⟨true, false⟩ state = .ok named := by
  obtain ⟨operation, rest, answers⟩ := (readAnalysis_eq_ok_iff rfl).mp read
  exact ⟨⟨some operation, none⟩, (readAnalysis_eq_ok_iff rfl).mpr ⟨operation, rest,
    answers.noWith, answers.operationRead, rfl, by simp, fun _ => rfl⟩⟩

/-- An analysis tells what is asked for and nothing else. -/
theorem isSome_of_readAnalysis (read : readAnalysis request state = .ok found) :
    found.operation.isSome = request.operation ∧ found.table.isSome = request.table := by
  cases asks : !request.operation && !request.table with
  | true =>
    have nothing : request.operation = false ∧ request.table = false := by simpa using asks
    rw [readAnalysis_of_nothing asks] at read
    cases read
    exact ⟨nothing.1.symm, nothing.2.symm⟩
  | false =>
    obtain ⟨operation, rest, answers⟩ := (readAnalysis_eq_ok_iff asks).mp read
    constructor
    · rw [answers.operation_eq]
      cases request.operation <;> rfl
    · cases asksTable : request.table with
      | true =>
        obtain ⟨table, -, tableEq⟩ := answers.tableRead asksTable
        rw [tableEq, Option.isSome_some]
      | false => rw [answers.table_eq_none asksTable, Option.isSome_none]

end Requests

/-- The answer of an analysis is final: it stays when any text follows behind a blank.  It tells
exactly what is asked for, and the two things that can be asked for are independent: both are told
together if and only if each is told by itself, and a table is told only of a statement whose
operation is told, too. -/
theorem analysis_is_final :
    (∀ text further request found, analysis text request = .ok found →
      analysis (text ++ " " ++ further) request = .ok found) ∧
    (∀ text request found, analysis text request = .ok found →
      found.operation.isSome = request.operation ∧ found.table.isSome = request.table) ∧
    (∀ text found, analysis text .all = .ok found ↔
      ∃ first second, analysis text ⟨true, false⟩ = .ok first ∧
        analysis text ⟨false, true⟩ = .ok second ∧
        found = ⟨first.operation, second.table⟩) ∧
    (∀ text found, analysis text ⟨false, true⟩ = .ok found →
      ∃ named, analysis text ⟨true, false⟩ = .ok named) := by
  simp only [analysis, report_eq_ok_iff]
  refine ⟨?_, fun _ _ _ => isSome_of_readAnalysis, fun _ _ => readAnalysis_all_eq_ok_iff,
    fun _ _ => exists_operation_of_readAnalysis⟩
  intro text further request found read
  obtain ⟨behind, textTokens⟩ := TokenStream.exists_ofText_blank text further
  rw [textTokens]
  exact readAnalysis_followedBy read behind

/-- The word behind the table neither becomes part of its name nor takes its place. -/
theorem analysis_is_final_of_update :
    analysis "update only users" ⟨false, true⟩ = .ok ⟨none, some "users"⟩ ∧
      analysis ("update only users" ++ " " ++ "_old SET (") ⟨false, true⟩ =
        .ok ⟨none, some "users"⟩ ∧
      ∃ named, analysis "update only users" ⟨true, false⟩ = .ok named := by
  have analyzed : analysis "update only users" ⟨false, true⟩ = .ok ⟨none, some "users"⟩ := by
    decide +kernel
  exact ⟨analyzed, analysis_is_final.1 _ _ _ _ analyzed, analysis_is_final.2.2.2 _ _ analyzed⟩

end Parse

end SqlTree
