import Mathlib.Data.List.Basic
import SqlTree.Proofs.Parse.Halting

/-!
# Errors point at the first impossible token

A text that is refused is refused at the token at which the automaton of its grammar stops.  So the
tokens in front of it can be continued to a sentence, and the tokens up to it cannot.
-/

namespace SqlTree

open Parse Expectation

variable {Tree : Type} {style : ConditionStyle Tree}

namespace Parse

open State

/-! ## WHERE and HAVING -/

/-- A text that goes on behind a whole condition is refused at the token behind it. -/
theorem halts_behind_condition {state rest : State} {tree : Tree} (isOutside : state.depth = 0)
    (read : Parse.condition style state = .ok (tree, rest)) (unfinished : rest.atEnd = false)
    (cause : ParseCause) :
    (Expectation.group 0).Halts state.toTokenStream (rest.failure cause) := by
  obtain ⟨tokens, phrase, reads, -⟩ := Nonterminal.reads_condition (by omega) read
  have refuses : (connective 0).Refuses rest.current :=
    refuses_connective (connective?_of_condition read) (by simp) fun _ => unfinished
  exact (Halts.here refuses cause).behind reads.ahead reads.stop (reads.derives.after 0)

theorem halts_of_finish {Value : Type} {state rest : State} {tree : Tree} {value : Value}
    {failure : Failure} (isOutside : state.depth = 0)
    (read : Parse.condition style state = .ok (tree, rest))
    (failed : rest.finish value = .error failure) :
    (Expectation.group 0).Halts state.toTokenStream failure := by
  obtain ⟨notEnd, rfl⟩ := eq_of_finish_eq_error failed
  exact halts_behind_condition isOutside read notEnd _

theorem halts_of_withoutKeyword {clause : ConditionClause} {ahead : List Token} {stop : Nat}
    {failure : Failure}
    (halts : (Expectation.group 0).Halts ⟨withoutKeyword clause.keyword ahead, stop⟩ failure) :
    (Expectation.clause clause).Halts ⟨ahead, stop⟩ failure := by
  cases ahead with
  | nil =>
    have noKeyword : TokenKind.endOfInput ≠ .keyword clause.keyword := by simp
    exact halts.of_agrees (clause.step_eq_group noKeyword) rfl
  | cons token rest =>
    rw [withoutKeyword] at halts
    split at halts
    · next isKeyword =>
      have taken : (Expectation.clause clause).after [token] = some (.group 0) :=
        after_cons_of_step isKeyword clause.step_keyword []
      exact halts.behind (by rfl) (by rfl) taken
    · next noKeyword => exact halts.of_agrees (clause.step_eq_group noKeyword) rfl

theorem halts_of_readFilter {clause : ConditionClause} {text : String} {failure : Failure}
    (failed : readFilter clause.keyword text = .error failure) :
    (Expectation.clause clause).Halts (TokenStream.ofText text) failure := by
  unfold readFilter at failed
  simp only [skip_keyword] at failed
  apply halts_of_withoutKeyword
  change (Expectation.group 0).Halts (filterStart clause.keyword text).toTokenStream failure
  have outside : (filterStart clause.keyword text).depth = 0 := rfl
  split at failed
  · next conditionFailed =>
    cases failed
    exact halts_of_condition (Nat.zero_le _) conditionFailed
  · next read => exact halts_of_finish outside read failed

/-! ## Tables -/

/-- The first expectation is that a table, `word [AS word]`, comes next, and the others are those
behind each of its tokens. -/
structure ExpectsTable (name behindName other behindOther : Expectation) : Prop where
  requires_name : name.step .literal = some behindName
  renames : behindName.step (.keyword .as) = some other
  requires_other : other.Requires .literal behindOther

theorem expectsTable_target : ExpectsTable target targetRest targetAlias on :=
  ⟨rfl, rfl, requires_targetAlias⟩

theorem expectsTable_cross : ExpectsTable crossTable crossRest crossAlias nothing :=
  ⟨rfl, rfl, requires_crossAlias⟩

section Tables

variable {name behindName other behindOther : Expectation} {state rest : State} {table : Table}
  {failure : Failure}

theorem ExpectsTable.halts_of_readTable (expects : ExpectsTable name behindName other behindOther)
    (refuses : state.current.kind ≠ .literal → name.Refuses state.current)
    (failed : readTable state = .error failure) : name.Halts state.toTokenStream failure := by
  unfold readTable at failed
  split at failed
  · next readFailed =>
    cases failed
    exact halts_of_literal refuses readFailed
  next given afterName readName =>
  obtain ⟨nameToken, passesName, nameWord, -⟩ := passes_of_literal readName
  refine .of_passes passesName (after_cons_of_step nameWord expects.requires_name []) ?_
  split at failed
  · next asFailed =>
    cases failed
    unfold asName at asFailed
    split at asFailed
    · next atAs =>
      obtain ⟨passesAs, isAs⟩ := passes_of_isAt atAs (by simp)
      refine .of_passes passesAs (after_cons_of_step isAs expects.renames []) ?_
      split at asFailed
      · cases asFailed
      · next otherFailed =>
        cases asFailed
        exact halts_of_literal expects.requires_other.refuses otherFailed
    · cases asFailed
  · cases failed

/-- Behind a table without another name, AS does not come. -/
theorem ExpectsTable.after_of_readTable (expects : ExpectsTable name behindName other behindOther)
    (read : readTable state = .ok (table, rest)) :
    (∃ token, state.Passes [token] rest ∧ name.after [token] = some behindName ∧
      rest.current.kind ≠ .keyword .as) ∨
    ∃ tokens, state.Passes tokens rest ∧ name.after tokens = some behindOther := by
  unfold readTable at read
  split at read
  · cases read
  next given afterName readName =>
  obtain ⟨nameToken, passesName, nameWord, -⟩ := passes_of_literal readName
  have takenName : name.after [nameToken] = some behindName :=
    after_cons_of_step nameWord expects.requires_name []
  split at read
  · cases read
  next asName last readAs =>
  cases read
  unfold State.asName at readAs
  split at readAs
  · next atAs =>
    obtain ⟨passesAs, isAs⟩ := passes_of_isAt atAs (by simp)
    split at readAs
    · next readOther =>
      cases readAs
      obtain ⟨otherToken, passesOther, otherWord, -⟩ := passes_of_literal readOther
      refine .inr ⟨_, passesName.trans (passesAs.trans passesOther), ?_⟩
      rw [after_append, takenName, Option.bind_some, List.singleton_append,
        after_cons_of_step isAs expects.renames]
      exact after_cons_of_step otherWord expects.requires_other.step_eq []
    · cases readAs
  · next notAt =>
    cases readAs
    exact .inl ⟨nameToken, passesName, takenName, current_kind_ne (Bool.of_not_eq_true notAt)⟩

end Tables

/-! ## Joins -/

section Joins

variable {state rest : State} {failure : Failure}

theorem halts_of_readKindWords {kind : JoinKind} (named : JoinKind)
    (names : state.current.keyword? = some named.keyword)
    (failed : readKindWords kind state = .error failure) :
    Expectation.join.Halts state.toTokenStream failure := by
  have isWord := kind_of_keyword? names
  obtain ⟨passes, -⟩ := passes_of_isAt (by simpa [isAt] using isWord) (by simp)
  refine .of_passes passes (after_cons_of_step isWord named.step_join []) ?_
  unfold readKindWords at failed
  split at failed
  · cases failed
  · next joinFailed =>
    cases failed
    exact halts_of_expect named.requires_behindWord joinFailed

theorem halts_of_readJoinKind (failed : readJoinKind state = .error failure) :
    Expectation.join.Halts state.toTokenStream failure := by
  unfold readJoinKind at failed
  split at failed
  · next names => exact halts_of_readKindWords .inner names failed
  · next names => exact halts_of_readKindWords .left names failed
  · next names => exact halts_of_readKindWords .right names failed
  · next names => exact halts_of_readKindWords .cross names failed
  · cases failed
  · cases failed

theorem halts_behind_kindWords {kind : JoinKind} (named : JoinKind)
    (names : state.current.keyword? = some named.keyword)
    (read : readKindWords named state = .ok (kind, rest))
    (halts : kind.behindWords.Halts rest.toTokenStream failure) :
    Expectation.join.Halts state.toTokenStream failure := by
  obtain ⟨rfl, word, joinToken, passes, isWord, joins⟩ := passes_of_readKindWords named names read
  exact halts.of_passes passes (JoinKind.after_words isWord joins)

theorem halts_behind_joinKind {kind : JoinKind} (read : readJoinKind state = .ok (kind, rest))
    (halts : kind.behindWords.Halts rest.toTokenStream failure) :
    Expectation.join.Halts state.toTokenStream failure := by
  unfold readJoinKind at read
  split at read
  · next names => exact halts_behind_kindWords .inner names read halts
  · next names => exact halts_behind_kindWords .left names read halts
  · next names => exact halts_behind_kindWords .right names read halts
  · next names => exact halts_behind_kindWords .cross names read halts
  · next names =>
    cases read
    have joins := kind_of_keyword? names
    obtain ⟨passes, -⟩ := passes_of_isAt (by simpa [isAt] using joins) (by simp)
    exact halts.of_passes passes (after_cons_of_step joins rfl [])
  · next noInner noLeft noRight noCross noJoin =>
    cases read
    have otherKind {keyword : Keyword} (noKeyword : state.current.keyword? = some keyword → False) :
        TokenKind.keyword keyword ≠ state.current.kind :=
      fun isKind => noKeyword (by simp [Token.keyword?, ← isKind])
    refine halts.of_agrees (step_join_eq ?_) rfl
    simp [kindOptions, otherKind noInner, otherKind noLeft, otherKind noRight, otherKind noCross,
      otherKind noJoin]

/-- Behind the table of a cross join, nothing can come but AS, and that only once. -/
theorem halts_of_readCrossJoin (failed : readCrossJoin state = .error failure) :
    crossTable.Halts state.toTokenStream failure := by
  unfold readCrossJoin at failed
  split at failed
  · next tableFailed =>
    cases failed
    exact expectsTable_cross.halts_of_readTable requires_crossTable.refuses tableFailed
  next table rest read =>
  obtain ⟨cause, unfinished, rfl⟩ :
      ∃ cause, rest.atEnd = false ∧ failure = rest.failure cause := by
    split at failed
    · next atOn =>
      cases failed
      have isOn : rest.current.kind = .keyword .on := by simpa [isAt] using atOn
      exact ⟨_, by simp [TokenStream.atEnd, Token.isEnd, isOn], rfl⟩
    · obtain ⟨notEnd, isFailure⟩ := eq_of_finish_eq_error failed
      exact ⟨_, notEnd, isFailure⟩
  have notEnd (isEnd : rest.current.isEnd = true) (last : Expectation) : last.mayEnd = false := by
    change rest.current.isEnd = false at unfinished
    rw [isEnd] at unfinished
    cases unfinished
  obtain ⟨token, passes, taken, noAs⟩ | ⟨tokens, passes, taken⟩ :=
    expectsTable_cross.after_of_readTable read
  · have refuses : crossRest.Refuses rest.current :=
      refuses_of_options (by simpa [options] using noAs.symm) fun isEnd => notEnd isEnd _
    exact (Halts.here refuses cause).of_passes passes taken
  · have refuses : nothing.Refuses rest.current :=
      refuses_of_options (by simp [options]) fun isEnd => notEnd isEnd _
    exact (Halts.here refuses cause).of_passes passes taken

theorem isAtTable_iff : state.isAtTable = true ↔ state.current.kind = .literal ∧
    (state.following.kind = .keyword .on ∨ state.following.kind = .keyword .as) := by
  simp [isAtTable, isAt]

/-- Without a table and without ON, only a condition can come, and a word is the left side of a
comparison. -/
theorem halts_of_bare_condition (noTable : state.isAtTable = false)
    (noOn : state.isAt (.keyword .on) = false)
    (halts : (Expectation.group 0).Halts state.toTokenStream failure) :
    target.Halts state.toTokenStream failure := by
  by_cases atWord : state.isAt .literal = true
  · obtain ⟨passes, isWord⟩ := passes_of_isAt atWord (by simp)
    have behindWord : (equals 0).Halts state.advance.toTokenStream failure :=
      halts.of_next passes (by rw [isWord]; rfl)
    have noNames : state.following.kind ≠ .keyword .on ∧ state.following.kind ≠ .keyword .as := by
      simpa [isAtTable, atWord] using noTable
    have agree : targetRest.step state.following.kind = (equals 0).step state.following.kind :=
      step_eq_of_options [(.keyword .as, targetAlias), (.keyword .on, .group 0)] rfl
        (by simp [noNames.1.symm, noNames.2.symm])
    exact .of_passes passes (after_cons_of_step isWord rfl []) (behindWord.of_agrees agree rfl)
  · have noWord := current_kind_ne (Bool.of_not_eq_true atWord)
    exact halts.of_agrees (step_target_eq (current_kind_ne noOn) noWord) rfl

theorem expect_of_readOn {table : Table} (failed : readOn table state = .error failure) :
    (table.isEmpty = false ∨ state.isAt (.keyword .on) = true) ∧
      state.expect (.keyword .on) = .error failure := by
  unfold readOn at failed
  split at failed
  · next needed => exact ⟨by simpa using needed, failed⟩
  · cases failed

/-- Behind a table, ON has to come. -/
theorem halts_of_readOn {afterTable : State} {table : Table}
    (read : readJoinTable state = .ok (table, afterTable))
    (failed : readOn table afterTable = .error failure) :
    target.Halts state.toTokenStream failure := by
  obtain ⟨needed, onFailed⟩ := expect_of_readOn failed
  obtain ⟨noOn, -⟩ := eq_of_expect_eq_error onFailed
  unfold readJoinTable at read
  split at read
  · next atTable =>
    obtain ⟨token, passes, -, noAs⟩ | ⟨tokens, passes, taken⟩ :=
      expectsTable_target.after_of_readTable read
    · -- A word is taken for a table only if ON or AS is behind it.
      have sameToken : state.following = afterTable.current := by
        rw [TokenStream.following, TokenStream.advance, TokenStream.current, TokenStream.current,
          passes.ahead, passes.stop]
        rfl
      rcases (isAtTable_iff.mp atTable).2 with isOn | isAs
      · rw [sameToken] at isOn
        exact absurd isOn (current_kind_ne noOn)
      · rw [sameToken] at isAs
        exact absurd isAs noAs
    · exact (halts_of_expect requires_on onFailed).of_passes passes taken
  · cases read
    rw [noOn] at needed
    simp [Table.isEmpty, Text.isBlank] at needed

theorem halts_behind_target {afterTable : State} {table : Table}
    (proper : ProperTokens state.ahead) (read : readJoinTable state = .ok (table, afterTable))
    (readKeyword : readOn table afterTable = .ok rest)
    (halts : (Expectation.group 0).Halts rest.toTokenStream failure) :
    target.Halts state.toTokenStream failure := by
  unfold readJoinTable at read
  split at read
  · obtain ⟨tokens, passesTable, names⟩ := passes_of_readTable read
    rw [readOn_eq_expect proper read] at readKeyword
    obtain ⟨on, passesOn, onKeyword⟩ := passes_of_expect (by simp) readKeyword
    exact halts.of_passes (passesTable.trans passesOn) (names.after_target onKeyword)
  · next noTable =>
    cases read
    unfold readOn at readKeyword
    split at readKeyword
    · obtain ⟨on, passesOn, onKeyword⟩ := passes_of_expect (by simp) readKeyword
      exact halts.of_passes passesOn (after_cons_of_step onKeyword rfl [])
    · next notNeeded =>
      cases readKeyword
      refine halts_of_bare_condition (Bool.of_not_eq_true noTable) ?_ halts
      simpa [Table.isEmpty, Text.isBlank] using notNeeded

/-- Outside parentheses there is nothing to close. -/
theorem halts_of_skipClosing {tree : Tree} (isOutside : state.depth = 0)
    (read : Parse.condition style state = .ok (tree, rest)) (restOutside : rest.depth = 0)
    (failed : rest.skipClosing = .error failure) :
    (Expectation.group 0).Halts state.toTokenStream failure := by
  unfold skipClosing closeGroup at failed
  rw [restOutside] at failed
  split at failed
  · next atClosing =>
    cases failed
    have isClosing : rest.current.kind = .closeParenthesis := by simpa [isAt] using atClosing
    have unfinished : rest.atEnd = false := by simp [TokenStream.atEnd, Token.isEnd, isClosing]
    exact halts_behind_condition isOutside read unfinished _
  · cases failed

theorem halts_of_readConditionJoin {kind : JoinKind} (proper : ProperTokens state.ahead)
    (isOutside : state.depth = 0) (failed : readConditionJoin kind state = .error failure) :
    target.Halts state.toTokenStream failure := by
  unfold readConditionJoin at failed
  split at failed
  · next tableFailed =>
    cases failed
    unfold readJoinTable at tableFailed
    split at tableFailed
    · next atTable =>
      have isWord := (isAtTable_iff.mp atTable).1
      exact expectsTable_target.halts_of_readTable (fun noWord => absurd isWord noWord) tableFailed
    · cases tableFailed
  next table afterTable read =>
  split at failed
  · next onFailed =>
    cases failed
    exact halts_of_readOn read onFailed
  next afterOn readKeyword =>
  apply halts_behind_target proper read readKeyword
  obtain ⟨targetTokens, written, passes, -, -⟩ := passes_of_readOn proper read readKeyword
  have afterOnOutside : afterOn.depth = 0 := passes.depth.trans isOutside
  split at failed
  · next conditionFailed =>
    cases failed
    rw [← afterOnOutside]
    exact halts_of_condition (by omega) conditionFailed
  next tree afterTree readTree =>
  obtain ⟨tokens, phrase, reads, -⟩ := Nonterminal.reads_condition (by omega) readTree
  have afterTreeOutside : afterTree.depth = 0 := reads.depth.trans afterOnOutside
  split at failed
  · next skipFailed =>
    cases failed
    exact halts_of_skipClosing afterOnOutside readTree afterTreeOutside skipFailed
  next last skipped =>
    obtain rfl := eq_of_skipClosing afterTreeOutside skipped
    exact halts_of_finish afterOnOutside readTree failed

theorem halts_of_readJoin {text : String} (failed : readJoin text = .error failure) :
    Expectation.join.Halts (TokenStream.ofText text) failure := by
  have proper := TokenStream.proper_ofText text
  unfold readJoin at failed
  change Expectation.join.Halts (State.ofStream (TokenStream.ofText text)).toTokenStream failure
  split at failed
  · next kindFailed =>
    cases failed
    exact halts_of_readJoinKind kindFailed
  next kind rest readWords =>
  apply halts_behind_joinKind readWords
  rcases passes_of_readJoinKind readWords with
    ⟨rfl, word, joinToken, passes, -⟩ | ⟨takesCondition, tokens, passes, -⟩
  · exact halts_of_readCrossJoin failed
  · have restProper : ProperTokens rest.ahead := by
      have aheadEq : (TokenStream.ofText text).ahead = tokens ++ rest.ahead := passes.ahead
      rw [aheadEq] at proper
      exact proper.of_append
    have conditional : readConditionJoin kind rest = .error failure := by
      cases kind with
      | cross => exact absurd rfl takesCondition
      | _ => exact failed
    rw [JoinKind.behindWords_of_ne takesCondition]
    exact halts_of_readConditionJoin restProper passes.depth conditional

end Joins

end Parse

/-! ## Whole texts -/

/-- The tokens in front of the token can be continued to a sentence, and the tokens up to it cannot.
If the token is the end of the input, those in front of it are no sentence. -/
structure IsFirstImpossible (sentence : List Token → Prop) (before : List Token) (token : Token) :
    Prop where
  possible : ∃ continuation, sentence (before ++ continuation)
  impossible : ∀ continuation, ¬ sentence (before ++ token :: continuation)
  unfinished : token.isEnd = true → ¬ sentence before

theorem Expectation.Refuses.isFirstImpossible {expectation last : Expectation}
    {before : List Token} {token : Token} (refuses : last.Refuses token)
    (taken : expectation.after before = some last) :
    IsFirstImpossible expectation.Allows before token where
  possible := by
    obtain ⟨continuation, allowed⟩ := last.exists_allows
    exact ⟨continuation, (allows_append taken).mpr allowed⟩
  impossible := by
    intro continuation allowed
    obtain ⟨next, step, -⟩ := allows_cons.mp ((allows_append taken).mp allowed)
    rw [refuses.step_eq] at step
    cases step
  unfinished := by
    intro isEnd allowed
    rw [← List.append_nil before] at allowed
    have ends := allows_nil.mp ((allows_append taken).mp allowed)
    rw [refuses.mayEnd_eq isEnd] at ends
    cases ends

/-- The error points at the first token of the text, the end of the input included, up to which the
text cannot be continued to a sentence. -/
def ParseError.PointsAtFirstImpossible (error : ParseError) (sentence : List Token → Prop)
    (text : String) : Prop :=
  ∃ before token behind, (TokenStream.ofText text).toList = before ++ token :: behind ∧
    error.span = some token.span ∧ IsFirstImpossible sentence before token

/-- A cause that is neither of the two bounds is told apart by its message. -/
theorem Expectation.Halts.pointsAtFirstImpossible {expectation : Expectation} {text : String}
    {failure : Failure} {sentence : List Token → Prop}
    (halts : expectation.Halts (TokenStream.ofText text) failure)
    (allows_iff : ∀ tokens, expectation.Allows tokens ↔ sentence tokens) (grammar : Grammar)
    (notDeep : failure.cause.message ≠ "nesting too deep")
    (notLong : failure.cause.message ≠ "too many conditions") :
    (failure.report grammar text).PointsAtFirstImpossible sentence text := by
  rcases halts with (deep | long) | ⟨before, token, behind, last, split, taken, refuses, span⟩
  · exact absurd (congrArg ParseCause.message deep) notDeep
  · exact absurd (congrArg ParseCause.message long) notLong
  · have isFirst := refuses.isFirstImpossible taken
    rw [funext fun tokens => propext (allows_iff tokens)] at isFirst
    exact ⟨before, token, behind, split, congrArg some span, isFirst⟩

/-- A text that is refused as a condition of a clause or as a join, and not for one of the two
bounds, is refused at its first impossible token: the tokens in front of it can be continued to a
sentence of the grammar, and the tokens up to it cannot. -/
theorem Parse.refused_at_first_impossible_token (text : String) :
    (∀ (clause : ConditionClause) error, clause.parse text = .error error →
      error.message ≠ "nesting too deep" → error.message ≠ "too many conditions" →
      error.PointsAtFirstImpossible clause.IsSentence text) ∧
    (∀ error, Parse.join text = .error error →
      error.message ≠ "nesting too deep" → error.message ≠ "too many conditions" →
      error.PointsAtFirstImpossible IsJoinSentence text) := by
  constructor
  · intro clause error refused notDeep notLong
    rw [ConditionClause.parse_eq, Parse.filter] at refused
    obtain ⟨failure, failed, rfl⟩ := exists_of_report_eq_error refused
    exact (halts_of_readFilter failed).pointsAtFirstImpossible
      (fun tokens => ConditionClause.allows_iff) _ notDeep notLong
  · intro error refused notDeep notLong
    obtain ⟨failure, failed, rfl⟩ := exists_of_report_eq_error refused
    exact (halts_of_readJoin failed).pointsAtFirstImpossible
      (fun tokens => allows_join_iff) _ notDeep notLong

/-- A table has at most one other name: the second AS is where the text cannot go on. -/
theorem Parse.refused_at_second_as :
    ∃ error, Parse.join "CROSS JOIN teams AS t AS u" = .error error ∧
      error.message = "expected end of input, found `AS`" ∧ error.span = some ⟨22, 24⟩ ∧
      error.PointsAtFirstImpossible IsJoinSentence "CROSS JOIN teams AS t AS u" := by
  have refused : Parse.join "CROSS JOIN teams AS t AS u" =
      .error ⟨.joinCondition, .unexpected .endOfInput ⟨.keyword .as, "AS", ⟨22, 24⟩⟩,
        some ⟨22, 24⟩, "CROSS JOIN teams AS t AS u"⟩ := by
    decide +kernel
  have points := (Parse.refused_at_first_impossible_token "CROSS JOIN teams AS t AS u").2 _ refused
    (by decide) (by decide)
  exact ⟨_, refused, by decide, rfl, points⟩

end SqlTree
