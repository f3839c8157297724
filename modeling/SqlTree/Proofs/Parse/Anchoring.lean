import SqlTree.Proofs.Parse.Halting
import SqlTree.Proofs.Parse.Queries

/-!
# Failures are anchored

Whenever reading fails, the failure points at a token that is still ahead, the end of the input
included, and what it tells of a token that was found it tells of this one.  After a success the
tokens ahead are the last ones of those that were ahead before.  Together the two are carried from
the single steps to whole parsers.
-/

namespace SqlTree

/-- What the cause tells of a token that was found, it tells of the given one. -/
def ParseCause.Finds : ParseCause → Token → Prop
  | unexpected _ found, token => found = token
  | unsupportedOperator found, token => found = token.text
  | stated _, _ => False
  | _, _ => True

namespace Parse

/-- The failure points at a token of the stream and tells of no other one. -/
def Failure.AnchoredIn (failure : Failure) (stream : TokenStream) : Prop :=
  ∃ token ∈ stream.toList, failure.span = token.span ∧ failure.cause.Finds token

theorem Failure.AnchoredIn.of_suffix {failure : Failure} {stream rest : TokenStream}
    (anchored : failure.AnchoredIn rest) (later : rest.toList <:+ stream.toList) :
    failure.AnchoredIn stream := by
  obtain ⟨token, member, points⟩ := anchored
  exact ⟨token, later.subset member, points⟩

/-- What is read from a state is a value behind which the last of the tokens are still ahead, or a
failure that points at one of them. -/
def Anchored {Value : Type} (position : Value → State) (state : State) :
    Except Failure Value → Prop
  | .ok value => (position value).toList <:+ state.toList
  | .error failure => failure.AnchoredIn state.toTokenStream

namespace Anchored

variable {Value Result : Type} {state rest : State} {position : Value → State}
  {next : Result → State} {outcome : Except Failure Value}

theorem of_ok (anchored : Anchored position state outcome) {value : Value}
    (read : outcome = .ok value) : (position value).toList <:+ state.toList := by
  rw [read] at anchored
  exact anchored

theorem of_error (anchored : Anchored position state outcome) {failure : Failure}
    (failed : outcome = .error failure) : failure.AnchoredIn state.toTokenStream := by
  rw [failed] at anchored
  exact anchored

theorem behind (later : rest.toList <:+ state.toList) (anchored : Anchored position rest outcome) :
    Anchored position state outcome := by
  cases outcome with
  | error failure => exact Failure.AnchoredIn.of_suffix anchored later
  | ok value => exact List.IsSuffix.trans anchored later

theorem bind {further : Value → Except Failure Result}
    (anchored : Anchored position state outcome)
    (continued : ∀ value, outcome = .ok value → Anchored next (position value) (further value)) :
    Anchored next state (outcome >>= further) := by
  cases outcome with
  | error failure => exact anchored
  | ok value => exact (continued value rfl).behind anchored

theorem map {convert : Value → Result} (anchored : Anchored position state outcome)
    (samePosition : ∀ value, next (convert value) = position value) :
    Anchored next state (outcome.map convert) := by
  cases outcome with
  | error failure => exact anchored
  | ok value =>
    change (next (convert value)).toList <:+ _
    rw [samePosition]
    exact anchored

end Anchored

/-! ## Single tokens -/

section Steps

theorem toList_advance_suffix (state : State) : state.advance.toList <:+ state.toList := by
  obtain ⟨⟨ahead, stop⟩, depth, tests⟩ := state
  cases ahead with
  | nil => exact List.suffix_rfl
  | cons token others => exact List.suffix_cons token _

theorem toList_skip_suffix (state : State) (kind : TokenKind) :
    (state.skip kind).toList <:+ state.toList := by
  unfold State.skip
  split
  · exact toList_advance_suffix state
  · exact List.suffix_rfl

theorem anchoredIn_failure {state : State} {cause : ParseCause}
    (finds : cause.Finds state.current) :
    (state.failure cause).AnchoredIn state.toTokenStream := by
  obtain ⟨behind, currentFirst⟩ := state.exists_toList
  exact ⟨state.current, by simp [currentFirst], rfl, finds⟩

theorem anchored_expect (state : State) (kind : TokenKind) :
    Anchored id state (state.expect kind) := by
  unfold State.expect
  split
  · exact toList_advance_suffix state
  · exact anchoredIn_failure rfl

theorem anchored_literal (state : State) : Anchored Prod.snd state state.literal := by
  unfold State.literal
  split
  · exact toList_advance_suffix state
  · exact anchoredIn_failure rfl

theorem anchoredIn_of_finish {Value : Type} {state : State} {value : Value} {failure : Failure}
    (failed : state.finish value = .error failure) : failure.AnchoredIn state.toTokenStream := by
  obtain ⟨-, rfl⟩ := State.eq_of_finish_eq_error failed
  exact anchoredIn_failure rfl

theorem anchored_asName (state : State) : Anchored Prod.snd state state.asName := by
  unfold State.asName
  split
  · refine .behind (toList_advance_suffix state) ?_
    split
    · next read => exact (anchored_literal _).of_ok read
    · next failed => exact (anchored_literal _).of_error failed
  · exact List.suffix_rfl

theorem anchored_openGroup (state : State) : Anchored id state state.openGroup := by
  unfold State.openGroup
  split
  · exact anchoredIn_failure trivial
  · exact List.suffix_rfl

theorem anchored_closeGroup (state : State) : Anchored id state state.closeGroup := by
  unfold State.closeGroup
  split
  · exact anchoredIn_failure trivial
  · exact anchored_expect _ _

theorem anchored_countTest (state : State) : Anchored id state state.countTest := by
  unfold State.countTest
  split
  · exact anchoredIn_failure trivial
  · exact List.suffix_rfl

theorem anchored_equalsSign (state : State) (report : MissingEquals) :
    Anchored id state (state.equalsSign report) := by
  unfold State.equalsSign
  split
  · exact toList_advance_suffix state
  · cases report with
    | expected => exact anchoredIn_failure rfl
    | unsupported =>
      simp only
      split <;> exact anchoredIn_failure rfl

end Steps

/-! ## Conditions -/

section Conditions

variable {Tree : Type} {style : ConditionStyle Tree}

theorem anchored_readTest (state : State) : Anchored Prod.snd state (readTest style state) := by
  rw [readTest_eq]
  refine .bind (anchored_countTest state) fun counted _ => ?_
  refine .bind (anchored_literal counted) fun ⟨left, afterLeft⟩ _ => ?_
  refine .bind (anchored_equalsSign afterLeft _) fun afterEquals _ => ?_
  refine .bind (anchored_literal afterEquals) fun ⟨right, rest⟩ _ => ?_
  exact List.suffix_rfl

theorem anchored_readClosing (tree : Tree) (state : State) :
    Anchored Prod.snd state (readClosing tree state) := by
  rw [readClosing_eq]
  exact .bind (anchored_closeGroup state) fun rest _ => List.suffix_rfl

mutual

theorem anchored_group (state : State) : Anchored Prod.snd state (group style state) := by
  rw [group_eq]
  split
  · next atOpening =>
    refine .behind (toList_advance_suffix state) ?_
    refine .bind (anchored_openGroup _) fun inside opened => ?_
    have fewer : inside.ahead.length < state.ahead.length := by
      rw [State.ahead_openGroup opened]
      exact State.length_advance_lt atOpening (by simp)
    refine .bind (anchored_condition inside) fun ⟨tree, last⟩ _ => ?_
    exact anchored_readClosing tree last
  · exact anchored_readTest state
termination_by 3 * state.ahead.length

theorem anchored_condition (state : State) :
    Anchored Prod.snd state (condition style state) := by
  rw [condition_eq]
  refine .bind (anchored_group state) fun ⟨first, afterFirst⟩ readFirst => ?_
  have fewer := length_group_lt readFirst
  exact anchored_chain first afterFirst
termination_by 3 * state.ahead.length + 1

theorem anchored_chain (tree : Tree) (state : State) :
    Anchored Prod.snd state (chain style tree state) := by
  rw [chain_eq]
  split
  · exact List.suffix_rfl
  · have notMore := State.length_advance_le state
    refine .behind (toList_advance_suffix state) ?_
    refine .bind (anchored_group _) fun ⟨right, afterRight⟩ readRight => ?_
    have fewer := length_group_lt readRight
    exact anchored_chain _ afterRight
termination_by 3 * state.ahead.length + 2

end

theorem anchoredIn_of_readFilter {keyword : Keyword} {text : String} {failure : Failure}
    (failed : readFilter keyword text = .error failure) : failure.AnchoredIn (.ofText text) := by
  unfold readFilter at failed
  have start := toList_skip_suffix (.ofStream (.ofText text)) (.keyword keyword)
  have anchored : Anchored Prod.snd (.ofStream (.ofText text)) (condition filterStyle _) :=
    (anchored_condition _).behind start
  simp only at failed
  split at failed
  · next conditionFailed =>
    cases failed
    exact anchored.of_error conditionFailed
  · next tree rest read => exact (anchoredIn_of_finish failed).of_suffix (anchored.of_ok read)

end Conditions

/-! ## Joins -/

section Joins

theorem anchored_readKindWords (kind : JoinKind) (state : State) :
    Anchored Prod.snd state (readKindWords kind state) := by
  refine .behind (toList_advance_suffix state) ?_
  unfold readKindWords
  split
  · next read => exact (anchored_expect _ _).of_ok read
  · next failed => exact (anchored_expect _ _).of_error failed

theorem anchored_readJoinKind (state : State) :
    Anchored Prod.snd state (readJoinKind state) := by
  unfold readJoinKind
  split
  all_goals first
    | exact anchored_readKindWords _ state
    | exact toList_advance_suffix state
    | exact List.suffix_rfl

theorem anchored_readTable (state : State) : Anchored Prod.snd state (readTable state) := by
  unfold readTable
  split
  · next failed => exact (anchored_literal state).of_error failed
  next name afterName readName =>
  refine .behind ((anchored_literal state).of_ok readName) ?_
  split
  · next failed => exact (anchored_asName afterName).of_error failed
  · next asName rest readAsName => exact (anchored_asName afterName).of_ok readAsName

theorem anchored_readJoinTable (state : State) :
    Anchored Prod.snd state (readJoinTable state) := by
  unfold readJoinTable
  split
  · exact anchored_readTable state
  · exact List.suffix_rfl

theorem anchored_readOn (table : Table) (state : State) :
    Anchored id state (readOn table state) := by
  unfold readOn
  split
  · exact anchored_expect _ _
  · exact List.suffix_rfl

theorem anchored_skipClosing (state : State) : Anchored id state state.skipClosing := by
  unfold State.skipClosing
  split
  · exact anchored_closeGroup state
  · exact List.suffix_rfl

theorem anchoredIn_of_readCrossJoin {state : State} {failure : Failure}
    (failed : readCrossJoin state = .error failure) : failure.AnchoredIn state.toTokenStream := by
  unfold readCrossJoin at failed
  split at failed
  · next tableFailed =>
    cases failed
    exact (anchored_readTable state).of_error tableFailed
  next table rest readName =>
  refine .of_suffix ?_ ((anchored_readTable state).of_ok readName)
  split at failed
  · cases failed
    exact anchoredIn_failure trivial
  · exact anchoredIn_of_finish failed

theorem anchoredIn_of_readConditionJoin {kind : JoinKind} {state : State} {failure : Failure}
    (failed : readConditionJoin kind state = .error failure) :
    failure.AnchoredIn state.toTokenStream := by
  unfold readConditionJoin at failed
  split at failed
  · next tableFailed =>
    cases failed
    exact (anchored_readJoinTable state).of_error tableFailed
  next table afterTable readName =>
  refine .of_suffix ?_ ((anchored_readJoinTable state).of_ok readName)
  split at failed
  · next onFailed =>
    cases failed
    exact (anchored_readOn table afterTable).of_error onFailed
  next afterOn readKeyword =>
  refine .of_suffix ?_ ((anchored_readOn table afterTable).of_ok readKeyword)
  split at failed
  · next conditionFailed =>
    cases failed
    exact (anchored_condition afterOn).of_error conditionFailed
  next tree afterTree readTree =>
  refine .of_suffix ?_ ((anchored_condition afterOn).of_ok readTree)
  split at failed
  · next closingFailed =>
    cases failed
    exact (anchored_skipClosing afterTree).of_error closingFailed
  next rest skipped =>
  exact (anchoredIn_of_finish failed).of_suffix ((anchored_skipClosing afterTree).of_ok skipped)

theorem anchoredIn_of_readJoin {text : String} {failure : Failure}
    (failed : readJoin text = .error failure) : failure.AnchoredIn (.ofText text) := by
  have anchored := anchored_readJoinKind (.ofStream (.ofText text))
  unfold readJoin at failed
  split at failed
  · next kindFailed =>
    cases failed
    exact anchored.of_error kindFailed
  next kind rest readKind =>
  refine .of_suffix ?_ (anchored.of_ok readKind)
  split at failed
  · exact anchoredIn_of_readCrossJoin failed
  · exact anchoredIn_of_readConditionJoin failed

end Joins

/-! ## Queries -/

section Queries

theorem anchored_readItem (state : State) : Anchored Prod.snd state (readItem state) := by
  rw [readItem_eq]
  split
  · exact toList_advance_suffix state
  · exact (anchored_readTable state).map fun _ => rfl

theorem anchored_commaSeparated {Value : Type} {production : Production Value}
    (anchored : ∀ state, Anchored Prod.snd state (production.run state)) (state : State) :
    Anchored Prod.snd state (production.commaSeparated state) := by
  fun_induction production.commaSeparated state with
  | case1 state failure failed => exact (anchored state).of_error failed
  | case2 state first afterFirst readFirst atComma others last readOthers ih =>
    have later := (toList_advance_suffix afterFirst).trans ((anchored state).of_ok readFirst)
    have lastLater := (ih.behind later).of_ok readOthers
    exact lastLater
  | case3 state first afterFirst readFirst atComma failure failed ih =>
    have later := (toList_advance_suffix afterFirst).trans ((anchored state).of_ok readFirst)
    exact (ih.behind later).of_error failed
  | case4 state first afterFirst readFirst noComma => exact (anchored state).of_ok readFirst

theorem anchoredIn_of_readSource {state : State} {failure : Failure}
    (failed : readSource state = .error failure) : failure.AnchoredIn state.toTokenStream := by
  have anchored := (anchored_readTable _).behind (toList_skip_suffix state (.keyword .only))
  rw [readSource_eq] at failed
  cases read : readTable (state.skip (.keyword .only)) with
  | ok named =>
    rw [read] at failed
    cases failed
  | error tableFailed =>
    rw [read] at failed
    cases failed
    exact anchored.of_error read

theorem anchoredIn_of_readSelect {text : String} {failure : Failure}
    (failed : readSelect text = .error failure) : failure.AnchoredIn (.ofText text) := by
  have anchored := anchored_expect (.ofStream (.ofText text)) (.keyword .select)
  unfold readSelect at failed
  split at failed
  · next keywordFailed =>
    cases failed
    exact anchored.of_error keywordFailed
  next afterSelect readKeyword =>
  refine .of_suffix ?_ (anchored.of_ok readKeyword)
  have anchoredItems : Anchored Prod.snd afterSelect (item.commaSeparated _) :=
    (anchored_commaSeparated anchored_readItem _).behind
      (toList_skip_suffix afterSelect (.keyword .distinct))
  split at failed
  · next itemsFailed =>
    cases failed
    exact anchoredItems.of_error itemsFailed
  next items afterItems readItems =>
  refine .of_suffix ?_ (anchoredItems.of_ok readItems)
  simp only at failed
  split at failed
  · split at failed
    · next sourceFailed =>
      cases failed
      exact (anchoredIn_of_readSource sourceFailed).of_suffix (toList_advance_suffix afterItems)
    · cases failed
  · cases failed

end Queries

/-! ## Analyses -/

section Analyses

theorem suffix_of_operationAhead {tokens rest : List Token} {operation : Operation}
    (found : operationAhead tokens = some (operation, rest)) : rest <:+ tokens := by
  fun_induction operationAhead tokens with
  | case1 => cases found
  | case2 =>
    cases found
    exact List.suffix_cons _ _
  | case3 _ _ _ ih => exact (ih found).trans (List.suffix_cons _ _)

theorem suffix_of_afterFrom {depth : Nat} {tokens rest : List Token}
    (found : afterFrom depth tokens = some rest) : rest <:+ tokens := by
  fun_induction afterFrom depth tokens with
  | case1 => cases found
  | case4 =>
    cases found
    exact List.suffix_cons _ _
  | case2 _ _ _ _ ih | case3 _ _ _ _ ih | case5 _ _ _ _ _ ih | case6 _ _ _ _ _ _ ih =>
    exact (ih found).trans (List.suffix_cons _ _)

theorem toList_withAhead_suffix {state : State} {rest : List Token} (later : rest <:+ state.ahead) :
    (state.withAhead rest).toList <:+ state.toList :=
  List.suffix_append_self_iff.mpr later

theorem anchored_readOperation (state : State) :
    Anchored Prod.snd state (readOperation state) := by
  unfold readOperation
  split
  · next operation rest found => exact toList_withAhead_suffix (suffix_of_operationAhead found)
  · have anchored : ((state.withAhead []).failure .noOperation).AnchoredIn
        (state.withAhead []).toTokenStream :=
      anchoredIn_failure trivial
    exact anchored.of_suffix (toList_withAhead_suffix List.nil_suffix)

theorem anchored_readFrom (state : State) : Anchored id state (readFrom state) := by
  unfold readFrom
  split
  · next rest found => exact toList_withAhead_suffix (suffix_of_afterFrom found)
  · exact .of_suffix (anchoredIn_failure rfl) (toList_withAhead_suffix List.nil_suffix)

theorem anchored_readUpToTable (operation : Operation) (state : State) :
    Anchored id state (readUpToTable operation state) := by
  have anchored := anchored_readFrom state
  unfold readUpToTable
  cases operation with
  | insert => exact anchored_expect _ _
  | update => exact toList_skip_suffix _ _
  | select | delete =>
    simp only
    split
    · next rest found => exact (toList_skip_suffix _ _).trans (anchored.of_ok found)
    · next failed => exact anchored.of_error failed

theorem anchoredIn_of_readTargetTable {operation : Operation} {state : State} {failure : Failure}
    (failed : readTargetTable operation state = .error failure) :
    failure.AnchoredIn state.toTokenStream := by
  have anchored := anchored_readUpToTable operation state
  unfold readTargetTable at failed
  split at failed
  · next pathFailed =>
    cases failed
    exact anchored.of_error pathFailed
  next atTable found =>
  refine .of_suffix ?_ (anchored.of_ok found)
  split at failed
  · cases failed
  · next nameFailed =>
    cases failed
    exact (anchored_literal atTable).of_error nameFailed

theorem anchoredIn_of_readAnalysis {request : AnalysisRequest} {state : State} {failure : Failure}
    (failed : readAnalysis request state = .error failure) :
    failure.AnchoredIn state.toTokenStream := by
  have anchored := anchored_readOperation state
  unfold readAnalysis at failed
  split at failed
  · cases failed
  split at failed
  · cases failed
    exact anchoredIn_failure trivial
  split at failed
  · next operationFailed =>
    cases failed
    exact anchored.of_error operationFailed
  next operation rest found =>
  refine .of_suffix ?_ (anchored.of_ok found)
  simp only at failed
  split at failed
  · split at failed
    · next tableFailed =>
      cases failed
      exact anchoredIn_of_readTargetTable tableFailed
    · cases failed
  · cases failed

end Analyses

end Parse

end SqlTree
