import SqlTree.Proofs.Parse.Expectation

/-!
# Where reading fails

When a condition cannot be read, the parser has taken the same tokens as the automaton, and the
automaton refuses the token that the failure points at.  Only the two bounds, of which the automaton
knows nothing, may come in between.
-/

namespace SqlTree

open Parse

/-! ## Refused tokens -/

namespace Expectation

/-- The token cannot come next; the end of the input cannot unless nothing has to come. -/
structure Refuses (expectation : Expectation) (token : Token) : Prop where
  step_eq : expectation.step token.kind = none
  mayEnd_eq : token.isEnd = true → expectation.mayEnd = false

theorem refuses_of_options {expectation : Expectation} {token : Token}
    (absent : ∀ option ∈ expectation.options, option.1 ≠ token.kind)
    (ends : token.isEnd = true → expectation.mayEnd = false) : expectation.Refuses token := by
  refine ⟨List.lookup_eq_none_iff.mpr fun option member => ?_, ends⟩
  simpa using (absent option member).symm

theorem Requires.refuses {expectation next : Expectation} {kind : TokenKind} {token : Token}
    (requires : expectation.Requires kind next) (otherKind : token.kind ≠ kind) :
    expectation.Refuses token := by
  refine refuses_of_options ?_ fun _ => requires.mayEnd_eq
  simpa [requires.options_eq] using otherKind.symm

/-- Reading from the stream failed at the first token that the automaton refuses, or one of the two
bounds was exceeded. -/
def Halts (expectation : Expectation) (stream : TokenStream) (failure : Failure) : Prop :=
  failure.cause.IsBound ∨ ∃ before token behind last,
    stream.toList = before ++ token :: behind ∧ expectation.after before = some last ∧
      last.Refuses token ∧ failure.span = token.span

end Expectation

theorem TokenStream.exists_toList (stream : TokenStream) :
    ∃ behind, stream.toList = stream.current :: behind := by
  obtain ⟨ahead, stop⟩ := stream
  cases ahead with
  | nil => exact ⟨[], rfl⟩
  | cons token rest => exact ⟨rest ++ [Token.endAt stop], rfl⟩

theorem TokenStream.toList_append {stream rest : TokenStream} {tokens : List Token}
    (ahead : stream.ahead = tokens ++ rest.ahead) (stop : rest.stop = stream.stop) :
    stream.toList = tokens ++ rest.toList := by
  rw [toList, toList, ahead, stop, List.append_assoc]

namespace Expectation.Halts

variable {expectation next other : Expectation} {failure : Failure}

/-- Reading fails here. -/
theorem here {state : State} (refuses : expectation.Refuses state.current)
    (cause : ParseCause) : expectation.Halts state.toTokenStream (state.failure cause) := by
  obtain ⟨behind, split⟩ := state.exists_toList
  exact .inr ⟨[], state.current, behind, expectation, split, rfl, refuses, rfl⟩

/-- Reading fails behind the tokens. -/
theorem behind {stream rest : TokenStream} {tokens : List Token}
    (ahead : stream.ahead = tokens ++ rest.ahead) (stop : rest.stop = stream.stop)
    (taken : expectation.after tokens = some next) (halts : next.Halts rest failure) :
    expectation.Halts stream failure := by
  rcases halts with isBound | ⟨before, token, others, last, split, takenBefore, refuses, span⟩
  · exact .inl isBound
  · refine .inr ⟨tokens ++ before, token, others, last, ?_, ?_, refuses, span⟩
    · rw [TokenStream.toList_append ahead stop, split, List.append_assoc]
    · rw [after_append, taken, Option.bind_some, takenBefore]

theorem of_passes {state rest : State} {tokens : List Token} (passes : state.Passes tokens rest)
    (taken : expectation.after tokens = some next)
    (halts : next.Halts rest.toTokenStream failure) :
    expectation.Halts state.toTokenStream failure :=
  halts.behind passes.ahead passes.stop taken

/-- An expectation that agrees with another one about the current token may stand for it. -/
theorem of_agrees {stream : TokenStream} (halts : other.Halts stream failure)
    (agree : expectation.step stream.current.kind = other.step stream.current.kind)
    (ends : expectation.mayEnd = other.mayEnd) : expectation.Halts stream failure := by
  rcases halts with isBound | ⟨before, token, others, last, split, taken, refuses, span⟩
  · exact .inl isBound
  obtain ⟨behind, currentFirst⟩ := stream.exists_toList
  cases before with
  | nil =>
    obtain ⟨rfl, -⟩ := List.cons.inj (currentFirst.symm.trans split)
    cases taken
    exact .inr ⟨[], _, others, expectation, split, rfl,
      ⟨agree.trans refuses.step_eq, fun isEnd => ends.trans (refuses.mayEnd_eq isEnd)⟩, span⟩
  | cons first before =>
    obtain ⟨rfl, -⟩ := List.cons.inj (currentFirst.symm.trans split)
    refine .inr ⟨_ :: before, token, others, last, split, ?_, refuses, span⟩
    rw [after_cons, agree, ← after_cons, taken]

/-- Behind a token that may come, reading fails where it fails in front of it. -/
theorem of_next {state rest : State} {token : Token}
    (halts : expectation.Halts state.toTokenStream failure) (passes : state.Passes [token] rest)
    (taken : expectation.step token.kind = some next) :
    next.Halts rest.toTokenStream failure := by
  rcases halts with isBound | ⟨before, refused, others, last, split, takenBefore, refuses, span⟩
  · exact .inl isBound
  rw [TokenStream.toList_append passes.ahead passes.stop] at split
  cases before with
  | nil =>
    obtain ⟨rfl, -⟩ := List.cons.inj split
    cases takenBefore
    have noStep := refuses.step_eq
    rw [taken] at noStep
    cases noStep
  | cons first before =>
    obtain ⟨rfl, splitRest⟩ := List.cons.inj split
    refine .inr ⟨before, refused, others, last, splitRest, ?_, refuses, span⟩
    rw [after_cons, taken, Option.bind_some] at takenBefore
    exact takenBefore

end Expectation.Halts

/-! ## Single tokens -/

open Expectation

namespace Parse.State

theorem current_kind_ne {state : State} {kind : TokenKind} (notAt : state.isAt kind = false) :
    state.current.kind ≠ kind := by
  simpa [isAt] using notAt

theorem halts_of_literal {state : State} {expectation : Expectation} {failure : Failure}
    (refuses : state.current.kind ≠ .literal → expectation.Refuses state.current)
    (failed : state.literal = .error failure) :
    expectation.Halts state.toTokenStream failure := by
  unfold literal at failed
  split at failed
  · cases failed
  · next notAt =>
    cases failed
    exact .here (refuses (current_kind_ne (by simpa using notAt))) _

theorem eq_of_expect_eq_error {state : State} {kind : TokenKind} {failure : Failure}
    (failed : state.expect kind = .error failure) :
    state.isAt kind = false ∧ failure = state.unexpected kind := by
  unfold expect at failed
  split at failed
  · cases failed
  · next notAt =>
    cases failed
    exact ⟨Bool.of_not_eq_true notAt, rfl⟩

theorem eq_of_finish_eq_error {Value : Type} {state : State} {value : Value} {failure : Failure}
    (failed : state.finish value = .error failure) :
    state.atEnd = false ∧ failure = state.unexpected .endOfInput := by
  unfold finish at failed
  split at failed
  · cases failed
  · next notEnd =>
    cases failed
    exact ⟨Bool.of_not_eq_true notEnd, rfl⟩

theorem halts_of_expect {state : State} {expectation next : Expectation} {kind : TokenKind}
    {failure : Failure} (requires : expectation.Requires kind next)
    (failed : state.expect kind = .error failure) :
    expectation.Halts state.toTokenStream failure := by
  obtain ⟨notAt, rfl⟩ := eq_of_expect_eq_error failed
  exact .here (requires.refuses (current_kind_ne notAt)) _

theorem halts_of_equalsSign {state : State} {depth : Nat} {report : MissingEquals}
    {failure : Failure} (failed : state.equalsSign report = .error failure) :
    (equals depth).Halts state.toTokenStream failure := by
  unfold equalsSign at failed
  split at failed
  · cases failed
  · next notAt =>
    have refuses : (equals depth).Refuses state.current :=
      (requires_equals depth).refuses (current_kind_ne (by simpa using notAt))
    cases report with
    | expected =>
      cases failed
      exact .here refuses _
    | unsupported =>
      simp only at failed
      split at failed <;> cases failed <;> exact .here refuses _

theorem isBound_of_openGroup {state : State} {failure : Failure}
    (failed : state.openGroup = .error failure) : failure.cause.IsBound := by
  unfold openGroup at failed
  split at failed
  · cases failed
    exact .inl rfl
  · cases failed

theorem isBound_of_countTest {state : State} {failure : Failure}
    (failed : state.countTest = .error failure) : failure.cause.IsBound := by
  unfold countTest at failed
  split at failed
  · cases failed
    exact .inr rfl
  · cases failed

/-- Behind a group, nothing comes next but AND, OR and the closing parenthesis of a group that is
open. -/
theorem refuses_connective {state : State} {depth : Nat}
    (noConnective : state.connective? = none)
    (noClosing : depth ≠ 0 → state.isAt .closeParenthesis = false)
    (ends : depth = 0 → state.atEnd = false) : (connective depth).Refuses state.current := by
  have noAnd : state.current.kind ≠ .keyword .and := by
    intro isAnd
    simp [connective?, isAt, isAnd] at noConnective
  have noOr : state.current.kind ≠ .keyword .or := by
    intro isOr
    simp [connective?, isAt, isOr] at noConnective
  cases depth with
  | zero =>
    refine refuses_of_options ?_ fun isEnd => ?_
    · simp [options, closing, noAnd.symm, noOr.symm]
    · have unfinished : state.current.isEnd = false := ends rfl
      rw [isEnd] at unfinished
      cases unfinished
  | succ depth =>
    have notClosing := current_kind_ne (noClosing (by simp))
    refine refuses_of_options ?_ fun _ => rfl
    simp [options, closing, noAnd.symm, noOr.symm, notClosing.symm]

end Parse.State

/-! ## Conditions -/

variable {Tree : Type} {style : ConditionStyle Tree}

namespace Parse

open State

theorem halts_of_readTest {state : State} {failure : Failure}
    (notOpening : state.isAt .openParenthesis = false) (depth : Nat)
    (failed : readTest style state = .error failure) :
    (Expectation.group depth).Halts state.toTokenStream failure := by
  rw [readTest_eq] at failed
  obtain countFailed | ⟨counted, count, failed⟩ := exists_of_bind_eq_error failed
  · exact .inl (isBound_of_countTest countFailed)
  have sameStream : state.toTokenStream = counted.toTokenStream := by rw [(eq_of_countTest count).2]
  have noOpening : counted.current.kind ≠ .openParenthesis := by
    rw [← sameStream]
    exact current_kind_ne notOpening
  rw [sameStream]
  obtain leftFailed | ⟨⟨left, afterLeft⟩, readLeft, failed⟩ := exists_of_bind_eq_error failed
  · refine halts_of_literal (fun noWord => refuses_of_options ?_ fun _ => rfl) leftFailed
    simp [options, noOpening.symm, noWord.symm]
  obtain ⟨leftToken, passesLeft, leftWord, -⟩ := passes_of_literal readLeft
  refine .of_passes passesLeft (after_cons_of_step leftWord rfl []) ?_
  obtain equalsFailed | ⟨afterEquals, readEquals, failed⟩ := exists_of_bind_eq_error failed
  · exact halts_of_equalsSign equalsFailed
  obtain ⟨equalsToken, passesEquals, equalsSign⟩ := passes_of_equalsSign readEquals
  refine .of_passes passesEquals (after_cons_of_step equalsSign rfl []) ?_
  obtain rightFailed | ⟨⟨right, rest⟩, readRight, failed⟩ := exists_of_bind_eq_error failed
  · exact halts_of_literal (requires_word depth).refuses rightFailed
  · cases failed

/-- A chain that was read is not followed by a connective. -/
theorem connective?_of_chain {state rest : State} {tree whole : Tree}
    (read : chain style tree state = .ok (whole, rest)) : rest.connective? = none := by
  rw [chain_eq] at read
  split at read
  · next noConnective =>
    cases read
    exact noConnective
  · obtain ⟨⟨right, afterRight⟩, readRight, read⟩ := exists_of_bind_eq_ok read
    have notMore := length_advance_le state
    have fewer := length_group_lt readRight
    exact connective?_of_chain read
termination_by state.ahead.length

theorem connective?_of_condition {state rest : State} {tree : Tree}
    (read : condition style state = .ok (tree, rest)) : rest.connective? = none := by
  rw [condition_eq] at read
  obtain ⟨⟨first, afterFirst⟩, -, readChain⟩ := exists_of_bind_eq_ok read
  exact connective?_of_chain readChain

/-- Behind a condition in parentheses, only AND, OR and the closing parenthesis can come. -/
theorem halts_of_readClosing {state : State} {tree : Tree} {depth : Nat} {failure : Failure}
    (isDepth : state.depth = depth + 1) (noConnective : state.connective? = none)
    (failed : readClosing tree state = .error failure) :
    (connective (depth + 1)).Halts state.toTokenStream failure := by
  have closes : state.closeGroup = { state with depth := depth }.expect .closeParenthesis := by
    unfold closeGroup
    rw [isDepth]
  rw [readClosing_eq, closes] at failed
  obtain closeFailed | ⟨rest, -, failed⟩ := exists_of_bind_eq_error failed
  · obtain ⟨notAt, rfl⟩ := eq_of_expect_eq_error closeFailed
    exact .here (refuses_connective noConnective (fun _ => notAt) (by simp)) _
  · cases failed

mutual

theorem halts_of_group {state : State} {failure : Failure}
    (failed : Parse.group style state = .error failure) :
    (Expectation.group state.depth).Halts state.toTokenStream failure := by
  rw [group_eq] at failed
  split at failed
  · next atOpening =>
    obtain ⟨passes, opens⟩ := passes_of_isAt atOpening (by simp)
    refine .of_passes passes (after_cons_of_step opens rfl []) ?_
    obtain openFailed | ⟨inside, opened, failed⟩ := exists_of_bind_eq_error failed
    · exact .inl (isBound_of_openGroup openFailed)
    obtain ⟨deeper, insideEq⟩ := eq_of_openGroup opened
    have sameStream : state.advance.toTokenStream = inside.toTokenStream := by rw [insideEq]
    have insideDepth : inside.depth = state.depth + 1 := by
      rw [insideEq]
      rfl
    have insideShallow : inside.depth ≤ maxDepth := by
      rw [insideEq]
      exact deeper
    have fewer : inside.ahead.length < state.ahead.length := by
      rw [insideEq]
      exact length_advance_lt atOpening (by simp)
    rw [sameStream, ← insideDepth]
    obtain insideFailed | ⟨⟨tree, last⟩, readInside, failed⟩ := exists_of_bind_eq_error failed
    · exact halts_of_condition insideShallow insideFailed
    obtain ⟨tokens, phrase, reads, -⟩ := Nonterminal.reads_condition insideShallow readInside
    have noConnective := connective?_of_condition readInside
    have halts := halts_of_readClosing (reads.depth.trans insideDepth) noConnective failed
    rw [← insideDepth] at halts
    exact halts.behind reads.ahead reads.stop (reads.derives.after _)
  · next notOpening => exact halts_of_readTest (by simpa using notOpening) _ failed
termination_by 3 * state.ahead.length

theorem halts_of_condition {state : State} {failure : Failure} (shallow : state.depth ≤ maxDepth)
    (failed : Parse.condition style state = .error failure) :
    (Expectation.group state.depth).Halts state.toTokenStream failure := by
  rw [condition_eq] at failed
  obtain firstFailed | ⟨⟨first, afterFirst⟩, readFirst, failed⟩ := exists_of_bind_eq_error failed
  · exact halts_of_group firstFailed
  obtain ⟨tokens, phrase, reads, -⟩ := Nonterminal.reads_group shallow readFirst
  have fewer := reads.length_lt
  have halts := halts_of_chain (by rw [reads.depth]; exact shallow) failed
  rw [reads.depth] at halts
  exact halts.behind reads.ahead reads.stop (reads.derives.after _)
termination_by 3 * state.ahead.length + 1

theorem halts_of_chain {state : State} {tree : Tree} {failure : Failure}
    (shallow : state.depth ≤ maxDepth) (failed : chain style tree state = .error failure) :
    (Expectation.connective state.depth).Halts state.toTokenStream failure := by
  rw [chain_eq] at failed
  split at failed
  · cases failed
  · next connective found =>
    obtain ⟨passes, joins⟩ := passes_of_connective? found
    refine .of_passes passes (after_cons_of_step joins (step_connective _ _) []) ?_
    have notMore := length_advance_le state
    have nextShallow : state.advance.depth ≤ maxDepth := shallow
    obtain rightFailed | ⟨⟨right, afterRight⟩, readRight, failed⟩ := exists_of_bind_eq_error failed
    · exact halts_of_group rightFailed
    obtain ⟨tokens, phrase, reads, -⟩ := Nonterminal.reads_group nextShallow readRight
    have fewer := reads.length_lt
    have halts := halts_of_chain (by rw [reads.depth]; exact nextShallow) failed
    rw [reads.depth] at halts
    exact halts.behind reads.ahead reads.stop (reads.derives.after _)
termination_by 3 * state.ahead.length + 2

end

end Parse

end SqlTree
