import SqlTree.Proofs.Parse.Derivation
import SqlTree.Proofs.Token.Words

/-!
# What is read is derived

Whenever reading succeeds, the tokens used up derive from the grammar, the tree is the one built
from their phrase, and the counters are exact: as many parentheses are open as before, and the
comparisons of the phrase have been added.
-/

namespace SqlTree.Parse.State

/-- The second state is the first one after the given tokens, its counters unchanged. -/
structure Passes (state : State) (tokens : List Token) (rest : State) : Prop where
  ahead : state.ahead = tokens ++ rest.ahead
  stop : rest.stop = state.stop
  depth : rest.depth = state.depth
  tests : rest.tests = state.tests

theorem Passes.refl (state : State) : state.Passes [] state :=
  ⟨rfl, rfl, rfl, rfl⟩

theorem Passes.trans {state middle rest : State} {first second : List Token}
    (passesFirst : state.Passes first middle) (passesSecond : middle.Passes second rest) :
    state.Passes (first ++ second) rest := by
  constructor
  · rw [passesFirst.ahead, passesSecond.ahead, List.append_assoc]
  · rw [passesSecond.stop, passesFirst.stop]
  · rw [passesSecond.depth, passesFirst.depth]
  · rw [passesSecond.tests, passesFirst.tests]

theorem passes_of_isAt {state : State} {kind : TokenKind} (atKind : state.isAt kind = true)
    (notEnd : kind ≠ .endOfInput) :
    state.Passes [state.current] state.advance ∧ state.current.kind = kind := by
  have currentKind : state.current.kind = kind := by simpa [isAt] using atKind
  refine ⟨?_, currentKind⟩
  obtain ⟨⟨ahead, stop⟩, depth, tests⟩ := state
  cases ahead with
  | nil => exact absurd currentKind.symm notEnd
  | cons token rest => exact ⟨rfl, rfl, rfl, rfl⟩

theorem passes_of_literal {state rest : State} {name : String}
    (read : state.literal = .ok (name, rest)) :
    ∃ token, state.Passes [token] rest ∧ token.kind = .literal ∧ token.text = name := by
  unfold literal at read
  split at read
  · next atWord =>
    cases read
    obtain ⟨passes, word⟩ := passes_of_isAt atWord (by simp)
    exact ⟨state.current, passes, word, rfl⟩
  · cases read

theorem passes_of_expect {state rest : State} {kind : TokenKind} (notEnd : kind ≠ .endOfInput)
    (read : state.expect kind = .ok rest) :
    ∃ token, state.Passes [token] rest ∧ token.kind = kind := by
  unfold expect at read
  split at read
  · next atKind =>
    cases read
    exact ⟨state.current, passes_of_isAt atKind notEnd⟩
  · cases read

theorem passes_of_equalsSign {state rest : State} {report : MissingEquals}
    (read : state.equalsSign report = .ok rest) :
    ∃ token, state.Passes [token] rest ∧ token.kind = .equals := by
  unfold equalsSign at read
  split at read
  · next atSign =>
    cases read
    exact ⟨state.current, passes_of_isAt atSign (by simp)⟩
  · cases report with
    | expected => cases read
    | unsupported =>
      simp only at read
      split at read <;> cases read

theorem passes_of_connective? {state : State} {connective : Connective}
    (joins : state.connective? = some connective) :
    state.Passes [state.current] state.advance ∧
      state.current.kind = .keyword connective.keyword := by
  unfold connective? at joins
  split at joins
  · next atAnd =>
    cases joins
    exact passes_of_isAt atAnd (by simp)
  · split at joins
    · next atOr =>
      cases joins
      exact passes_of_isAt atOr (by simp)
    · cases joins

theorem eq_of_openGroup {state inside : State} (opened : state.openGroup = .ok inside) :
    state.depth < maxDepth ∧ inside = { state with depth := state.depth + 1 } := by
  unfold openGroup at opened
  split at opened
  · cases opened
  · cases opened
    exact ⟨by omega, rfl⟩

theorem eq_of_countTest {state counted : State} (count : state.countTest = .ok counted) :
    state.tests < maxTests ∧ counted = { state with tests := state.tests + 1 } := by
  unfold countTest at count
  split at count
  · cases count
  · cases count
    exact ⟨by omega, rfl⟩

/-- Closing a group takes the parenthesis away from those that are open. -/
theorem passes_of_closeGroup {state rest : State} (closed : state.closeGroup = .ok rest) :
    ∃ token, token.kind = .closeParenthesis ∧ state.ahead = token :: rest.ahead ∧
      rest.stop = state.stop ∧ rest.depth + 1 = state.depth ∧ rest.tests = state.tests := by
  unfold closeGroup at closed
  split at closed
  · cases closed
  · next outer depth =>
    obtain ⟨token, passes, closes⟩ := passes_of_expect (by simp) closed
    refine ⟨token, closes, passes.ahead, passes.stop, ?_, passes.tests⟩
    rw [passes.depth, depth]

end SqlTree.Parse.State

namespace SqlTree

open Parse

variable {Tree : Type} {style : ConditionStyle Tree}

theorem exists_of_bind_eq_ok {Value Result : Type} {first : Except Failure Value}
    {next : Value → Except Failure Result} {result : Result}
    (success : first >>= next = .ok result) :
    ∃ value, first = .ok value ∧ next value = .ok result := by
  cases first with
  | error failure => cases success
  | ok value => exact ⟨value, rfl, success⟩

theorem exists_of_bind_eq_error {Value Result : Type} {first : Except Failure Value}
    {next : Value → Except Failure Result} {failure : Failure}
    (failed : first >>= next = .error failure) :
    first = .error failure ∨ ∃ value, first = .ok value ∧ next value = .error failure := by
  cases first with
  | error other =>
    cases failed
    exact .inl rfl
  | ok value => exact .inr ⟨value, rfl, failed⟩

/-- The tokens between two states derive from the nonterminal as the phrase, within the bounds, and
the counters of the second state are exact. -/
structure Nonterminal.Reads (nonterminal : Nonterminal) (state : State) (tokens : List Token)
    (phrase : Phrase) (rest : State) : Prop where
  derives : Derives nonterminal tokens phrase
  ahead : state.ahead = tokens ++ rest.ahead
  stop : rest.stop = state.stop
  depth : rest.depth = state.depth
  tests : rest.tests = state.tests + phrase.tests
  shallow : state.depth + phrase.depth ≤ maxDepth
  room : rest.tests ≤ maxTests

namespace Nonterminal

open State

theorem reads_test {state rest : State} {tree : Tree} (shallow : state.depth ≤ maxDepth)
    (read : readTest style state = .ok (tree, rest)) :
    ∃ tokens phrase, group.Reads state tokens phrase rest ∧ tree = phrase.build style := by
  unfold readTest at read
  split at read
  · cases read
  next counted count =>
  split at read
  · cases read
  next left afterLeft readLeft =>
  split at read
  · cases read
  next afterEquals readEquals =>
  split at read
  · cases read
  next right last readRight =>
  cases read
  obtain ⟨leftToken, passesLeft, leftWord, leftText⟩ := passes_of_literal readLeft
  obtain ⟨equalsToken, passesEquals, equalsSign⟩ := passes_of_equalsSign readEquals
  obtain ⟨rightToken, passesRight, rightWord, rightText⟩ := passes_of_literal readRight
  obtain ⟨room, rfl⟩ := eq_of_countTest count
  subst leftText rightText
  have passes := (passesLeft.trans passesEquals).trans passesRight
  refine ⟨_, _, ⟨.test leftWord equalsSign rightWord, passes.ahead, passes.stop, passes.depth,
    passes.tests, shallow, ?_⟩, rfl⟩
  rw [passes.tests]
  exact room

theorem Reads.length_lt {nonterminal : Nonterminal} {state rest : State} {tokens : List Token}
    {phrase : Phrase} (reads : nonterminal.Reads state tokens phrase rest) :
    rest.ahead.length < state.ahead.length := by
  rw [reads.ahead]
  rcases reads.derives.start with ⟨left, equals, others, rfl, -⟩ | ⟨opening, others, rfl, -⟩
  · simp only [List.length_append, List.length_cons]
    omega
  · simp only [List.length_append, List.length_cons]
    omega

theorem Reads.enclosed {state inside last rest : State} {opening : Token} {tokens : List Token}
    {inner : Phrase} (opens : opening.kind = .openParenthesis)
    (passes : state.Passes [opening] state.advance) (opened : state.advance.openGroup = .ok inside)
    (reads : condition.Reads inside tokens inner last) (closed : last.closeGroup = .ok rest) :
    ∃ closing, group.Reads state (opening :: tokens ++ [closing]) (.enclosed inner) rest := by
  obtain ⟨deeper, rfl⟩ := eq_of_openGroup opened
  obtain ⟨closing, closes, ahead, stop, depth, tests⟩ := passes_of_closeGroup closed
  have insideAhead := reads.ahead
  have insideDepth := reads.depth
  have insideTests := reads.tests
  have insideShallow := reads.shallow
  have insideRoom := reads.room
  have advanceDepth := passes.depth
  have advanceTests := passes.tests
  simp only at insideAhead insideDepth insideTests insideShallow
  refine ⟨closing, .enclosed opens reads.derives closes, ?_, ?_, ?_, ?_, ?_, ?_⟩
  · rw [passes.ahead, insideAhead, ahead]
    simp
  · rw [stop, reads.stop, passes.stop]
  · omega
  · simp only [Phrase.tests]
    omega
  · simp only [Phrase.depth]
    omega
  · omega

theorem Reads.single {state rest : State} {tokens : List Token} {phrase : Phrase}
    (reads : group.Reads state tokens phrase rest) : condition.Reads state tokens phrase rest :=
  ⟨.single reads.derives, reads.ahead, reads.stop, reads.depth, reads.tests, reads.shallow,
    reads.room⟩

theorem Reads.joined {start state rest : State} {leftTokens rightTokens : List Token}
    {left right : Phrase} {connective : Connective} {word : Token}
    (before : condition.Reads start leftTokens left state)
    (joins : word.kind = .keyword connective.keyword) (passes : state.Passes [word] state.advance)
    (after : group.Reads state.advance rightTokens right rest) :
    condition.Reads start (leftTokens ++ word :: rightTokens) (.joined left connective right)
      rest := by
  have leftDepth := before.depth
  have leftTests := before.tests
  have leftShallow := before.shallow
  have rightDepth := after.depth
  have rightTests := after.tests
  have rightShallow := after.shallow
  have advanceDepth := passes.depth
  have advanceTests := passes.tests
  refine ⟨.joined before.derives joins after.derives, ?_, ?_, ?_, ?_, ?_, after.room⟩
  · rw [before.ahead, passes.ahead, after.ahead]
    simp
  · rw [after.stop, passes.stop, before.stop]
  · omega
  · simp only [Phrase.tests]
    omega
  · simp only [Phrase.depth]
    omega

mutual

/-- A group that was read is derived. -/
theorem reads_group {state rest : State} {tree : Tree} (shallow : state.depth ≤ maxDepth)
    (read : Parse.group style state = .ok (tree, rest)) :
    ∃ tokens phrase, group.Reads state tokens phrase rest ∧ tree = phrase.build style := by
  rw [group_eq] at read
  split at read
  · next atOpening =>
    obtain ⟨passes, opens⟩ := passes_of_isAt atOpening (by simp)
    obtain ⟨inside, opened, read⟩ := exists_of_bind_eq_ok read
    obtain ⟨⟨innerTree, last⟩, readInside, read⟩ := exists_of_bind_eq_ok read
    obtain ⟨deeper, insideEq⟩ := eq_of_openGroup opened
    have insideShallow : inside.depth ≤ maxDepth := by
      rw [insideEq]
      exact deeper
    have fewer : inside.ahead.length < state.ahead.length := by
      rw [insideEq]
      exact length_advance_lt atOpening (by simp)
    obtain ⟨tokens, inner, reads, rfl⟩ := reads_condition insideShallow readInside
    change readClosing (inner.build style) last = .ok (tree, rest) at read
    unfold readClosing at read
    split at read
    · cases read
    · next after closed =>
      cases read
      obtain ⟨closing, whole⟩ := Reads.enclosed opens passes opened reads closed
      exact ⟨_, .enclosed inner, whole, rfl⟩
  · exact reads_test shallow read
termination_by 3 * state.ahead.length

/-- A condition that was read is derived. -/
theorem reads_condition {state rest : State} {tree : Tree} (shallow : state.depth ≤ maxDepth)
    (read : Parse.condition style state = .ok (tree, rest)) :
    ∃ tokens phrase, condition.Reads state tokens phrase rest ∧ tree = phrase.build style := by
  rw [condition_eq] at read
  obtain ⟨⟨firstTree, afterFirst⟩, readFirst, read⟩ := exists_of_bind_eq_ok read
  obtain ⟨tokens, first, reads, rfl⟩ := reads_group shallow readFirst
  have fewer := reads.length_lt
  exact reads_chain reads.single read
termination_by 3 * state.ahead.length + 1

/-- A condition that goes on is derived if what was read of it is. -/
theorem reads_chain {start state rest : State} {leftTokens : List Token} {left : Phrase}
    {tree : Tree} (before : condition.Reads start leftTokens left state)
    (read : chain style (left.build style) state = .ok (tree, rest)) :
    ∃ tokens phrase, condition.Reads start tokens phrase rest ∧ tree = phrase.build style := by
  rw [chain_eq] at read
  split at read
  · cases read
    exact ⟨leftTokens, left, before, rfl⟩
  · next connective found =>
    obtain ⟨passes, joins⟩ := passes_of_connective? found
    obtain ⟨⟨rightTree, afterRight⟩, readRight, read⟩ := exists_of_bind_eq_ok read
    have shallow : state.advance.depth ≤ maxDepth := by
      have deepest := before.shallow
      rw [passes.depth, before.depth]
      omega
    have notMore := length_advance_le state
    obtain ⟨rightTokens, right, reads, rfl⟩ := reads_group shallow readRight
    have fewer := reads.length_lt
    exact reads_chain (before.joined joins passes reads) read
termination_by 3 * state.ahead.length + 2

end

end Nonterminal

/-- A condition is read to the end of the tokens if and only if they derive within the bounds. -/
theorem condition_reads_all_iff (style : ConditionStyle Tree) (state : State)
    (depth : state.depth = 0) (tests : state.tests = 0) (tree : Tree) :
    (∃ rest, Parse.condition style state = .ok (tree, rest) ∧ rest.ahead = []) ↔
      ∃ phrase, Derives .condition state.ahead phrase ∧ phrase.tests ≤ maxTests ∧
        phrase.depth ≤ maxDepth ∧ phrase.build style = tree := by
  constructor
  · rintro ⟨rest, read, allRead⟩
    have shallow : state.depth ≤ maxDepth := by omega
    obtain ⟨tokens, phrase, reads, rfl⟩ := Nonterminal.reads_condition shallow read
    have ahead : state.ahead = tokens := by rw [reads.ahead, allRead, List.append_nil]
    have phraseTests := reads.tests
    have room := reads.room
    have phraseDepth := reads.shallow
    refine ⟨phrase, ?_, by omega, by omega, rfl⟩
    rw [ahead]
    exact reads.derives
  · rintro ⟨phrase, derives, room, shallow, rfl⟩
    obtain ⟨⟨ahead, stop⟩, _, _⟩ := state
    simp only at depth tests derives
    subst depth tests
    have read : Parse.condition style ⟨⟨ahead ++ [], stop⟩, 0, 0⟩ =
        chain style (phrase.build style) ⟨⟨[], stop⟩, 0, 0 + phrase.tests⟩ :=
      derives.read [] stop 0 0 (by omega) (by omega)
    rw [List.append_nil] at read
    refine ⟨⟨⟨[], stop⟩, 0, 0 + phrase.tests⟩, ?_, rfl⟩
    rw [read, chain_of_none rfl]

/-- Tokens that derive beyond the bounds are refused for that reason. -/
theorem condition_exceeding (style : ConditionStyle Tree) (state : State)
    (depth : state.depth = 0) (tests : state.tests = 0) {phrase : Phrase}
    (derives : Derives .condition state.ahead phrase)
    (exceeds : maxTests < phrase.tests ∨ maxDepth < phrase.depth) :
    ∃ failure, Parse.condition style state = .error failure ∧ failure.cause.IsBound := by
  obtain ⟨⟨ahead, stop⟩, _, _⟩ := state
  simp only at depth tests derives
  subst depth tests
  have failed : ∃ failure, Parse.condition style ⟨⟨ahead ++ [], stop⟩, 0, 0⟩ = .error failure ∧
      failure.cause.IsBound :=
    derives.read_exceeding [] stop 0 0 (by omega) (by omega)
  rw [List.append_nil] at failed
  exact failed

namespace Parse

theorem report_eq_ok_iff {Value : Type} (read : Except Failure Value) (grammar : Grammar)
    (query : String) (value : Value) :
    (read.mapError fun failure => failure.report grammar query) = .ok value ↔
      read = .ok value := by
  cases read with
  | error failure => constructor <;> intro success <;> cases success
  | ok result =>
    constructor
    · intro success
      cases success
      rfl
    · intro success
      cases success
      rfl

theorem exists_of_report_eq_error {Value : Type} {read : Except Failure Value} {grammar : Grammar}
    {query : String} {error : ParseError}
    (refused : (read.mapError fun failure => failure.report grammar query) = .error error) :
    ∃ failure, read = .error failure ∧ error = failure.report grammar query := by
  cases read with
  | error failure =>
    cases refused
    exact ⟨failure, rfl, rfl⟩
  | ok value => cases refused

theorem grammar_of_report {Value : Type} {read : Except Failure Value} {grammar : Grammar}
    {query : String} {error : ParseError}
    (refused : (read.mapError fun failure => failure.report grammar query) = .error error) :
    error.grammar = grammar := by
  obtain ⟨failure, -, rfl⟩ := exists_of_report_eq_error refused
  rfl

end Parse

namespace Parse.State

theorem ahead_eq_nil_of_atEnd {state : State}
    (proper : ProperTokens state.ahead) (atEnd : state.atEnd = true) :
    state.ahead = [] := by
  obtain ⟨⟨ahead, stop⟩, depth, tests⟩ := state
  cases ahead with
  | nil => rfl
  | cons token rest =>
    have unfinished := (proper token (by simp)).1
    change token.isEnd = true at atEnd
    rw [unfinished] at atEnd
    cases atEnd

theorem finish_eq_ok_iff {Value : Type} {state : State}
    (proper : ProperTokens state.ahead) (value result : Value) :
    state.finish value = .ok result ↔ state.ahead = [] ∧ value = result := by
  unfold finish
  constructor
  · intro finished
    split at finished
    · next atEnd =>
      cases finished
      exact ⟨ahead_eq_nil_of_atEnd proper atEnd, rfl⟩
    · cases finished
  · rintro ⟨allRead, rfl⟩
    have atEnd : state.atEnd = true := by
      unfold TokenStream.atEnd TokenStream.current
      rw [allRead]
      rfl
    rw [if_pos atEnd]

end Parse.State

end SqlTree
