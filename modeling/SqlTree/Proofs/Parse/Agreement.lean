import SqlTree.Proofs.Parse.Soundness
import SqlTree.Proofs.Token.Cutting

/-!
# Readings that agree

The same condition may be read as a tree of one kind or of another, and may stand further on in its
text.  Such readings go through the same steps: they fail at the same token, or build trees that
correspond and have the same tokens left.
-/

namespace SqlTree.Parse

/-- Two outcomes agree: both are successes, and related, or both are failures, the second one
`distance` bytes further on in its text. -/
inductive Agree {First Second : Type} (distance : Nat) (Related : First → Second → Prop) :
    Except Failure First → Except Failure Second → Prop
  | success {first : First} {second : Second} (related : Related first second) :
      Agree distance Related (.ok first) (.ok second)
  | failure {first second : Failure} (moved : second.span = first.span.shift distance) :
      Agree distance Related (.error first) (.error second)

section Steps

variable {First Second FirstResult SecondResult : Type} {distance : Nat}

/-- Steps that agree may be put one after the other; the second one need only agree on what the
first one can give. -/
theorem Agree.bind {Related : First → Second → Prop}
    {RelatedResults : FirstResult → SecondResult → Prop} {firstStep : Except Failure First}
    {secondStep : Except Failure Second} {firstNext : First → Except Failure FirstResult}
    {secondNext : Second → Except Failure SecondResult}
    (steps : Agree distance Related firstStep secondStep)
    (nexts : ∀ first second, firstStep = .ok first → Related first second →
      Agree distance RelatedResults (firstNext first) (secondNext second)) :
    Agree distance RelatedResults (firstStep >>= firstNext) (secondStep >>= secondNext) := by
  cases steps with
  | success related => exact nexts _ _ rfl related
  | failure moved => exact .failure moved

namespace State

/-- The same state in a text in which `distance` more bytes come first. -/
def shift (distance : Nat) (state : State) : State :=
  { state with toTokenStream := state.toTokenStream.shift distance }

/-- The second of two states is the first one, further on in its text. -/
def Follows (distance : Nat) (first second : State) : Prop :=
  second = first.shift distance

/-- Both results have the same value, and the second state is the first one, further on in its
text. -/
def Moved {Value : Type} (distance : Nat) (first second : Value × State) : Prop :=
  second = (first.1, first.2.shift distance)

theorem current_shift (distance : Nat) (state : State) :
    (state.shift distance).current = state.current.shift distance := by
  obtain ⟨⟨ahead, stop⟩, depth, tests⟩ := state
  cases ahead <;> rfl

theorem advance_shift (distance : Nat) (state : State) :
    (state.shift distance).advance = state.advance.shift distance := by
  obtain ⟨⟨ahead, stop⟩, depth, tests⟩ := state
  cases ahead <;> rfl

theorem isAt_shift (distance : Nat) (state : State) (kind : TokenKind) :
    (state.shift distance).isAt kind = state.isAt kind := by
  unfold isAt
  rw [current_shift]
  rfl

theorem atEnd_shift (distance : Nat) (state : State) :
    (state.shift distance).atEnd = state.atEnd := by
  unfold TokenStream.atEnd
  rw [current_shift]
  rfl

theorem connective?_shift (distance : Nat) (state : State) :
    (state.shift distance).connective? = state.connective? := by
  unfold connective?
  rw [isAt_shift, isAt_shift]

/-- Whatever the causes, failures at the same token agree. -/
theorem agree_failure {Related : First → Second → Prop} (state : State)
    (firstCause secondCause : ParseCause) :
    Agree distance Related (.error (state.failure firstCause))
      (.error ((state.shift distance).failure secondCause)) := by
  apply Agree.failure
  change (state.shift distance).current.span = state.current.span.shift distance
  rw [current_shift]
  rfl

theorem agree_expect (state : State) (kind : TokenKind) :
    Agree distance (Follows distance)
      (state.expect kind) ((state.shift distance).expect kind) := by
  unfold expect
  rw [isAt_shift, advance_shift]
  split
  · exact .success rfl
  · exact agree_failure state _ _

theorem agree_literal (state : State) :
    Agree distance (Moved distance) state.literal (state.shift distance).literal := by
  unfold literal
  rw [isAt_shift, advance_shift, current_shift]
  split
  · exact .success rfl
  · exact agree_failure state _ _

/-- A missing equals sign is reported at the current token, whatever the report says. -/
theorem equalsSign_eq (state : State) (report : MissingEquals) :
    ∃ cause, state.equalsSign report =
      if state.isAt .equals then .ok state.advance else .error (state.failure cause) := by
  cases report with
  | expected => exact ⟨_, rfl⟩
  | unsupported =>
    cases ended : state.atEnd with
    | true => exact ⟨_, by rw [equalsSign, ended]; rfl⟩
    | false => exact ⟨_, by rw [equalsSign, ended]; rfl⟩

theorem agree_equalsSign (state : State) (first second : MissingEquals) :
    Agree distance (Follows distance)
      (state.equalsSign first) ((state.shift distance).equalsSign second) := by
  obtain ⟨firstCause, firstEq⟩ := state.equalsSign_eq first
  obtain ⟨secondCause, secondEq⟩ := (state.shift distance).equalsSign_eq second
  rw [firstEq, secondEq, isAt_shift, advance_shift]
  split
  · exact .success rfl
  · exact agree_failure state _ _

theorem agree_openGroup (state : State) :
    Agree distance (Follows distance)
      state.openGroup (state.shift distance).openGroup := by
  change Agree distance _ (if maxDepth ≤ state.depth then _ else _)
    (if maxDepth ≤ state.depth then _ else _)
  split
  · exact agree_failure state _ _
  · exact .success rfl

theorem agree_closeGroup (state : State) :
    Agree distance (Follows distance)
      state.closeGroup (state.shift distance).closeGroup := by
  obtain ⟨stream, depth, tests⟩ := state
  cases depth with
  | zero => exact agree_failure ⟨stream, 0, tests⟩ _ _
  | succ outer => exact agree_expect ⟨stream, outer, tests⟩ .closeParenthesis

theorem agree_countTest (state : State) :
    Agree distance (Follows distance)
      state.countTest (state.shift distance).countTest := by
  change Agree distance _ (if maxTests ≤ state.tests then _ else _)
    (if maxTests ≤ state.tests then _ else _)
  split
  · exact agree_failure state _ _
  · exact .success rfl

end State

end Steps

/-! ## Conditions -/

/-- What the two styles build from the same comparisons is related. -/
structure StylesCorrespond {First Second : Type} (Related : First → Second → Prop)
    (first : ConditionStyle First) (second : ConditionStyle Second) : Prop where
  comparison : ∀ left right, Related (first.comparison left right) (second.comparison left right)
  connect : ∀ connective {firstLeft firstRight secondLeft secondRight},
    Related firstLeft secondLeft → Related firstRight secondRight →
      Related (first.connect connective firstLeft firstRight)
        (second.connect connective secondLeft secondRight)

section Conditions

variable {First Second : Type} {Related : First → Second → Prop} {firstStyle : ConditionStyle First}
  {secondStyle : ConditionStyle Second}

/-- The trees are related, and the second state is the first one, further on in its text. -/
def RelatedReadings (Related : First → Second → Prop) (distance : Nat) (first : First × State)
    (second : Second × State) : Prop :=
  Related first.1 second.1 ∧ second.2 = first.2.shift distance

theorem agree_test (styles : StylesCorrespond Related firstStyle secondStyle) (distance : Nat)
    (state : State) :
    Agree distance (RelatedReadings Related distance) (readTest firstStyle state)
      (readTest secondStyle (state.shift distance)) := by
  rw [readTest_eq, readTest_eq]
  apply Agree.bind (State.agree_countTest state)
  rintro counted _ - rfl
  apply Agree.bind (State.agree_literal counted)
  rintro ⟨left, afterLeft⟩ _ - rfl
  apply Agree.bind (State.agree_equalsSign afterLeft _ _)
  rintro afterEquals _ - rfl
  apply Agree.bind (State.agree_literal afterEquals)
  rintro ⟨right, rest⟩ _ - rfl
  exact .success ⟨styles.comparison left right, rfl⟩

theorem agree_closing {first : First} {second : Second} (related : Related first second)
    (distance : Nat) (state : State) :
    Agree distance (RelatedReadings Related distance) (readClosing first state)
      (readClosing second (state.shift distance)) := by
  rw [readClosing_eq, readClosing_eq]
  apply Agree.bind (State.agree_closeGroup state)
  rintro rest _ - rfl
  exact .success ⟨related, rfl⟩

mutual

theorem agree_group (styles : StylesCorrespond Related firstStyle secondStyle) (distance : Nat)
    (state : State) :
    Agree distance (RelatedReadings Related distance) (group firstStyle state)
      (group secondStyle (state.shift distance)) := by
  rw [group_eq, group_eq, State.isAt_shift, State.advance_shift]
  split
  · next atOpening =>
    apply Agree.bind (State.agree_openGroup state.advance)
    rintro inside _ opened rfl
    have fewer : inside.ahead.length < state.ahead.length := by
      rw [State.ahead_openGroup opened]
      exact State.length_advance_lt atOpening (by simp)
    apply Agree.bind (agree_condition styles distance inside)
    rintro ⟨firstTree, last⟩ ⟨secondTree, _⟩ - ⟨related, rfl⟩
    exact agree_closing related distance last
  · exact agree_test styles distance state
termination_by 3 * state.ahead.length

/-- Read in corresponding styles, a condition gives corresponding trees, or fails at the same
token. -/
theorem agree_condition (styles : StylesCorrespond Related firstStyle secondStyle)
    (distance : Nat) (state : State) :
    Agree distance (RelatedReadings Related distance) (condition firstStyle state)
      (condition secondStyle (state.shift distance)) := by
  rw [condition_eq, condition_eq]
  apply Agree.bind (agree_group styles distance state)
  rintro ⟨firstTree, afterFirst⟩ ⟨secondTree, _⟩ readFirst ⟨related, rfl⟩
  have fewer := length_group_lt readFirst
  exact agree_chain styles distance related afterFirst
termination_by 3 * state.ahead.length + 1

theorem agree_chain (styles : StylesCorrespond Related firstStyle secondStyle) (distance : Nat)
    {first : First} {second : Second} (related : Related first second) (state : State) :
    Agree distance (RelatedReadings Related distance) (chain firstStyle first state)
      (chain secondStyle second (state.shift distance)) := by
  rw [chain_eq, chain_eq, State.connective?_shift, State.advance_shift]
  split
  · exact .success ⟨related, rfl⟩
  · next connective found =>
    have notMore := State.length_advance_le state
    apply Agree.bind (agree_group styles distance state.advance)
    rintro ⟨firstRight, afterRight⟩ ⟨secondRight, _⟩ readRight ⟨relatedRight, rfl⟩
    have fewer := length_group_lt readRight
    exact agree_chain styles distance (styles.connect connective related relatedRight) afterRight
termination_by 3 * state.ahead.length + 2

end

end Conditions

end SqlTree.Parse
