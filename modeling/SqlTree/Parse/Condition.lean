import SqlTree.Parse.State
import SqlTree.Tree.Operator

/-!
# Conditions

Conditions are chains of groups joined by AND and OR; a group is a condition in parentheses or a
comparison of two words:

    condition := group ((AND | OR) group)*
    group     := "(" condition ")" | word "=" word

Chains are read from left to right, and AND binds no closer than OR.  Parentheses may be nested
only so deep, and only so many comparisons may be made in one text.  The grammar is the same for
every kind of condition; what is built from it, and how a missing equals sign is reported, is
given by the kind.
-/

namespace SqlTree.Parse

/-- How a comparison without an equals sign is reported: as a missing equals sign, or as a
comparison by an operator that is not supported. -/
inductive MissingEquals where
  | expected
  | unsupported
  deriving DecidableEq, Repr

/-- What a kind of condition is built from. -/
structure ConditionStyle (Tree : Type) where
  comparison : String → String → Tree
  connect : Connective → Tree → Tree → Tree
  missingEquals : MissingEquals

namespace State

def equalsSign (state : State) (report : MissingEquals) : Except Failure State :=
  if state.isAt .equals then .ok state.advance
  else
    match report with
    | .expected => .error (state.unexpected .equals)
    | .unsupported =>
      if state.atEnd then .error (state.unexpected .equals)
      else .error (state.failure (.unsupportedOperator state.current.text))

def connective? (state : State) : Option Connective :=
  if state.isAt (.keyword .and) then some .and
  else if state.isAt (.keyword .or) then some .or
  else none

theorem length_equalsSign_lt {state rest : State} {report : MissingEquals}
    (read : state.equalsSign report = .ok rest) : rest.ahead.length < state.ahead.length := by
  unfold equalsSign at read
  split at read
  · next atEquals =>
    cases read
    exact length_advance_lt atEquals (by simp)
  · cases report with
    | expected => cases read
    | unsupported =>
      simp only at read
      split at read <;> cases read

end State

section Conditions

variable {Tree : Type}

def readTest (style : ConditionStyle Tree) (state : State) : Except Failure (Tree × State) :=
  match state.countTest with
  | .error failure => .error failure
  | .ok counted =>
    match counted.literal with
    | .error failure => .error failure
    | .ok (left, afterLeft) =>
      match afterLeft.equalsSign style.missingEquals with
      | .error failure => .error failure
      | .ok afterEquals =>
        match afterEquals.literal with
        | .error failure => .error failure
        | .ok (right, rest) => .ok (style.comparison left right, rest)

theorem length_readTest_lt {style : ConditionStyle Tree} {state rest : State} {tree : Tree}
    (read : readTest style state = .ok (tree, rest)) :
    rest.ahead.length < state.ahead.length := by
  unfold readTest at read
  split at read
  · cases read
  next counted count =>
  split at read
  · cases read
  next left afterLeft readLeft =>
  split at read
  · cases read
  next afterEquals readEquals =>
  split at read
  · cases read
  next right last readRight =>
  cases read
  rw [← State.ahead_countTest count]
  have first := State.length_literal_lt readLeft
  have second := State.length_equalsSign_lt readEquals
  have third := State.length_literal_lt readRight
  omega

/-- A tree that was read and the state after it, in which fewer than `bound` tokens are left. -/
structure Reading (Tree : Type) (bound : Nat) where
  tree : Tree
  rest : State
  fewer : rest.ahead.length < bound

def Reading.result {bound : Nat} (reading : Reading Tree bound) : Tree × State :=
  (reading.tree, reading.rest)

/-- A reading that is known to leave fewer tokens than `bound`. -/
def Reading.of {bound : Nat} (read : Except Failure (Tree × State))
    (shortens : ∀ tree rest, read = .ok (tree, rest) → rest.ahead.length < bound) :
    Except Failure (Reading Tree bound) :=
  match read, shortens with
  | .error failure, _ => .error failure
  | .ok (tree, rest), shortens => .ok ⟨tree, rest, shortens tree rest rfl⟩

@[simp]
theorem Reading.map_of {bound : Nat} (read : Except Failure (Tree × State))
    (shortens : ∀ tree rest, read = .ok (tree, rest) → rest.ahead.length < bound) :
    (Reading.of read shortens).map Reading.result = read := by
  rcases read with failure | ⟨tree, rest⟩ <;> rfl

def readClosing (tree : Tree) (state : State) : Except Failure (Tree × State) :=
  match state.closeGroup with
  | .error failure => .error failure
  | .ok rest => .ok (tree, rest)

theorem length_readClosing_lt {tree whole : Tree} {state rest : State}
    (read : readClosing tree state = .ok (whole, rest)) :
    rest.ahead.length < state.ahead.length := by
  unfold readClosing at read
  split at read
  · cases read
  · next last closed =>
    cases read
    exact State.length_closeGroup_lt closed

mutual

/-- Reads a group: a condition in parentheses, or a comparison. -/
def readGroup (style : ConditionStyle Tree) (state : State) :
    Except Failure (Reading Tree state.ahead.length) :=
  if atOpening : state.isAt .openParenthesis then
    match opened : state.advance.openGroup with
    | .error failure => .error failure
    | .ok inside =>
      match readCondition style inside with
      | .error failure => .error failure
      | .ok ⟨tree, last, fewer⟩ =>
        Reading.of (readClosing tree last) fun _ _ closed => by
          have afterOpening := State.length_advance_lt atOpening (by simp)
          have afterClosing := length_readClosing_lt closed
          rw [State.ahead_openGroup opened] at fewer
          omega
  else Reading.of (readTest style state) fun _ _ => length_readTest_lt
termination_by 3 * state.ahead.length
decreasing_by
  have afterOpening := State.length_advance_lt atOpening (by simp)
  rw [State.ahead_openGroup opened]
  omega

/-- Reads groups joined by AND and OR. -/
def readCondition (style : ConditionStyle Tree) (state : State) :
    Except Failure (Reading Tree state.ahead.length) :=
  match readGroup style state with
  | .error failure => .error failure
  | .ok ⟨first, afterFirst, fewer⟩ =>
    match readChain style first afterFirst with
    | .error failure => .error failure
    | .ok ⟨tree, rest, notMore⟩ => .ok ⟨tree, rest, by omega⟩
termination_by 3 * state.ahead.length + 1

/-- Reads further groups as long as AND or OR comes next, each joined to the tree built so far. -/
def readChain (style : ConditionStyle Tree) (tree : Tree) (state : State) :
    Except Failure (Reading Tree (state.ahead.length + 1)) :=
  match state.connective? with
  | none => .ok ⟨tree, state, Nat.lt_succ_self _⟩
  | some connective =>
    match readGroup style state.advance with
    | .error failure => .error failure
    | .ok ⟨right, afterRight, fewer⟩ =>
      have := State.length_advance_le state
      match readChain style (style.connect connective tree right) afterRight with
      | .error failure => .error failure
      | .ok ⟨whole, rest, notMore⟩ => .ok ⟨whole, rest, by omega⟩
termination_by 3 * state.ahead.length + 2
decreasing_by
  all_goals
    have := State.length_advance_le state
    omega

end

def group (style : ConditionStyle Tree) (state : State) : Except Failure (Tree × State) :=
  (readGroup style state).map Reading.result

def condition (style : ConditionStyle Tree) (state : State) : Except Failure (Tree × State) :=
  (readCondition style state).map Reading.result

def chain (style : ConditionStyle Tree) (tree : Tree) (state : State) :
    Except Failure (Tree × State) :=
  (readChain style tree state).map Reading.result

theorem length_group_lt {style : ConditionStyle Tree} {state rest : State} {tree : Tree}
    (read : group style state = .ok (tree, rest)) : rest.ahead.length < state.ahead.length := by
  unfold group at read
  cases outcome : readGroup style state with
  | error failure =>
    rw [outcome] at read
    cases read
  | ok reading =>
    rw [outcome] at read
    cases read
    exact reading.fewer

theorem readTest_eq (style : ConditionStyle Tree) (state : State) :
    readTest style state = (do
      let counted ← state.countTest
      let (left, afterLeft) ← counted.literal
      let afterEquals ← afterLeft.equalsSign style.missingEquals
      let (right, rest) ← afterEquals.literal
      .ok (style.comparison left right, rest)) := by
  unfold readTest
  simp only [bind, Except.bind]
  cases state.countTest with
  | error failure => rfl
  | ok counted =>
    simp only
    cases counted.literal with
    | error failure => rfl
    | ok read =>
      obtain ⟨left, afterLeft⟩ := read
      simp only
      cases afterLeft.equalsSign style.missingEquals with
      | error failure => rfl
      | ok afterEquals =>
        simp only
        cases afterEquals.literal <;> rfl

theorem readClosing_eq (tree : Tree) (state : State) :
    readClosing tree state = (do
      let rest ← state.closeGroup
      .ok (tree, rest)) := by
  unfold readClosing
  cases state.closeGroup <;> rfl

theorem group_eq (style : ConditionStyle Tree) (state : State) :
    group style state =
      if state.isAt .openParenthesis then (do
        let inside ← state.advance.openGroup
        let (tree, last) ← condition style inside
        readClosing tree last)
      else readTest style state := by
  unfold group condition
  rw [readGroup]
  split
  · split
    · next failure opened =>
      rw [opened]
      rfl
    · next inside opened =>
      simp only [opened, bind, Except.bind]
      cases readCondition style inside with
      | error failure => rfl
      | ok reading =>
        obtain ⟨tree, last, fewer⟩ := reading
        exact Reading.map_of (readClosing tree last) _
  · exact Reading.map_of _ _

theorem condition_eq (style : ConditionStyle Tree) (state : State) :
    condition style state = (do
      let (first, afterFirst) ← group style state
      chain style first afterFirst) := by
  unfold group condition chain
  rw [readCondition]
  cases readGroup style state with
  | error failure => rfl
  | ok reading =>
    obtain ⟨first, afterFirst, fewer⟩ := reading
    simp only [Except.map, bind, Except.bind, Reading.result]
    cases readChain style first afterFirst <;> rfl

theorem chain_eq (style : ConditionStyle Tree) (tree : Tree) (state : State) :
    chain style tree state =
      match state.connective? with
      | none => .ok (tree, state)
      | some connective => (do
        let (right, afterRight) ← group style state.advance
        chain style (style.connect connective tree right) afterRight) := by
  unfold group chain
  rw [readChain]
  cases state.connective? with
  | none => rfl
  | some connective =>
    simp only
    cases readGroup style state.advance with
    | error failure => rfl
    | ok reading =>
      obtain ⟨right, afterRight, fewer⟩ := reading
      simp only [Except.map, bind, Except.bind, Reading.result]
      cases readChain style (style.connect connective tree right) afterRight <;> rfl

end Conditions

end SqlTree.Parse
