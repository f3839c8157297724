import SqlTree.Proofs.Parse.Grammar

/-!
# What is derived is read

A token list that derives from the grammar is read to its end, whatever tokens follow it, unless one
of the two bounds stands in the way.
-/

namespace SqlTree

@[simp]
theorem TokenStream.current_cons (token : Token) (rest : List Token) (stop : Nat) :
    current ⟨token :: rest, stop⟩ = token :=
  rfl

@[simp]
theorem TokenStream.following_cons (token next : Token) (rest : List Token) (stop : Nat) :
    following ⟨token :: next :: rest, stop⟩ = next :=
  rfl

namespace Parse.State

@[simp]
theorem isAt_cons (token : Token) (rest : List Token) (stop depth tests : Nat)
    (kind : TokenKind) :
    isAt ⟨⟨token :: rest, stop⟩, depth, tests⟩ kind = (token.kind == kind) :=
  rfl

@[simp]
theorem advance_cons (token : Token) (rest : List Token) (stop depth tests : Nat) :
    advance ⟨⟨token :: rest, stop⟩, depth, tests⟩ = ⟨⟨rest, stop⟩, depth, tests⟩ :=
  rfl

theorem literal_cons {token : Token} (word : token.kind = .literal) (rest : List Token)
    (stop depth tests : Nat) :
    literal ⟨⟨token :: rest, stop⟩, depth, tests⟩ =
      .ok (token.text, ⟨⟨rest, stop⟩, depth, tests⟩) := by
  simp only [literal, isAt_cons, word, beq_self_eq_true, if_true]
  rfl

theorem equalsSign_cons {token : Token} (sign : token.kind = .equals) (rest : List Token)
    (stop depth tests : Nat) (report : MissingEquals) :
    equalsSign ⟨⟨token :: rest, stop⟩, depth, tests⟩ report =
      .ok ⟨⟨rest, stop⟩, depth, tests⟩ := by
  simp only [equalsSign, isAt_cons, sign, beq_self_eq_true, if_true]
  rfl

theorem expect_cons {token : Token} {kind : TokenKind} (kindEq : token.kind = kind)
    (rest : List Token) (stop depth tests : Nat) :
    expect ⟨⟨token :: rest, stop⟩, depth, tests⟩ kind = .ok ⟨⟨rest, stop⟩, depth, tests⟩ := by
  simp only [expect, isAt_cons, kindEq, beq_self_eq_true, if_true]
  rfl

theorem closeGroup_cons {token : Token} (closes : token.kind = .closeParenthesis)
    (rest : List Token) (stop depth tests : Nat) :
    closeGroup ⟨⟨token :: rest, stop⟩, depth + 1, tests⟩ =
      .ok ⟨⟨rest, stop⟩, depth, tests⟩ :=
  expect_cons closes rest stop depth tests

theorem openGroup_of_lt {depth : Nat} (shallow : depth < maxDepth) (stream : TokenStream)
    (tests : Nat) : openGroup ⟨stream, depth, tests⟩ = .ok ⟨stream, depth + 1, tests⟩ :=
  if_neg (Nat.not_le.mpr shallow)

theorem openGroup_of_le {depth : Nat} (deep : maxDepth ≤ depth) (stream : TokenStream)
    (tests : Nat) :
    openGroup ⟨stream, depth, tests⟩ =
      .error (failure ⟨stream, depth, tests⟩ .nestingTooDeep) :=
  if_pos deep

theorem countTest_of_lt {tests : Nat} (room : tests < maxTests) (stream : TokenStream)
    (depth : Nat) : countTest ⟨stream, depth, tests⟩ = .ok ⟨stream, depth, tests + 1⟩ :=
  if_neg (Nat.not_le.mpr room)

theorem countTest_of_le {tests : Nat} (full : maxTests ≤ tests) (stream : TokenStream)
    (depth : Nat) :
    countTest ⟨stream, depth, tests⟩ =
      .error (failure ⟨stream, depth, tests⟩ .tooManyConditions) :=
  if_pos full

theorem connective?_cons {word : Token} {connective : Connective}
    (joins : word.kind = .keyword connective.keyword) (rest : List Token)
    (stop depth tests : Nat) :
    connective? ⟨⟨word :: rest, stop⟩, depth, tests⟩ = some connective := by
  cases connective <;> simp [connective?, joins]

end Parse.State

open Parse

variable {Tree : Type} {style : ConditionStyle Tree}

theorem chain_of_none {state : State} (noConnective : state.connective? = none) (tree : Tree) :
    chain style tree state = .ok (tree, state) := by
  rw [chain_eq, noConnective]

theorem chain_of_some {state : State} {connective : Connective}
    (joins : state.connective? = some connective) (tree : Tree) :
    chain style tree state = (do
      let (right, afterRight) ← group style state.advance
      chain style (style.connect connective tree right) afterRight) := by
  rw [chain_eq, joins]

/-- One of the two bounds is exceeded. -/
def ParseCause.IsBound (cause : ParseCause) : Prop :=
  cause = .nestingTooDeep ∨ cause = .tooManyConditions

namespace Nonterminal

def read (style : ConditionStyle Tree) : Nonterminal → State → Except Failure (Tree × State)
  | condition => Parse.condition style
  | group => Parse.group style

/-- Goes on when the tokens of a phrase were read: a condition may have further groups. -/
def proceed (style : ConditionStyle Tree) :
    Nonterminal → Tree → State → Except Failure (Tree × State)
  | condition => chain style
  | group => fun tree state => .ok (tree, state)

end Nonterminal

namespace Derives

theorem read_test {left equals right : Token} (leftWord : left.kind = .literal)
    (equalsSign : equals.kind = .equals) (rightWord : right.kind = .literal)
    (rest : List Token) (stop depth tests : Nat) (room : tests < maxTests) :
    group style ⟨⟨left :: equals :: right :: rest, stop⟩, depth, tests⟩ =
      .ok (style.comparison left.text right.text, ⟨⟨rest, stop⟩, depth, tests + 1⟩) := by
  rw [group_eq, if_neg (by simp [leftWord]), readTest, State.countTest_of_lt room]
  simp only [State.literal_cons leftWord, State.equalsSign_cons equalsSign,
    State.literal_cons rightWord]

/-- Within the bounds, what is derived is read as the phrase says, whatever follows it. -/
theorem read {nonterminal : Nonterminal} {tokens : List Token} {phrase : Phrase}
    (derives : Derives nonterminal tokens phrase) (rest : List Token) (stop depth tests : Nat)
    (shallow : depth + phrase.depth ≤ maxDepth) (room : tests + phrase.tests ≤ maxTests) :
    nonterminal.read style ⟨⟨tokens ++ rest, stop⟩, depth, tests⟩ =
      nonterminal.proceed style (phrase.build style)
        ⟨⟨rest, stop⟩, depth, tests + phrase.tests⟩ := by
  induction derives generalizing rest depth tests with
  | test leftWord equalsSign rightWord =>
    exact read_test leftWord equalsSign rightWord rest stop depth tests room
  | @enclosed opening closing tokens inner opens inside closes ih =>
    simp only [Phrase.depth, Phrase.tests] at shallow room
    have shallower : depth < maxDepth := by omega
    have insideRead : condition style ⟨⟨tokens ++ closing :: rest, stop⟩, depth + 1, tests⟩ =
        chain style (inner.build style)
          ⟨⟨closing :: rest, stop⟩, depth + 1, tests + inner.tests⟩ :=
      ih (closing :: rest) (depth + 1) tests (by omega) room
    have noConnective :
        State.connective? ⟨⟨closing :: rest, stop⟩, depth + 1, tests + inner.tests⟩ = none := by
      simp [State.connective?, closes]
    have closed := State.closeGroup_cons closes rest stop depth (tests + inner.tests)
    simp only [List.cons_append, List.append_assoc, List.nil_append, Nonterminal.read]
    rw [group_eq, if_pos (by simp [opens]), State.advance_cons, State.openGroup_of_lt shallower]
    change (condition style _ >>= fun read => readClosing read.1 read.2) = _
    rw [insideRead, chain_of_none noConnective]
    change readClosing _ _ = _
    rw [readClosing, closed]
    rfl
  | single only ih =>
    have groupRead := ih rest depth tests shallow room
    change condition style _ = _
    rw [condition_eq]
    change group style _ = _ at groupRead
    rw [groupRead]
    rfl
  | @joined leftTokens rightTokens word left right connective before joins after leftIH rightIH =>
    simp only [Phrase.depth, Phrase.tests] at shallow room
    have leftRead :
        condition style ⟨⟨leftTokens ++ word :: (rightTokens ++ rest), stop⟩, depth, tests⟩ =
          chain style (left.build style)
            ⟨⟨word :: (rightTokens ++ rest), stop⟩, depth, tests + left.tests⟩ :=
      leftIH (word :: (rightTokens ++ rest)) depth tests (by omega) (by omega)
    have rightRead :
        group style ⟨⟨rightTokens ++ rest, stop⟩, depth, tests + left.tests⟩ =
          .ok (right.build style, ⟨⟨rest, stop⟩, depth, tests + left.tests + right.tests⟩) :=
      rightIH rest depth (tests + left.tests) (by omega) (by omega)
    simp only [List.append_assoc, List.cons_append]
    change condition style _ = _
    rw [leftRead, chain_of_some (State.connective?_cons joins _ _ _ _), State.advance_cons,
      rightRead, Nat.add_assoc]
    rfl

/-- Beyond the bounds, reading fails for that reason, whatever follows. -/
theorem read_exceeding {nonterminal : Nonterminal} {tokens : List Token} {phrase : Phrase}
    (derives : Derives nonterminal tokens phrase) (rest : List Token) (stop depth tests : Nat)
    (shallow : depth ≤ maxDepth)
    (exceeds : maxDepth < depth + phrase.depth ∨ maxTests < tests + phrase.tests) :
    ∃ failure, nonterminal.read style ⟨⟨tokens ++ rest, stop⟩, depth, tests⟩ = .error failure ∧
      failure.cause.IsBound := by
  induction derives generalizing rest depth tests with
  | @test left equals right leftWord equalsSign rightWord =>
    simp only [Phrase.depth, Phrase.tests] at exceeds
    have full : maxTests ≤ tests := by omega
    have failed :
        group style ⟨⟨left :: equals :: right :: rest, stop⟩, depth, tests⟩ =
          .error (State.failure ⟨⟨left :: equals :: right :: rest, stop⟩, depth, tests⟩
            .tooManyConditions) := by
      rw [group_eq, if_neg (by simp [leftWord]), readTest, State.countTest_of_le full]
    exact ⟨_, failed, .inr rfl⟩
  | @enclosed opening closing tokens inner opens inside closes ih =>
    simp only [Phrase.depth, Phrase.tests] at exceeds
    simp only [List.cons_append, List.append_assoc, List.nil_append, Nonterminal.read]
    rw [group_eq, if_pos (by simp [opens]), State.advance_cons]
    by_cases deepest : maxDepth ≤ depth
    · rw [State.openGroup_of_le deepest]
      exact ⟨_, rfl, .inl rfl⟩
    · obtain ⟨failure, failed, isBound⟩ :=
        ih (closing :: rest) (depth + 1) tests (by omega) (by omega)
      rw [State.openGroup_of_lt (Nat.not_le.mp deepest)]
      refine ⟨failure, ?_, isBound⟩
      change (condition style _ >>= fun read => readClosing read.1 read.2) = _
      change condition style _ = _ at failed
      rw [failed]
      rfl
  | single only ih =>
    obtain ⟨failure, failed, isBound⟩ := ih rest depth tests shallow exceeds
    refine ⟨failure, ?_, isBound⟩
    change condition style _ = _
    change group style _ = _ at failed
    rw [condition_eq, failed]
    rfl
  | @joined leftTokens rightTokens word left right connective before joins after leftIH rightIH =>
    simp only [Phrase.depth, Phrase.tests] at exceeds
    simp only [List.append_assoc, List.cons_append]
    by_cases leftExceeds : maxDepth < depth + left.depth ∨ maxTests < tests + left.tests
    · exact leftIH (word :: (rightTokens ++ rest)) depth tests shallow leftExceeds
    · obtain ⟨failure, failed, isBound⟩ :=
        rightIH rest depth (tests + left.tests) shallow (by omega)
      have leftRead :
          condition style ⟨⟨leftTokens ++ word :: (rightTokens ++ rest), stop⟩, depth, tests⟩ =
            chain style (left.build style)
              ⟨⟨word :: (rightTokens ++ rest), stop⟩, depth, tests + left.tests⟩ :=
        before.read _ _ _ _ (by omega) (by omega)
      refine ⟨failure, ?_, isBound⟩
      change condition style _ = _
      change group style _ = _ at failed
      rw [leftRead, chain_of_some (State.connective?_cons joins _ _ _ _), State.advance_cons,
        failed]
      rfl

end Derives

end SqlTree
