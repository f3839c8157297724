import SqlTree.Proofs.Parse.Filters
import SqlTree.Proofs.Parse.Joins

/-!
# The counters are exact

A relation follows the readers of conditions and joins from state to state: through the tokens of a
comparison, into parentheses and out of them, along a chain.  Wherever it comes to, the counter of
parentheses tells how many of them were read and are still open, which is also how deep the readers
are nested, and neither counter is beyond its bound.  A group or a condition that is read from there
adds the comparisons of its tree to the other counter and changes nothing else.
-/

namespace SqlTree

open Parse

variable {Tree : Type}

/-! ## Parentheses -/

def TokenKind.isParenthesis : TokenKind → Bool
  | openParenthesis | closeParenthesis => true
  | _ => false

/-- How many parentheses are open behind the tokens, if `outer` of them are open in front.  A
closing parenthesis without a partner closes nothing. -/
def unclosed (outer : Nat) : List Token → Nat
  | [] => outer
  | token :: rest =>
    match token.kind with
    | .openParenthesis => unclosed (outer + 1) rest
    | .closeParenthesis => unclosed (outer - 1) rest
    | _ => unclosed outer rest

theorem unclosed_append (outer : Nat) (front behind : List Token) :
    unclosed outer (front ++ behind) = unclosed (unclosed outer front) behind := by
  induction front generalizing outer with
  | nil => rfl
  | cons token rest ih =>
    simp only [List.cons_append, unclosed]
    split <;> exact ih _

theorem unclosed_opening {token : Token} (opens : token.kind = .openParenthesis) (outer : Nat) :
    unclosed outer [token] = outer + 1 := by
  simp [unclosed, opens]

theorem unclosed_closing {token : Token} (closes : token.kind = .closeParenthesis)
    (outer : Nat) : unclosed outer [token] = outer - 1 := by
  simp [unclosed, closes]

/-- As many parentheses are open behind the tokens as in front of them. -/
def Balanced (tokens : List Token) : Prop :=
  ∀ outer, unclosed outer tokens = outer

namespace Balanced

theorem nil : Balanced [] := fun _ => rfl

theorem append {front behind : List Token} (first : Balanced front) (second : Balanced behind) :
    Balanced (front ++ behind) := by
  intro outer
  rw [unclosed_append, first, second]

theorem of_kind {token : Token} {kind : TokenKind} (isKind : token.kind = kind)
    (other : kind.isParenthesis = false) : Balanced [token] := by
  intro outer
  cases kind <;> simp_all [unclosed, TokenKind.isParenthesis]

end Balanced

theorem Derives.balanced {nonterminal : Nonterminal} {tokens : List Token} {phrase : Phrase}
    (derives : Derives nonterminal tokens phrase) : Balanced tokens := by
  induction derives with
  | test leftWord equalsSign rightWord =>
    exact (Balanced.of_kind leftWord rfl).append
      ((Balanced.of_kind equalsSign rfl).append (.of_kind rightWord rfl))
  | enclosed opens inside closes ih =>
    intro outer
    rw [← List.singleton_append, unclosed_append, unclosed_append, unclosed_opening opens, ih,
      unclosed_closing closes, Nat.add_sub_cancel]
  | single only ih => exact ih
  | joined before joins after leftIH rightIH =>
    rw [← List.singleton_append]
    exact leftIH.append ((Balanced.of_kind joins rfl).append rightIH)

/-- The shortest group is a comparison. -/
theorem Derives.three_le_length {nonterminal : Nonterminal} {tokens : List Token}
    {phrase : Phrase} (derives : Derives nonterminal tokens phrase) : 3 ≤ tokens.length := by
  induction derives with
  | test leftWord equalsSign rightWord => exact Nat.le_refl 3
  | enclosed opens inside closes ih =>
    simp only [List.length_append, List.length_cons]
    omega
  | single only ih => exact ih
  | joined before joins after leftIH rightIH =>
    simp only [List.length_append]
    omega

theorem NamesKind.balanced {tokens : List Token} {kind : JoinKind}
    (names : NamesKind tokens kind) : Balanced tokens := by
  cases names with
  | absent => exact .nil
  | bare joins => exact .of_kind joins rfl
  | named takesCondition names joins =>
    exact (Balanced.of_kind names rfl).append (.of_kind joins rfl)

theorem NamesTable.balanced {tokens : List Token} {table : Table}
    (names : NamesTable tokens table) : Balanced tokens := by
  cases names with
  | plain nameWord => exact .of_kind nameWord rfl
  | renamed nameWord asKeyword asWord =>
    exact (Balanced.of_kind nameWord rfl).append
      ((Balanced.of_kind asKeyword rfl).append (.of_kind asWord rfl))

theorem NamesTarget.balanced {tokens : List Token} {written : Option Table}
    (names : NamesTarget tokens written) : Balanced tokens := by
  cases names with
  | absent => exact .nil
  | bare onKeyword => exact .of_kind onKeyword rfl
  | table names onKeyword => exact names.balanced.append (.of_kind onKeyword rfl)

/-! ## Comparisons -/

/-- The number of comparisons that AND and OR put together. -/
def Expression.tests : Expression → Nat
  | .binary left (.connective _) right => left.tests + right.tests
  | .binary _ (.comparison _) _ => 1
  | _ => 0

/-- The number of equalities that AND and OR put together. -/
def JoinCondition.tests : JoinCondition → Nat
  | .equality _ _ => 1
  | .connected left _ right => left.tests + right.tests

namespace Parse

/-- The function counts the comparisons in what the style builds. -/
structure ConditionStyle.CountedBy (style : ConditionStyle Tree) (tests : Tree → Nat) : Prop where
  comparison : ∀ left right, tests (style.comparison left right) = 1
  connect : ∀ connective left right,
    tests (style.connect connective left right) = tests left + tests right

theorem filterStyle_countedBy : filterStyle.CountedBy Expression.tests := by
  constructor
  · intro left right
    simp [filterStyle, Expression.compare, Expression.tests]
  · intro connective left right
    simp [filterStyle, Expression.connect, Expression.tests]

theorem joinStyle_countedBy : joinStyle.CountedBy JoinCondition.tests :=
  ⟨fun _ _ => rfl, fun _ _ _ => rfl⟩

theorem ConditionStyle.CountedBy.tests_build {style : ConditionStyle Tree} {tests : Tree → Nat}
    (counted : style.CountedBy tests) (phrase : Phrase) :
    tests (phrase.build style) = phrase.tests := by
  induction phrase with
  | test left right => exact counted.comparison left right
  | enclosed inner ih => exact ih
  | joined left connective right leftIH rightIH =>
    rw [Phrase.build, counted.connect, leftIH, rightIH, Phrase.tests]

/-! ## Points of a reading -/

/-- What a reader of conditions is reading.  A chain goes on behind the tree built so far. -/
inductive Activity (Tree : Type) where
  | test
  | group
  | condition
  | chain (tree : Tree)

/-- On its way from a state the reader comes to a point, inside `level` groups in parentheses.  A
parenthesis is read and counted in one step. -/
inductive Comes (style : ConditionStyle Tree) : Activity Tree → State → Nat → State → Prop
  | start (activity : Activity Tree) (state : State) : Comes style activity state 0 state
  | counted {state counted : State} (count : state.countTest = .ok counted) :
      Comes style .test state 0 counted
  | left {state counted afterLeft : State} {left : String}
      (count : state.countTest = .ok counted) (readLeft : counted.literal = .ok (left, afterLeft)) :
      Comes style .test state 0 afterLeft
  | equals {state counted afterLeft afterEquals : State} {left : String}
      (count : state.countTest = .ok counted) (readLeft : counted.literal = .ok (left, afterLeft))
      (readEquals : afterLeft.equalsSign style.missingEquals = .ok afterEquals) :
      Comes style .test state 0 afterEquals
  | right {state rest : State} {tree : Tree} (read : readTest style state = .ok (tree, rest)) :
      Comes style .test state 0 rest
  | comparison {state point : State} {level : Nat}
      (noOpening : state.isAt .openParenthesis = false)
      (comes : Comes style .test state level point) : Comes style .group state level point
  | enclosed {state inside point : State} {level : Nat}
      (atOpening : state.isAt .openParenthesis = true)
      (opened : state.advance.openGroup = .ok inside)
      (comes : Comes style .condition inside level point) :
      Comes style .group state (level + 1) point
  | closed {state rest : State} {tree : Tree} (atOpening : state.isAt .openParenthesis = true)
      (read : group style state = .ok (tree, rest)) : Comes style .group state 0 rest
  | first {state point : State} {level : Nat} (comes : Comes style .group state level point) :
      Comes style .condition state level point
  | others {state afterFirst point : State} {tree : Tree} {level : Nat}
      (read : group style state = .ok (tree, afterFirst))
      (comes : Comes style (.chain tree) afterFirst level point) :
      Comes style .condition state level point
  | operand {state point : State} {tree : Tree} {connective : Connective} {level : Nat}
      (joins : state.connective? = some connective)
      (comes : Comes style .group state.advance level point) :
      Comes style (.chain tree) state level point
  | further {state afterRight point : State} {tree right : Tree} {connective : Connective}
      {level : Nat} (joins : state.connective? = some connective)
      (read : group style state.advance = .ok (right, afterRight))
      (comes : Comes style (.chain (style.connect connective tree right)) afterRight level point) :
      Comes style (.chain tree) state level point

variable {style : ConditionStyle Tree}

/-- A chain ends where the reader looks for a connective in vain. -/
theorem comes_of_chain {state rest : State} {tree whole : Tree}
    (read : chain style tree state = .ok (whole, rest)) :
    Comes style (.chain tree) state 0 rest := by
  rw [chain_eq] at read
  split at read
  · cases read
    exact .start _ _
  · next connective joins =>
    obtain ⟨⟨right, afterRight⟩, readRight, read⟩ := exists_of_bind_eq_ok read
    have := State.length_advance_le state
    have fewer := length_group_lt readRight
    exact .further joins readRight (comes_of_chain read)
termination_by state.ahead.length

/-- The end of a condition is a point of its reading. -/
theorem comes_of_condition {state rest : State} {tree : Tree}
    (read : condition style state = .ok (tree, rest)) :
    Comes style .condition state 0 rest := by
  rw [condition_eq] at read
  obtain ⟨⟨first, afterFirst⟩, readFirst, read⟩ := exists_of_bind_eq_ok read
  exact .others readFirst (comes_of_chain read)

namespace State

/-- The counters are not beyond their bounds. -/
structure Bounded (state : State) : Prop where
  shallow : state.depth ≤ maxDepth
  room : state.tests ≤ maxTests

/-- From the state to the point `level` parentheses were opened and not closed, and counted. -/
structure Leads (state : State) (level : Nat) (point : State) : Prop where
  tokens : ∃ tokens, state.ahead = tokens ++ point.ahead ∧
    ∀ outer, unclosed outer tokens = outer + level
  depth : point.depth = state.depth + level
  bounded : point.Bounded

theorem Leads.trans {state middle point : State} {outerLevel level : Nat}
    (first : state.Leads outerLevel middle) (second : middle.Leads level point) :
    state.Leads (outerLevel + level) point := by
  obtain ⟨front, frontEq, frontUnclosed⟩ := first.tokens
  obtain ⟨behind, behindEq, behindUnclosed⟩ := second.tokens
  refine ⟨⟨front ++ behind, ?_, fun outer => ?_⟩, ?_, second.bounded⟩
  · rw [frontEq, behindEq, List.append_assoc]
  · rw [unclosed_append, frontUnclosed, behindUnclosed, Nat.add_assoc]
  · rw [second.depth, first.depth, Nat.add_assoc]

theorem Leads.behind {state middle point : State} {level : Nat} (first : state.Leads 0 middle)
    (second : middle.Leads level point) : state.Leads level point := by
  simpa using first.trans second

theorem Passes.leads {state point : State} {tokens : List Token}
    (passes : state.Passes tokens point) (balanced : Balanced tokens) (bounded : state.Bounded) :
    state.Leads 0 point :=
  ⟨⟨tokens, passes.ahead, balanced⟩, passes.depth,
    passes.depth ▸ bounded.shallow, passes.tests ▸ bounded.room⟩

theorem leads_refl {state : State} (bounded : state.Bounded) : state.Leads 0 state :=
  (Passes.refl state).leads .nil bounded

theorem leads_of_isAt {state : State} {kind : TokenKind} (atKind : state.isAt kind = true)
    (notEnd : kind ≠ .endOfInput) (other : kind.isParenthesis = false)
    (bounded : state.Bounded) : state.Leads 0 state.advance := by
  obtain ⟨passes, isKind⟩ := passes_of_isAt atKind notEnd
  exact passes.leads (.of_kind isKind other) bounded

theorem leads_of_literal {state rest : State} {name : String}
    (read : state.literal = .ok (name, rest)) (bounded : state.Bounded) : state.Leads 0 rest := by
  obtain ⟨token, passes, word, -⟩ := passes_of_literal read
  exact passes.leads (.of_kind word rfl) bounded

theorem leads_of_countTest {state counted : State} (count : state.countTest = .ok counted)
    (bounded : state.Bounded) : state.Leads 0 counted := by
  obtain ⟨room, rfl⟩ := eq_of_countTest count
  exact ⟨⟨[], rfl, Balanced.nil⟩, rfl, bounded.shallow, room⟩

theorem leads_of_openGroup {state inside : State} (atOpening : state.isAt .openParenthesis = true)
    (opened : state.advance.openGroup = .ok inside) (bounded : state.Bounded) :
    state.Leads 1 inside := by
  obtain ⟨passes, opens⟩ := passes_of_isAt atOpening (by simp)
  obtain ⟨shallower, rfl⟩ := eq_of_openGroup opened
  refine ⟨⟨[state.current], passes.ahead, unclosed_opening opens⟩, ?_, shallower, ?_⟩
  · exact congrArg (· + 1) passes.depth
  · exact passes.tests ▸ bounded.room

theorem leads_of_connective? {state : State} {connective : Connective}
    (joins : state.connective? = some connective) (bounded : state.Bounded) :
    state.Leads 0 state.advance := by
  obtain ⟨passes, isKeyword⟩ := passes_of_connective? joins
  exact passes.leads (.of_kind isKeyword rfl) bounded

end State

end Parse

theorem Nonterminal.reads_of_read {style : ConditionStyle Tree} {nonterminal : Nonterminal}
    {state rest : State} {tree : Tree} (bounded : state.Bounded)
    (read : nonterminal.read style state = .ok (tree, rest)) :
    ∃ tokens phrase, nonterminal.Reads state tokens phrase rest ∧ tree = phrase.build style := by
  cases nonterminal with
  | condition => exact reads_condition bounded.shallow read
  | group => exact reads_group bounded.shallow read

theorem Nonterminal.Reads.leads {nonterminal : Nonterminal} {state rest : State}
    {tokens : List Token} {phrase : Phrase}
    (reads : nonterminal.Reads state tokens phrase rest) : state.Leads 0 rest := by
  refine ⟨⟨tokens, reads.ahead, reads.derives.balanced⟩, reads.depth, ?_, reads.room⟩
  have shallow := reads.shallow
  rw [reads.depth]
  omega

namespace Parse

open State

variable {style : ConditionStyle Tree}

theorem leads_of_group {state rest : State} {tree : Tree}
    (read : group style state = .ok (tree, rest)) (bounded : state.Bounded) :
    state.Leads 0 rest := by
  obtain ⟨tokens, phrase, reads, -⟩ := Nonterminal.reads_group bounded.shallow read
  exact reads.leads

/-- Wherever the reader comes to, both counters are exact.  The induction follows the reader, which
goes down one level where it enters a group. -/
theorem Comes.leads {activity : Activity Tree} {state point : State} {level : Nat}
    (comes : Comes style activity state level point) (bounded : state.Bounded) :
    state.Leads level point := by
  induction comes with
  | start activity state => exact leads_refl bounded
  | counted count => exact leads_of_countTest count bounded
  | left count readLeft =>
    have counted := leads_of_countTest count bounded
    exact counted.behind (leads_of_literal readLeft counted.bounded)
  | equals count readLeft readEquals =>
    have counted := leads_of_countTest count bounded
    have left := counted.behind (leads_of_literal readLeft counted.bounded)
    obtain ⟨token, passes, sign⟩ := passes_of_equalsSign readEquals
    exact left.behind (passes.leads (.of_kind sign rfl) left.bounded)
  | right read =>
    obtain ⟨tokens, phrase, reads, -⟩ := Nonterminal.reads_test bounded.shallow read
    exact reads.leads
  | comparison noOpening comes ih => exact ih bounded
  | enclosed atOpening opened comes ih =>
    have entered := leads_of_openGroup atOpening opened bounded
    rw [Nat.add_comm]
    exact entered.trans (ih entered.bounded)
  | closed atOpening read => exact leads_of_group read bounded
  | first comes ih => exact ih bounded
  | others read comes ih =>
    have first := leads_of_group read bounded
    exact first.behind (ih first.bounded)
  | operand joins comes ih =>
    have word := leads_of_connective? joins bounded
    exact word.behind (ih word.bounded)
  | further joins read comes ih =>
    have word := leads_of_connective? joins bounded
    have right := word.behind (leads_of_group read word.bounded)
    exact right.behind (ih right.bounded)

/-! ## Points of a text -/

/-- The state at the start of a text. -/
def startOf (text : String) : State :=
  .ofStream (.ofText text)

/-- On its way through a text the reader of conditions that may begin with the keyword comes to the
point. -/
inductive FilterPoint (keyword : Keyword) (text : String) : Nat → State → Prop
  | start : FilterPoint keyword text 0 (startOf text)
  | condition {point : State} {level : Nat}
      (comes :
        Comes filterStyle .condition ((startOf text).skip (.keyword keyword)) level point) :
      FilterPoint keyword text level point

inductive KindPoint (state : State) : State → Prop
  | start : KindPoint state state
  | word {kind : JoinKind} (names : state.current.keyword? = some kind.keyword) :
      KindPoint state state.advance
  | rest {kind : JoinKind} {rest : State} (read : readJoinKind state = .ok (kind, rest)) :
      KindPoint state rest

inductive TablePoint (state : State) : State → Prop
  | start : TablePoint state state
  | name {name : String} {afterName : State} (readName : state.literal = .ok (name, afterName)) :
      TablePoint state afterName
  | as {name : String} {afterName : State} (readName : state.literal = .ok (name, afterName))
      (atAs : afterName.isAt (.keyword .as) = true) : TablePoint state afterName.advance
  | rest {table : Table} {rest : State} (read : readTable state = .ok (table, rest)) :
      TablePoint state rest

/-- The condition of a join begins in the state. -/
inductive ReadsUpToCondition (text : String) : State → Prop
  | read {kind : JoinKind} {table : Table} {afterKind afterTable afterOn : State}
      (readKind : readJoinKind (startOf text) = .ok (kind, afterKind))
      (takesCondition : kind ≠ .cross)
      (readName : readJoinTable afterKind = .ok (table, afterTable))
      (readKeyword : readOn table afterTable = .ok afterOn) : ReadsUpToCondition text afterOn

/-- On its way through a text the reader of joins comes to the point. -/
inductive JoinPoint (text : String) : Nat → State → Prop
  | kind {point : State} (comes : KindPoint (startOf text) point) : JoinPoint text 0 point
  | table {kind : JoinKind} {afterKind point : State}
      (readKind : readJoinKind (startOf text) = .ok (kind, afterKind))
      (expected : kind = .cross ∨ afterKind.isAtTable = true)
      (comes : TablePoint afterKind point) : JoinPoint text 0 point
  | condition {afterOn point : State} {level : Nat} (upTo : ReadsUpToCondition text afterOn)
      (comes : Comes joinStyle .condition afterOn level point) : JoinPoint text level point
  | closing {afterOn afterTree rest : State} {tree : JoinCondition}
      (upTo : ReadsUpToCondition text afterOn)
      (readTree : Parse.condition joinStyle afterOn = .ok (tree, afterTree))
      (skipped : afterTree.skipClosing = .ok rest) : JoinPoint text 0 rest

theorem bounded_startOf (text : String) : (startOf text).Bounded :=
  ⟨Nat.zero_le _, Nat.zero_le _⟩

theorem FilterPoint.leads {keyword : Keyword} {text : String} {level : Nat} {point : State}
    (reached : FilterPoint keyword text level point) : (startOf text).Leads level point := by
  have bounded := bounded_startOf text
  cases reached with
  | start => exact leads_refl bounded
  | condition comes =>
    have skipped : (startOf text).Leads 0 ((startOf text).skip (.keyword keyword)) := by
      unfold State.skip
      split
      · next atKeyword => exact leads_of_isAt atKeyword (by simp) rfl bounded
      · exact leads_refl bounded
    exact skipped.behind (comes.leads skipped.bounded)

theorem KindPoint.leads {state point : State} (reached : KindPoint state point)
    (bounded : state.Bounded) : state.Leads 0 point := by
  cases reached with
  | start => exact leads_refl bounded
  | word names =>
    have atWord := kind_of_keyword? names
    exact leads_of_isAt (by simpa [isAt] using atWord) (by simp) rfl bounded
  | rest read =>
    rcases passes_of_readJoinKind read with
      ⟨-, word, join, passes, crosses, joins⟩ | ⟨-, tokens, passes, names⟩
    · exact passes.leads ((Balanced.of_kind crosses rfl).append (.of_kind joins rfl)) bounded
    · exact passes.leads names.balanced bounded

theorem TablePoint.leads {state point : State} (reached : TablePoint state point)
    (bounded : state.Bounded) : state.Leads 0 point := by
  cases reached with
  | start => exact leads_refl bounded
  | name readName => exact leads_of_literal readName bounded
  | as readName atAs =>
    have name := leads_of_literal readName bounded
    exact name.behind (leads_of_isAt atAs (by simp) rfl name.bounded)
  | rest read =>
    obtain ⟨tokens, passes, names⟩ := passes_of_readTable read
    exact passes.leads names.balanced bounded

theorem State.Leads.proper {state point : State} {level : Nat} (leads : state.Leads level point)
    (proper : ProperTokens state.ahead) : ProperTokens point.ahead := by
  obtain ⟨tokens, ahead, -⟩ := leads.tokens
  rw [ahead] at proper
  exact proper.of_append

theorem ReadsUpToCondition.leads {text : String} {afterOn : State}
    (upTo : ReadsUpToCondition text afterOn) : (startOf text).Leads 0 afterOn := by
  obtain ⟨readKind, takesCondition, readName, readKeyword⟩ := upTo
  have kind := (KindPoint.rest readKind).leads (bounded_startOf text)
  have proper := kind.proper (TokenStream.proper_ofText text)
  obtain ⟨tokens, written, passes, names, -⟩ := passes_of_readOn proper readName readKeyword
  exact kind.behind (passes.leads names.balanced kind.bounded)

theorem JoinPoint.leads {text : String} {level : Nat} {point : State}
    (reached : JoinPoint text level point) : (startOf text).Leads level point := by
  have bounded := bounded_startOf text
  cases reached with
  | kind comes => exact comes.leads bounded
  | table readKind expected comes =>
    have kind := (KindPoint.rest readKind).leads bounded
    exact kind.behind (comes.leads kind.bounded)
  | condition upTo comes => exact upTo.leads.behind (comes.leads upTo.leads.bounded)
  | closing upTo readTree skipped =>
    have tree := upTo.leads.behind ((comes_of_condition readTree).leads upTo.leads.bounded)
    obtain rfl := eq_of_skipClosing tree.depth skipped
    exact tree

/-- Of the tokens from the start up to the point as many parentheses are open as the counter says,
which is how deep the reader is nested, and neither counter is beyond its bound.  A group or a
condition that is read from the point adds the comparisons of its tree to the other counter, uses at
least three tokens, none of them the end of the input, and leaves no parenthesis open. -/
structure CountsExactly (style : ConditionStyle Tree) (tests : Tree → Nat) (start : State)
    (level : Nat) (point : State) : Prop where
  opened : ∃ tokens, start.ahead = tokens ++ point.ahead ∧ unclosed 0 tokens = point.depth
  nested : level = point.depth
  shallow : point.depth ≤ 128
  room : point.tests ≤ 512
  reads : ∀ (nonterminal : Nonterminal) (tree : Tree) (rest : State),
    nonterminal.read style point = .ok (tree, rest) →
    rest.depth = point.depth ∧ rest.tests = point.tests + tests tree ∧
      ∃ used, point.ahead = used ++ rest.ahead ∧ 3 ≤ used.length ∧
        ∀ token ∈ used, token.isEnd = false

theorem State.Leads.countsExactly {style : ConditionStyle Tree} {tests : Tree → Nat}
    {start point : State} {level : Nat} (leads : start.Leads level point)
    (outside : start.depth = 0) (proper : ProperTokens start.ahead)
    (counted : style.CountedBy tests) : CountsExactly style tests start level point := by
  have depth : point.depth = level := by rw [leads.depth, outside, Nat.zero_add]
  refine ⟨?_, depth.symm, leads.bounded.shallow, leads.bounded.room, ?_⟩
  · obtain ⟨tokens, ahead, opened⟩ := leads.tokens
    refine ⟨tokens, ahead, ?_⟩
    rw [opened, depth, Nat.zero_add]
  · intro nonterminal tree rest read
    obtain ⟨used, phrase, reads, rfl⟩ := Nonterminal.reads_of_read leads.bounded read
    have properAhead := leads.proper proper
    rw [reads.ahead] at properAhead
    refine ⟨reads.depth, ?_, used, reads.ahead, reads.derives.three_le_length, ?_⟩
    · rw [counted.tests_build, reads.tests]
    · exact fun token member => (properAhead.of_append_left token member).1

/-- At every point that the reader of WHERE and HAVING conditions or the reader of joins comes to in
any text, the counter of parentheses is the number of those that were read and are still open; the
reader is nested as deep, and at most 128 deep; and at most 512 comparisons are counted.  Every
group and every condition that is read from there leaves the parentheses as they were, adds exactly
the comparisons of its tree and uses at least three tokens before the end of the input. -/
theorem counters_are_exact (text : String) :
    (∀ (clause : ConditionClause) (level : Nat) (point : State),
      FilterPoint clause.keyword text level point →
        CountsExactly filterStyle Expression.tests (startOf text) level point) ∧
    (∀ (level : Nat) (point : State), JoinPoint text level point →
      CountsExactly joinStyle JoinCondition.tests (startOf text) level point) := by
  have proper : ProperTokens (startOf text).ahead := TokenStream.proper_ofText text
  constructor
  · intro clause level point reached
    exact reached.leads.countsExactly rfl proper filterStyle_countedBy
  · intro level point reached
    exact reached.leads.countsExactly rfl proper joinStyle_countedBy

/-- Behind the parenthesis of a group one parenthesis is open, and the condition in it is read with
one comparison. -/
theorem counters_are_exact_in_parentheses :
    ∃ inside rest : State, ∃ tree : Expression,
      FilterPoint .«where» "WHERE (a = b)" 1 inside ∧ inside.depth = 1 ∧
      condition filterStyle inside = .ok (tree, rest) ∧ rest.depth = 1 ∧
      rest.tests = inside.tests + tree.tests := by
  let opening : Token := ⟨.openParenthesis, "(", ⟨6, 7⟩⟩
  let left : Token := ⟨.literal, "a", ⟨7, 8⟩⟩
  let equals : Token := ⟨.equals, "=", ⟨9, 10⟩⟩
  let right : Token := ⟨.literal, "b", ⟨11, 12⟩⟩
  let closing : Token := ⟨.closeParenthesis, ")", ⟨12, 13⟩⟩
  let inside : State := ⟨⟨[left, equals, right, closing], 13⟩, 1, 0⟩
  have behindKeyword : (startOf "WHERE (a = b)").skip (.keyword .«where») =
      ⟨⟨[opening, left, equals, right, closing], 13⟩, 0, 0⟩ := by
    decide +kernel
  have reached : FilterPoint .«where» "WHERE (a = b)" 1 inside := by
    refine .condition ?_
    rw [behindKeyword]
    exact .first (.enclosed rfl rfl (.start .condition inside))
  have derives : Derives .condition [left, equals, right] (.test "a" "b") :=
    .single (.test rfl rfl rfl)
  have read : condition filterStyle inside =
      .ok (filterStyle.comparison "a" "b", ⟨⟨[closing], 13⟩, 1, 1⟩) :=
    (derives.read [closing] 13 1 0 (by decide) (by decide)).trans (chain_of_none rfl _)
  have exact := (counters_are_exact "WHERE (a = b)").1 .filter 1 inside reached
  obtain ⟨depth, tests, -⟩ := exact.reads .condition _ _ read
  exact ⟨inside, _, _, reached, rfl, read, depth, tests⟩

end Parse

end SqlTree
