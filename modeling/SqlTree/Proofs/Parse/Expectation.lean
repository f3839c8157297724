import SqlTree.Proofs.Parse.Filters
import SqlTree.Proofs.Parse.Joins

/-!
# What may come next

The grammars of conditions and of joins, without their bounds, as an automaton that takes one token
after the other.  Its states say which tokens may come next; the number of open parentheses is all
that has to be remembered of a condition.  The token lists that it takes to the end are those of the
grammars, and from each of its states the end can be reached.
-/

namespace SqlTree

/-! ## The grammars without bounds -/

/-- The tokens are a condition, with or without the keyword of the clause in front of it. -/
def ConditionClause.IsSentence (clause : ConditionClause) (tokens : List Token) : Prop :=
  ∃ phrase, Derives .condition (withoutKeyword clause.keyword tokens) phrase

/-- The tokens are a join:

    join := CROSS JOIN table | kind target condition
-/
inductive IsJoinSentence : List Token → Prop
  | cross {word join : Token} {tokens : List Token} {table : Table}
      (crosses : word.kind = .keyword .cross) (joins : join.kind = .keyword .join)
      (names : NamesTable tokens table) : IsJoinSentence (word :: join :: tokens)
  | conditional {kindTokens targetTokens conditionTokens : List Token} {kind : JoinKind}
      {written : Option Table} {phrase : Phrase} (namesKind : NamesKind kindTokens kind)
      (namesTarget : NamesTarget targetTokens written)
      (derives : Derives .condition conditionTokens phrase) :
      IsJoinSentence (kindTokens ++ targetTokens ++ conditionTokens)

/-! ## The automaton -/

/-- What has to come next, with the number of parentheses that are open. -/
inductive Expectation where
  | clause (which : ConditionClause)
  | group (depth : Nat)
  | equals (depth : Nat)
  | word (depth : Nat)
  | connective (depth : Nat)
  | join
  | joinWord
  | target
  /-- Behind a word that is a table or the left side of a comparison. -/
  | targetRest
  | targetAlias
  | on
  | crossJoinWord
  | crossTable
  | crossRest
  | crossAlias
  | nothing

namespace Expectation

/-- A closing parenthesis has to have a partner. -/
def closing : Nat → List (TokenKind × Expectation)
  | 0 => []
  | depth + 1 => [(.closeParenthesis, connective depth)]

/-- The categories of the tokens that may come next, with what has to follow them. -/
def options : Expectation → List (TokenKind × Expectation)
  | clause which =>
    [(.keyword which.keyword, group 0), (.openParenthesis, group 1), (.literal, equals 0)]
  | group depth => [(.openParenthesis, group (depth + 1)), (.literal, equals depth)]
  | equals depth => [(.equals, word depth)]
  | word depth => [(.literal, connective depth)]
  | connective depth =>
    [(.keyword .and, group depth), (.keyword .or, group depth)] ++ closing depth
  | join =>
    [(.keyword .inner, joinWord), (.keyword .left, joinWord), (.keyword .right, joinWord),
      (.keyword .cross, crossJoinWord), (.keyword .join, target), (.keyword .on, group 0),
      (.openParenthesis, group 1), (.literal, targetRest)]
  | joinWord => [(.keyword .join, target)]
  | target => [(.keyword .on, group 0), (.openParenthesis, group 1), (.literal, targetRest)]
  | targetRest => [(.keyword .as, targetAlias), (.keyword .on, group 0), (.equals, word 0)]
  | targetAlias => [(.literal, on)]
  | on => [(.keyword .on, group 0)]
  | crossJoinWord => [(.keyword .join, crossTable)]
  | crossTable => [(.literal, crossRest)]
  | crossRest => [(.keyword .as, crossAlias)]
  | crossAlias => [(.literal, nothing)]
  | nothing => []

/-- Nothing has to come. -/
def mayEnd : Expectation → Bool
  | connective 0 | crossRest | nothing => true
  | _ => false

def step (expectation : Expectation) (kind : TokenKind) : Option Expectation :=
  expectation.options.lookup kind

/-- What has to follow the tokens, if they may come. -/
def after (expectation : Expectation) (tokens : List Token) : Option Expectation :=
  tokens.foldlM (fun current token => current.step token.kind) expectation

/-- The tokens may come, and nothing has to follow them. -/
def Allows (expectation : Expectation) (tokens : List Token) : Prop :=
  ∃ last, expectation.after tokens = some last ∧ last.mayEnd = true

variable {expectation next : Expectation} {token : Token} {tokens rest : List Token}

@[simp]
theorem after_nil (expectation : Expectation) : expectation.after [] = some expectation :=
  rfl

@[simp]
theorem after_cons (expectation : Expectation) (token : Token) (rest : List Token) :
    expectation.after (token :: rest) =
      (expectation.step token.kind).bind fun next => next.after rest :=
  List.foldlM_cons

@[simp]
theorem after_append (expectation : Expectation) (tokens rest : List Token) :
    expectation.after (tokens ++ rest) =
      (expectation.after tokens).bind fun next => next.after rest :=
  List.foldlM_append

theorem mem_options_of_step {kind : TokenKind} (taken : expectation.step kind = some next) :
    (kind, next) ∈ expectation.options := by
  obtain ⟨before, behind, split, -⟩ := List.lookup_eq_some_iff.mp taken
  simp [split]

theorem after_cons_of_step {kind : TokenKind} (isKind : token.kind = kind)
    (taken : expectation.step kind = some next) (rest : List Token) :
    expectation.after (token :: rest) = next.after rest := by
  rw [after_cons, isKind, taken, Option.bind_some]

/-- Behind the options that it has more, an expectation goes on like the other one. -/
theorem step_eq_of_options {other : Expectation} {kind : TokenKind}
    (more : List (TokenKind × Expectation)) (split : expectation.options = more ++ other.options)
    (noneMore : ∀ option ∈ more, option.1 ≠ kind) :
    expectation.step kind = other.step kind := by
  have notFound : more.lookup kind = none :=
    List.lookup_eq_none_iff.mpr fun option member => by simpa using (noneMore option member).symm
  rw [step, step, split, List.lookup_append, notFound, Option.none_or]

theorem allows_nil : expectation.Allows [] ↔ expectation.mayEnd = true := by
  simp [Allows]

theorem allows_append (taken : expectation.after tokens = some next) :
    expectation.Allows (tokens ++ rest) ↔ next.Allows rest := by
  simp [Allows, taken]

theorem allows_cons : expectation.Allows (token :: rest) ↔
    ∃ next, expectation.step token.kind = some next ∧ next.Allows rest := by
  simp only [Allows, after_cons, Option.bind_eq_some_iff]
  constructor
  · rintro ⟨last, ⟨next, taken, afterRest⟩, ends⟩
    exact ⟨next, taken, last, afterRest, ends⟩
  · rintro ⟨next, taken, last, afterRest, ends⟩
    exact ⟨last, ⟨next, taken, afterRest⟩, ends⟩

/-- The first of the tokens is one of the options. -/
theorem Allows.exists_option (allowed : expectation.Allows (token :: rest)) :
    ∃ next, (token.kind, next) ∈ expectation.options ∧ next.Allows rest := by
  obtain ⟨next, taken, allowedRest⟩ := allows_cons.mp allowed
  exact ⟨next, mem_options_of_step taken, allowedRest⟩

/-- Only tokens of one category may come next. -/
structure Requires (expectation : Expectation) (kind : TokenKind) (next : Expectation) : Prop where
  options_eq : expectation.options = [(kind, next)]
  mayEnd_eq : expectation.mayEnd = false

theorem Requires.step_eq {kind : TokenKind} (requires : expectation.Requires kind next) :
    expectation.step kind = some next := by
  simp [step, requires.options_eq]

theorem Requires.exists_of_allows {kind : TokenKind} (requires : expectation.Requires kind next)
    (allowed : expectation.Allows tokens) :
    ∃ token rest, tokens = token :: rest ∧ token.kind = kind ∧ next.Allows rest := by
  cases tokens with
  | nil =>
    have ends := allows_nil.mp allowed
    rw [requires.mayEnd_eq] at ends
    cases ends
  | cons token rest =>
    obtain ⟨other, member, allowedRest⟩ := allowed.exists_option
    rw [requires.options_eq, List.mem_singleton, Prod.mk.injEq] at member
    obtain ⟨tokenKind, rfl⟩ := member
    exact ⟨token, rest, rfl, tokenKind, allowedRest⟩

theorem requires_equals (depth : Nat) : (equals depth).Requires .equals (word depth) :=
  ⟨rfl, rfl⟩

theorem requires_word (depth : Nat) : (word depth).Requires .literal (connective depth) :=
  ⟨rfl, rfl⟩

/-! ## Every expectation can be met -/

theorem exists_allows_of_step (kind : TokenKind) (taken : expectation.step kind = some next)
    (met : ∃ tokens, next.Allows tokens) : ∃ tokens, expectation.Allows tokens := by
  obtain ⟨tokens, allowed⟩ := met
  exact ⟨⟨kind, "x", ⟨0, 0⟩⟩ :: tokens, allows_cons.mpr ⟨next, taken, allowed⟩⟩

theorem exists_allows_connective (depth : Nat) : ∃ tokens, (connective depth).Allows tokens := by
  induction depth with
  | zero => exact ⟨[], allows_nil.mpr rfl⟩
  | succ depth ih =>
    exact exists_allows_of_step .closeParenthesis rfl ih

/-- From every state, some tokens lead to the end. -/
theorem exists_allows (expectation : Expectation) : ∃ tokens, expectation.Allows tokens := by
  have done (last : Expectation) (ends : last.mayEnd = true) : ∃ tokens, last.Allows tokens :=
    ⟨[], allows_nil.mpr ends⟩
  have atWord (depth : Nat) : ∃ tokens, (word depth).Allows tokens :=
    exists_allows_of_step .literal rfl (exists_allows_connective depth)
  have atEquals (depth : Nat) : ∃ tokens, (equals depth).Allows tokens :=
    exists_allows_of_step .equals rfl (atWord depth)
  have atGroup (depth : Nat) : ∃ tokens, (group depth).Allows tokens :=
    exists_allows_of_step .literal rfl (atEquals depth)
  have atTarget : ∃ tokens, target.Allows tokens :=
    exists_allows_of_step (.keyword .on) rfl (atGroup 0)
  have atOn : ∃ tokens, on.Allows tokens :=
    exists_allows_of_step (.keyword .on) rfl (atGroup 0)
  have atCrossTable : ∃ tokens, crossTable.Allows tokens :=
    exists_allows_of_step .literal rfl (done crossRest rfl)
  cases expectation with
  | clause which =>
    exact exists_allows_of_step .literal (by cases which <;> rfl) (atEquals 0)
  | group depth => exact atGroup depth
  | equals depth => exact atEquals depth
  | word depth => exact atWord depth
  | connective depth => exact exists_allows_connective depth
  | join => exact exists_allows_of_step (.keyword .join) rfl atTarget
  | joinWord => exact exists_allows_of_step (.keyword .join) rfl atTarget
  | target => exact atTarget
  | targetRest => exact exists_allows_of_step .equals rfl (atWord 0)
  | targetAlias => exact exists_allows_of_step .literal rfl atOn
  | on => exact atOn
  | crossJoinWord => exact exists_allows_of_step (.keyword .join) rfl atCrossTable
  | crossTable => exact atCrossTable
  | crossRest => exact done crossRest rfl
  | crossAlias => exact exists_allows_of_step .literal rfl (done nothing rfl)
  | nothing => exact done nothing rfl

end Expectation

/-! ## Conditions -/

open Expectation

theorem Expectation.step_connective (connective : Connective) (depth : Nat) :
    (Expectation.connective depth).step (.keyword connective.keyword) = some (group depth) := by
  cases connective <;> rfl

/-- What is derived closes the parentheses that it opens. -/
theorem Derives.after {nonterminal : Nonterminal} {tokens : List Token} {phrase : Phrase}
    (derives : Derives nonterminal tokens phrase) (depth : Nat) :
    (group depth).after tokens = some (connective depth) := by
  induction derives generalizing depth with
  | test leftWord equalsSign rightWord =>
    simp only [after_cons, leftWord, equalsSign, rightWord]
    rfl
  | enclosed opens inside closes ih =>
    have opened : (group depth).step .openParenthesis = some (group (depth + 1)) := rfl
    have closed : (connective (depth + 1)).step .closeParenthesis = some (connective depth) := rfl
    simp [opens, closes, ih, opened, closed]
  | single only ih => exact ih depth
  | joined before joins after leftIH rightIH =>
    simp only [after_append, after_cons, leftIH, joins, step_connective, Option.bind_some, rightIH]

/-- The tokens that may stand behind a group: further groups, and the parentheses that are open. -/
inductive ClosesGroups : Nat → List Token → Prop
  | done : ClosesGroups 0 []
  | close {depth : Nat} {closing : Token} {tokens : List Token}
      (closes : closing.kind = .closeParenthesis) (rest : ClosesGroups depth tokens) :
      ClosesGroups (depth + 1) (closing :: tokens)
  | more {depth : Nat} {word : Token} {connective : Connective} {groupTokens tokens : List Token}
      {phrase : Phrase} (joins : word.kind = .keyword connective.keyword)
      (derives : Derives .group groupTokens phrase) (rest : ClosesGroups depth tokens) :
      ClosesGroups depth (word :: (groupTokens ++ tokens))

namespace ClosesGroups

/-- What stands behind a condition outside parentheses belongs to it. -/
theorem derives {left tokens : List Token} {phrase : Phrase} (closes : ClosesGroups 0 tokens)
    (before : Derives .condition left phrase) :
    ∃ whole, Derives .condition (left ++ tokens) whole := by
  generalize isZero : 0 = depth at closes
  induction closes generalizing left phrase with
  | done => exact ⟨phrase, by simpa using before⟩
  | close => cases isZero
  | more joins derives rest ih =>
    obtain ⟨whole, derivesWhole⟩ := ih (before.joined joins derives) isZero
    exact ⟨whole, by simpa using derivesWhole⟩

/-- What stands behind a condition in parentheses belongs to it up to the closing one. -/
theorem exists_closing {left tokens : List Token} {phrase : Phrase} {depth : Nat}
    (closes : ClosesGroups (depth + 1) tokens) (before : Derives .condition left phrase) :
    ∃ middle closing rest whole, tokens = middle ++ closing :: rest ∧
      closing.kind = .closeParenthesis ∧ Derives .condition (left ++ middle) whole ∧
      ClosesGroups depth rest := by
  generalize isSucc : depth + 1 = outer at closes
  induction closes generalizing left phrase with
  | done => cases isSucc
  | close closes rest =>
    cases isSucc
    exact ⟨[], _, _, phrase, rfl, closes, by simpa using before, rest⟩
  | @more outer word connective groupTokens tokens inner joins derives rest ih =>
    obtain ⟨middle, closing, last, whole, rfl, closes, derivesWhole, closesLast⟩ :=
      ih (before.joined joins derives) isSucc
    exact ⟨word :: (groupTokens ++ middle), closing, last, whole, by simp, closes,
      by simpa using derivesWhole, closesLast⟩

end ClosesGroups

mutual

theorem closesGroups_of_allows {depth : Nat} {tokens : List Token}
    (allowed : (connective depth).Allows tokens) : ClosesGroups depth tokens := by
  cases tokens with
  | nil =>
    cases depth with
    | zero => exact .done
    | succ depth => cases allows_nil.mp allowed
  | cons token rest =>
    obtain ⟨next, member, allowedRest⟩ := allowed.exists_option
    simp only [options, List.cons_append, List.nil_append, List.mem_cons, Prod.mk.injEq] at member
    rcases member with ⟨isAnd, rfl⟩ | ⟨isOr, rfl⟩ | member
    · obtain ⟨groupTokens, last, phrase, rfl, derives, closes⟩ := exists_group_of_allows allowedRest
      exact @ClosesGroups.more _ _ .and _ _ _ isAnd derives closes
    · obtain ⟨groupTokens, last, phrase, rfl, derives, closes⟩ := exists_group_of_allows allowedRest
      exact @ClosesGroups.more _ _ .or _ _ _ isOr derives closes
    · cases depth with
      | zero => cases member
      | succ depth =>
        simp only [closing, List.mem_singleton, Prod.mk.injEq] at member
        obtain ⟨closes, rfl⟩ := member
        exact .close closes (closesGroups_of_allows allowedRest)
termination_by tokens.length

theorem exists_group_of_allows {depth : Nat} {tokens : List Token}
    (allowed : (group depth).Allows tokens) :
    ∃ groupTokens rest phrase, tokens = groupTokens ++ rest ∧
      Derives .group groupTokens phrase ∧ ClosesGroups depth rest := by
  cases tokens with
  | nil => cases allows_nil.mp allowed
  | cons token rest =>
    obtain ⟨next, member, allowedRest⟩ := allowed.exists_option
    simp only [options, List.mem_cons, List.not_mem_nil, or_false, Prod.mk.injEq] at member
    rcases member with ⟨opens, rfl⟩ | ⟨isWord, rfl⟩
    · obtain ⟨groupTokens, others, phrase, rfl, derives, closes⟩ :=
        exists_group_of_allows allowedRest
      obtain ⟨middle, closing, last, whole, rfl, isClosing, inside, closesLast⟩ :=
        closes.exists_closing (.single derives)
      exact ⟨_, last, _, by simp, .enclosed opens inside isClosing, closesLast⟩
    · obtain ⟨sign, others, rfl, equalsSign, allowedOthers⟩ :=
        (requires_equals depth).exists_of_allows allowedRest
      obtain ⟨right, last, rfl, rightWord, allowedLast⟩ :=
        (requires_word depth).exists_of_allows allowedOthers
      exact ⟨[token, sign, right], last, _, rfl, .test isWord equalsSign rightWord,
        closesGroups_of_allows allowedLast⟩
termination_by tokens.length

end

/-- Outside parentheses, the conditions are what may come. -/
theorem allows_group_iff {tokens : List Token} :
    (group 0).Allows tokens ↔ ∃ phrase, Derives .condition tokens phrase := by
  constructor
  · intro allowed
    obtain ⟨groupTokens, rest, phrase, rfl, derives, closes⟩ := exists_group_of_allows allowed
    exact closes.derives (.single derives)
  · rintro ⟨phrase, derives⟩
    exact ⟨connective 0, derives.after 0, rfl⟩

namespace ConditionClause

theorem step_keyword (clause : ConditionClause) :
    (Expectation.clause clause).step (.keyword clause.keyword) = some (group 0) := by
  cases clause <;> rfl

theorem step_eq_group (clause : ConditionClause) {kind : TokenKind}
    (noKeyword : kind ≠ .keyword clause.keyword) :
    (Expectation.clause clause).step kind = (group 0).step kind :=
  step_eq_of_options [(.keyword clause.keyword, group 0)] rfl (by simpa using noKeyword.symm)

/-- The keyword of a clause may come in front of its condition, which begins with no keyword. -/
theorem allows_iff {clause : ConditionClause} {tokens : List Token} :
    (Expectation.clause clause).Allows tokens ↔ clause.IsSentence tokens := by
  rw [IsSentence, ← allows_group_iff]
  cases tokens with
  | nil => simp only [allows_nil, withoutKeyword, mayEnd]
  | cons token rest =>
    rw [withoutKeyword]
    split
    · next isKeyword => simp [allows_cons, isKeyword, clause.step_keyword]
    · next noKeyword => simp only [allows_cons, clause.step_eq_group noKeyword]

end ConditionClause

/-! ## Joins -/

/-- Where a target may come, a condition may come as well. -/
theorem Derives.after_target {tokens : List Token} {phrase : Phrase}
    (derives : Derives .condition tokens phrase) : target.after tokens = some (connective 0) := by
  have taken := derives.after 0
  rcases derives.start with
    ⟨left, sign, rest, rfl, leftWord, equalsSign⟩ | ⟨opening, rest, rfl, opens⟩
  · rw [after_cons_of_step leftWord rfl, after_cons_of_step equalsSign rfl] at taken ⊢
    exact taken
  · rw [after_cons_of_step opens rfl] at taken ⊢
    exact taken

theorem NamesTable.after_target {tokens : List Token} {table : Table} {onToken : Token}
    (names : NamesTable tokens table) (onKeyword : onToken.kind = .keyword .on) :
    target.after (tokens ++ [onToken]) = some (group 0) := by
  cases names with
  | plain nameWord =>
    exact (after_cons_of_step nameWord rfl _).trans (after_cons_of_step onKeyword rfl _)
  | renamed nameWord asKeyword asWord =>
    exact (after_cons_of_step nameWord rfl _).trans ((after_cons_of_step asKeyword rfl _).trans
      ((after_cons_of_step asWord rfl _).trans (after_cons_of_step onKeyword rfl _)))

theorem requires_targetAlias : targetAlias.Requires .literal on :=
  ⟨rfl, rfl⟩

theorem requires_on : on.Requires (.keyword .on) (group 0) :=
  ⟨rfl, rfl⟩

/-- Apart from ON and words, what begins a target begins a condition. -/
theorem step_target_eq {kind : TokenKind} (noOn : kind ≠ .keyword .on) (noWord : kind ≠ .literal) :
    target.step kind = (group 0).step kind := by
  simp [step, options, List.lookup_cons, beq_false_of_ne noOn, beq_false_of_ne noWord]

/-- A word is a table if ON or AS is behind it, and else it is the left side of a comparison. -/
theorem exists_target_of_allows {name : Token} {tokens : List Token}
    (nameWord : name.kind = .literal) (allowed : targetRest.Allows tokens) :
    ∃ targetTokens conditionTokens written phrase,
      name :: tokens = targetTokens ++ conditionTokens ∧ NamesTarget targetTokens written ∧
        Derives .condition conditionTokens phrase := by
  cases tokens with
  | nil => cases allows_nil.mp allowed
  | cons token rest =>
    obtain ⟨next, member, allowedRest⟩ := allowed.exists_option
    simp only [options, List.mem_cons, List.not_mem_nil, or_false, Prod.mk.injEq] at member
    rcases member with ⟨isAs, rfl⟩ | ⟨isOn, rfl⟩ | ⟨isSign, rfl⟩
    · obtain ⟨other, others, rfl, otherWord, allowedOthers⟩ :=
        requires_targetAlias.exists_of_allows allowedRest
      obtain ⟨onToken, last, rfl, isOn, allowedLast⟩ := requires_on.exists_of_allows allowedOthers
      obtain ⟨phrase, derives⟩ := allows_group_iff.mp allowedLast
      exact ⟨[name, token, other, onToken], last, _, phrase, rfl,
        .table (.renamed nameWord isAs otherWord) isOn, derives⟩
    · obtain ⟨phrase, derives⟩ := allows_group_iff.mp allowedRest
      exact ⟨[name, token], rest, _, phrase, rfl, .table (.plain nameWord) isOn, derives⟩
    · have atSign : (equals 0).Allows (token :: rest) :=
        allows_cons.mpr ⟨word 0, by rw [isSign]; rfl, allowedRest⟩
      have whole : (group 0).Allows (name :: token :: rest) :=
        allows_cons.mpr ⟨equals 0, by rw [nameWord]; rfl, atSign⟩
      obtain ⟨phrase, derives⟩ := allows_group_iff.mp whole
      exact ⟨[], name :: token :: rest, none, phrase, rfl, .absent, derives⟩

/-- Where a target may come, there come a target and a condition. -/
theorem allows_target_iff {tokens : List Token} :
    target.Allows tokens ↔ ∃ targetTokens conditionTokens written phrase,
      tokens = targetTokens ++ conditionTokens ∧ NamesTarget targetTokens written ∧
        Derives .condition conditionTokens phrase := by
  constructor
  · intro allowed
    cases tokens with
    | nil => cases allows_nil.mp allowed
    | cons token rest =>
      obtain ⟨next, member, allowedRest⟩ := allowed.exists_option
      simp only [options, List.mem_cons, List.not_mem_nil, or_false, Prod.mk.injEq] at member
      rcases member with ⟨isOn, rfl⟩ | ⟨opens, rfl⟩ | ⟨isWord, rfl⟩
      · obtain ⟨phrase, derives⟩ := allows_group_iff.mp allowedRest
        exact ⟨[token], rest, none, phrase, rfl, .bare isOn, derives⟩
      · have whole : (group 0).Allows (token :: rest) :=
          allows_cons.mpr ⟨group 1, by rw [opens]; rfl, allowedRest⟩
        obtain ⟨phrase, derives⟩ := allows_group_iff.mp whole
        exact ⟨[], token :: rest, none, phrase, rfl, .absent, derives⟩
      · exact exists_target_of_allows isWord allowedRest
  · rintro ⟨targetTokens, conditionTokens, written, phrase, rfl, names, derives⟩
    have whole : (group 0).Allows conditionTokens := allows_group_iff.mpr ⟨phrase, derives⟩
    cases names with
    | absent => exact ⟨connective 0, derives.after_target, rfl⟩
    | bare onKeyword => exact (allows_append (after_cons_of_step onKeyword rfl [])).mpr whole
    | table names onKeyword => exact (allows_append (names.after_target onKeyword)).mpr whole

/-- What has to follow the word for a kind. -/
def JoinKind.behindWord : JoinKind → Expectation
  | cross => crossJoinWord
  | _ => joinWord

/-- What has to follow the word for a kind and JOIN. -/
def JoinKind.behindWords : JoinKind → Expectation
  | cross => crossTable
  | _ => target

theorem JoinKind.step_join (kind : JoinKind) :
    join.step (.keyword kind.keyword) = some kind.behindWord := by
  cases kind <;> rfl

theorem JoinKind.requires_behindWord (kind : JoinKind) :
    kind.behindWord.Requires (.keyword .join) kind.behindWords := by
  cases kind <;> exact ⟨rfl, rfl⟩

theorem JoinKind.behindWords_of_ne {kind : JoinKind} (takesCondition : kind ≠ .cross) :
    kind.behindWords = target := by
  cases kind with
  | cross => exact absurd rfl takesCondition
  | _ => rfl

theorem JoinKind.after_words {kind : JoinKind} {word join : Token}
    (names : word.kind = .keyword kind.keyword) (joins : join.kind = .keyword .join) :
    Expectation.join.after [word, join] = some kind.behindWords :=
  (after_cons_of_step names kind.step_join _).trans
    (after_cons_of_step joins kind.requires_behindWord.step_eq _)

theorem requires_crossTable : crossTable.Requires .literal crossRest :=
  ⟨rfl, rfl⟩

theorem requires_crossAlias : crossAlias.Requires .literal nothing :=
  ⟨rfl, rfl⟩

theorem allows_crossTable_iff {tokens : List Token} :
    crossTable.Allows tokens ↔ ∃ table, NamesTable tokens table := by
  constructor
  · intro allowed
    obtain ⟨name, rest, rfl, nameWord, allowedRest⟩ := requires_crossTable.exists_of_allows allowed
    cases rest with
    | nil => exact ⟨_, .plain nameWord⟩
    | cons token others =>
      obtain ⟨next, member, allowedOthers⟩ := allowedRest.exists_option
      simp only [options, List.mem_singleton, Prod.mk.injEq] at member
      obtain ⟨isAs, rfl⟩ := member
      obtain ⟨other, last, rfl, otherWord, allowedLast⟩ :=
        requires_crossAlias.exists_of_allows allowedOthers
      cases last with
      | nil => exact ⟨_, .renamed nameWord isAs otherWord⟩
      | cons token others =>
        obtain ⟨next, member, -⟩ := allowedLast.exists_option
        cases member
  · rintro ⟨table, names⟩
    cases names with
    | plain nameWord => exact ⟨crossRest, after_cons_of_step nameWord rfl _, rfl⟩
    | renamed nameWord asKeyword asWord =>
      exact ⟨nothing, (after_cons_of_step nameWord rfl _).trans
        ((after_cons_of_step asKeyword rfl _).trans (after_cons_of_step asWord rfl _)), rfl⟩

theorem IsJoinSentence.of_target {kindTokens tokens : List Token} {kind : JoinKind}
    (namesKind : NamesKind kindTokens kind) (allowed : target.Allows tokens) :
    IsJoinSentence (kindTokens ++ tokens) := by
  obtain ⟨targetTokens, conditionTokens, written, phrase, rfl, namesTarget, derives⟩ :=
    allows_target_iff.mp allowed
  rw [← List.append_assoc]
  exact .conditional namesKind namesTarget derives

/-- The categories of tokens that begin the words for the kind of a join, with what has to follow
them. -/
def kindOptions : List (TokenKind × Expectation) :=
  [(.keyword .inner, joinWord), (.keyword .left, joinWord), (.keyword .right, joinWord),
    (.keyword .cross, crossJoinWord), (.keyword .join, target)]

theorem IsJoinSentence.of_named {word : Token} {tokens : List Token} (kind : JoinKind)
    (names : word.kind = .keyword kind.keyword) (allowed : kind.behindWord.Allows tokens) :
    IsJoinSentence (word :: tokens) := by
  obtain ⟨joinToken, others, rfl, joins, allowedOthers⟩ :=
    kind.requires_behindWord.exists_of_allows allowed
  by_cases crosses : kind = .cross
  · subst crosses
    obtain ⟨table, namesTable⟩ := allows_crossTable_iff.mp allowedOthers
    exact .cross names joins namesTable
  · rw [JoinKind.behindWords_of_ne crosses] at allowedOthers
    exact .of_target (.named crosses names joins) allowedOthers

/-- Behind a word that does not belong to the kind of a join, the join goes on like a target. -/
theorem step_join_eq {kind : TokenKind} (noKind : ∀ option ∈ kindOptions, option.1 ≠ kind) :
    join.step kind = target.step kind :=
  step_eq_of_options kindOptions rfl noKind

/-- Where no word for a kind is written, a join begins like its target. -/
theorem allows_join_of_target {tokens : List Token} (allowed : target.Allows tokens) :
    join.Allows tokens := by
  cases tokens with
  | nil => cases allows_nil.mp allowed
  | cons token rest =>
    obtain ⟨next, taken, allowedRest⟩ := allows_cons.mp allowed
    have member := mem_options_of_step taken
    simp only [options, List.mem_cons, List.not_mem_nil, or_false, Prod.mk.injEq] at member
    have agree : join.step token.kind = target.step token.kind := by
      apply step_join_eq
      rcases member with ⟨isKind, -⟩ | ⟨isKind, -⟩ | ⟨isKind, -⟩ <;> simp [kindOptions, isKind]
    exact allows_cons.mpr ⟨next, agree.trans taken, allowedRest⟩

/-- What may come at the beginning of a join are the joins. -/
theorem allows_join_iff {tokens : List Token} : join.Allows tokens ↔ IsJoinSentence tokens := by
  constructor
  · intro allowed
    cases tokens with
    | nil => cases allows_nil.mp allowed
    | cons token rest =>
      obtain ⟨next, member, allowedRest⟩ := allowed.exists_option
      simp only [options, List.mem_cons, List.not_mem_nil, or_false, Prod.mk.injEq] at member
      rcases member with ⟨isInner, rfl⟩ | ⟨isLeft, rfl⟩ | ⟨isRight, rfl⟩ | ⟨isCross, rfl⟩ |
        ⟨isJoin, rfl⟩ | ⟨isOn, rfl⟩ | ⟨opens, rfl⟩ | ⟨isWord, rfl⟩
      · exact .of_named .inner isInner allowedRest
      · exact .of_named .left isLeft allowedRest
      · exact .of_named .right isRight allowedRest
      · exact .of_named .cross isCross allowedRest
      · exact .of_target (.bare isJoin) allowedRest
      · exact .of_target .absent (allows_cons.mpr ⟨group 0, by rw [isOn]; rfl, allowedRest⟩)
      · exact .of_target .absent (allows_cons.mpr ⟨group 1, by rw [opens]; rfl, allowedRest⟩)
      · exact .of_target .absent (allows_cons.mpr ⟨targetRest, by rw [isWord]; rfl, allowedRest⟩)
  · intro sentence
    cases sentence with
    | @cross word joinToken tokens table crosses joins names =>
      have taken : join.after [word, joinToken] = some crossTable :=
        @JoinKind.after_words .cross _ _ crosses joins
      exact (allows_append taken).mpr (allows_crossTable_iff.mpr ⟨table, names⟩)
    | @conditional kindTokens targetTokens conditionTokens kind written phrase namesKind
        namesTarget derives =>
      have allowed : target.Allows (targetTokens ++ conditionTokens) :=
        allows_target_iff.mpr ⟨_, _, written, phrase, rfl, namesTarget, derives⟩
      rw [List.append_assoc]
      cases namesKind with
      | absent => exact allows_join_of_target allowed
      | bare joins => exact (allows_append (after_cons_of_step joins rfl [])).mpr allowed
      | named takesCondition names joins =>
        have taken := JoinKind.after_words names joins
        rw [JoinKind.behindWords_of_ne takesCondition] at taken
        exact (allows_append taken).mpr allowed

end SqlTree
