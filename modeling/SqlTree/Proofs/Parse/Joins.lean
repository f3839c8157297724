import SqlTree.Proofs.Parse.Soundness

/-!
# Joins are read by their grammar

A text is accepted if and only if its tokens can be read as a join, and the join is the one they are
read as.  One token of lookahead tells a table from the left side of a comparison; a closing
parenthesis after the condition has no partner and is never accepted.
-/

namespace SqlTree

open Parse

/-! ## What is named is read -/

/-- The tokens begin like a target or a condition, not like the kind of a join. -/
def BeginsAfterKind (tokens : List Token) : Prop :=
  ∃ first rest, tokens = first :: rest ∧
    (first.kind = .literal ∨ first.kind = .openParenthesis ∨ first.kind = .keyword .on)

namespace NamesKind

theorem readKindWords_cons {word join : Token} (joins : join.kind = .keyword .join)
    (kind : JoinKind) (rest : List Token) (stop depth tests : Nat) :
    readKindWords kind ⟨⟨word :: join :: rest, stop⟩, depth, tests⟩ =
      .ok (kind, ⟨⟨rest, stop⟩, depth, tests⟩) := by
  rw [readKindWords, State.advance_cons, State.expect_cons joins]

theorem read {kindTokens : List Token} {kind : JoinKind} (names : NamesKind kindTokens kind)
    {others : List Token} (begins : BeginsAfterKind others) (stop depth tests : Nat) :
    readJoinKind ⟨⟨kindTokens ++ others, stop⟩, depth, tests⟩ =
      .ok (kind, ⟨⟨others, stop⟩, depth, tests⟩) := by
  cases names with
  | absent =>
    obtain ⟨first, rest, rfl, kind⟩ := begins
    rcases kind with kind | kind | kind <;> simp [readJoinKind, Token.keyword?, kind]
  | bare joins => simp [readJoinKind, Token.keyword?, joins]
  | named takesCondition names joins =>
    cases kind with
    | cross => exact absurd rfl takesCondition
    | inner => simp [readJoinKind, Token.keyword?, names, readKindWords_cons joins]
    | left => simp [readJoinKind, Token.keyword?, names, readKindWords_cons joins]
    | right => simp [readJoinKind, Token.keyword?, names, readKindWords_cons joins]

end NamesKind

theorem NamesTable.read {tokens : List Token} {table : Table} (names : NamesTable tokens table)
    {others : List Token} {stop depth tests : Nat}
    (noName : State.isAt ⟨⟨others, stop⟩, depth, tests⟩ (.keyword .as) = false) :
    readTable ⟨⟨tokens ++ others, stop⟩, depth, tests⟩ =
      .ok (table, ⟨⟨others, stop⟩, depth, tests⟩) := by
  cases names with
  | plain nameWord =>
    simp [readTable, State.literal_cons nameWord, State.asName, noName]
  | renamed nameWord asKeyword asWord =>
    simp [readTable, State.literal_cons nameWord, State.asName, asKeyword,
      State.literal_cons asWord]

/-- A table begins with its name, and AS comes next if anything does. -/
theorem NamesTable.start {tokens : List Token} {table : Table} (names : NamesTable tokens table) :
    ∃ name others, tokens = name :: others ∧ name.kind = .literal ∧ table.name = name.text ∧
      (others = [] ∨ ∃ as rest, others = as :: rest ∧ as.kind = .keyword .as) := by
  cases names with
  | plain nameWord => exact ⟨_, _, rfl, nameWord, rfl, .inl rfl⟩
  | renamed nameWord asKeyword asWord =>
    exact ⟨_, _, rfl, nameWord, rfl, .inr ⟨_, _, rfl, asKeyword⟩⟩

theorem NamesTable.isEmpty_eq_false {tokens : List Token} {table : Table}
    (names : NamesTable tokens table) (proper : ProperTokens tokens) : table.isEmpty = false := by
  obtain ⟨name, others, rfl, nameWord, tableName, -⟩ := names.start
  rw [Table.isEmpty, tableName]
  exact (proper name (by simp)).2 nameWord

namespace NamesTarget

theorem isAtTable_condition {conditionTokens : List Token} {phrase : Phrase}
    (derives : Derives .condition conditionTokens phrase) (stop depth tests : Nat) :
    State.isAtTable ⟨⟨conditionTokens, stop⟩, depth, tests⟩ = false ∧
      State.isAt ⟨⟨conditionTokens, stop⟩, depth, tests⟩ (.keyword .on) = false := by
  rcases derives.start with
    ⟨left, equals, rest, rfl, leftWord, equalsSign⟩ | ⟨opening, rest, rfl, opens⟩
  · simp [State.isAtTable, leftWord, equalsSign]
  · simp [State.isAtTable, opens]

theorem isAtTable_table {tokens : List Token} {table : Table} {on : Token}
    (names : NamesTable tokens table) (onKeyword : on.kind = .keyword .on) (rest : List Token)
    (stop depth tests : Nat) :
    State.isAtTable ⟨⟨tokens ++ on :: rest, stop⟩, depth, tests⟩ = true := by
  obtain ⟨name, others, rfl, nameWord, -, rfl | ⟨as, last, rfl, asKeyword⟩⟩ := names.start
  · simp [State.isAtTable, nameWord, onKeyword]
  · simp [State.isAtTable, nameWord, asKeyword]

/-- What is read before the condition is the table that was written, or the empty one. -/
theorem read {targetTokens conditionTokens : List Token} {written : Option Table}
    {phrase : Phrase} (names : NamesTarget targetTokens written)
    (derives : Derives .condition conditionTokens phrase)
    (proper : ProperTokens (targetTokens ++ conditionTokens)) (stop depth tests : Nat) :
    ∃ afterTable,
      readJoinTable ⟨⟨targetTokens ++ conditionTokens, stop⟩, depth, tests⟩ =
        .ok (written.getD {}, afterTable) ∧
      readOn (written.getD {}) afterTable = .ok ⟨⟨conditionTokens, stop⟩, depth, tests⟩ := by
  cases names with
  | absent =>
    obtain ⟨noTable, noOn⟩ := isAtTable_condition derives stop depth tests
    refine ⟨⟨⟨conditionTokens, stop⟩, depth, tests⟩, ?_, ?_⟩
    · simp [readJoinTable, noTable]
    · simp [readOn, noOn, Table.isEmpty, Text.isBlank]
  | @bare on onKeyword =>
    refine ⟨⟨⟨on :: conditionTokens, stop⟩, depth, tests⟩, ?_, ?_⟩
    · simp [readJoinTable, State.isAtTable, onKeyword]
    · simp [readOn, onKeyword, State.expect_cons onKeyword]
  | @table tokens table on names onKeyword =>
    rw [List.append_assoc] at proper ⊢
    have hasName : table.isEmpty = false :=
      names.isEmpty_eq_false proper.of_append_left
    refine ⟨⟨⟨on :: conditionTokens, stop⟩, depth, tests⟩, ?_, ?_⟩
    · have noName : State.isAt ⟨⟨on :: conditionTokens, stop⟩, depth, tests⟩ (.keyword .as) =
          false := by
        simp [onKeyword]
      rw [readJoinTable, List.singleton_append, if_pos (isAtTable_table names onKeyword _ _ _ _)]
      exact names.read noName
    · simp [readOn, hasName, State.expect_cons onKeyword]

end NamesTarget

theorem BeginsAfterKind.of_target {targetTokens conditionTokens : List Token}
    {written : Option Table} {phrase : Phrase} (names : NamesTarget targetTokens written)
    (derives : Derives .condition conditionTokens phrase) :
    BeginsAfterKind (targetTokens ++ conditionTokens) := by
  cases names with
  | absent =>
    rcases derives.start with ⟨left, equals, rest, rfl, leftWord, -⟩ | ⟨opening, rest, rfl, opens⟩
    · exact ⟨left, _, rfl, .inl leftWord⟩
    · exact ⟨opening, _, rfl, .inr (.inl opens)⟩
  | bare onKeyword => exact ⟨_, _, rfl, .inr (.inr onKeyword)⟩
  | table names onKeyword =>
    obtain ⟨name, others, rfl, nameWord, -⟩ := names.start
    exact ⟨name, _, rfl, .inl nameWord⟩

/-! ## What is read is named -/

open State

theorem kind_of_keyword? {token : Token} {keyword : Keyword}
    (found : token.keyword? = some keyword) : token.kind = .keyword keyword := by
  unfold Token.keyword? at found
  split at found
  · next other kind =>
    cases found
    exact kind
  · cases found

theorem passes_of_readKindWords {state rest : State} {kind : JoinKind} (named : JoinKind)
    (names : state.current.keyword? = some named.keyword)
    (read : readKindWords named state = .ok (kind, rest)) :
    kind = named ∧ ∃ word join, state.Passes [word, join] rest ∧
      word.kind = .keyword named.keyword ∧ join.kind = .keyword .join := by
  have wordKind := kind_of_keyword? names
  obtain ⟨passesWord, -⟩ := passes_of_isAt (by simpa [isAt] using wordKind) (by simp)
  unfold readKindWords at read
  split at read
  · next last readJoin =>
    cases read
    obtain ⟨join, passesJoin, joins⟩ := passes_of_expect (by simp) readJoin
    exact ⟨rfl, state.current, join, passesWord.trans passesJoin, wordKind, joins⟩
  · cases read

/-- The words that were read name the kind; a cross join has both of its words. -/
theorem passes_of_readJoinKind {state rest : State} {kind : JoinKind}
    (read : readJoinKind state = .ok (kind, rest)) :
    (kind = .cross ∧ ∃ word join, state.Passes [word, join] rest ∧
      word.kind = .keyword .cross ∧ join.kind = .keyword .join) ∨
    (kind ≠ .cross ∧ ∃ tokens, state.Passes tokens rest ∧ NamesKind tokens kind) := by
  have conditional (named : JoinKind) (takesCondition : named ≠ .cross)
      (names : state.current.keyword? = some named.keyword)
      (readWords : readKindWords named state = .ok (kind, rest)) :
      kind ≠ .cross ∧ ∃ tokens, state.Passes tokens rest ∧ NamesKind tokens kind := by
    obtain ⟨rfl, word, join, passes, names, joins⟩ :=
      passes_of_readKindWords named names readWords
    exact ⟨takesCondition, _, passes, .named takesCondition names joins⟩
  unfold readJoinKind at read
  split at read
  · next names => exact .inr (conditional .inner (by simp) names read)
  · next names => exact .inr (conditional .left (by simp) names read)
  · next names => exact .inr (conditional .right (by simp) names read)
  · next names => exact .inl (passes_of_readKindWords .cross names read)
  · next names =>
    cases read
    have joins := kind_of_keyword? names
    obtain ⟨passes, -⟩ := passes_of_isAt (by simpa [isAt] using joins) (by simp)
    exact .inr ⟨by simp, _, passes, .bare joins⟩
  · cases read
    exact .inr ⟨by simp, [], .refl state, .absent⟩

theorem passes_of_asName {state rest : State} {asName : Option String}
    (read : state.asName = .ok (asName, rest)) :
    (asName = none ∧ rest = state) ∨
    ∃ as other, state.Passes [as, other] rest ∧ as.kind = .keyword .as ∧
      other.kind = .literal ∧ asName = some other.text := by
  unfold State.asName at read
  split at read
  · next atAs =>
    obtain ⟨passesAs, asKeyword⟩ := passes_of_isAt atAs (by simp)
    split at read
    · next name last readName =>
      cases read
      obtain ⟨other, passesOther, otherWord, rfl⟩ := passes_of_literal readName
      exact .inr ⟨_, other, passesAs.trans passesOther, asKeyword, otherWord, rfl⟩
    · cases read
  · cases read
    exact .inl ⟨rfl, rfl⟩

theorem passes_of_readTable {state rest : State} {table : Table}
    (read : readTable state = .ok (table, rest)) :
    ∃ tokens, state.Passes tokens rest ∧ NamesTable tokens table := by
  unfold readTable at read
  split at read
  · cases read
  next name afterName readName =>
  obtain ⟨token, passesName, nameWord, rfl⟩ := passes_of_literal readName
  split at read
  · cases read
  next asName last readAsName =>
  cases read
  rcases passes_of_asName readAsName with
    ⟨rfl, rfl⟩ | ⟨as, other, passesOther, asKeyword, otherWord, rfl⟩
  · exact ⟨_, passesName, .plain nameWord⟩
  · exact ⟨_, passesName.trans passesOther, .renamed nameWord asKeyword otherWord⟩

theorem isEmpty_of_readTable {state rest : State} {table : Table}
    (proper : ProperTokens state.ahead) (read : readTable state = .ok (table, rest)) :
    table.isEmpty = false := by
  obtain ⟨tokens, passes, names⟩ := passes_of_readTable read
  rw [passes.ahead] at proper
  exact names.isEmpty_eq_false proper.of_append_left

/-- A table that was read has a name, so that ON has to follow it. -/
theorem readOn_eq_expect {state afterTable : State} {table : Table}
    (proper : ProperTokens state.ahead) (read : readTable state = .ok (table, afterTable)) :
    readOn table afterTable = afterTable.expect (.keyword .on) := by
  rw [readOn, isEmpty_of_readTable proper read, if_pos (by simp)]

/-- What was read before the condition is a target. -/
theorem passes_of_readOn {state afterTable rest : State} {table : Table}
    (proper : ProperTokens state.ahead) (read : readJoinTable state = .ok (table, afterTable))
    (readKeyword : readOn table afterTable = .ok rest) :
    ∃ tokens written, state.Passes tokens rest ∧ NamesTarget tokens written ∧
      table = written.getD {} := by
  unfold readJoinTable at read
  split at read
  · obtain ⟨tokens, passesTable, names⟩ := passes_of_readTable read
    rw [readOn_eq_expect proper read] at readKeyword
    obtain ⟨on, passesOn, onKeyword⟩ := passes_of_expect (by simp) readKeyword
    exact ⟨_, some table, passesTable.trans passesOn, .table names onKeyword, rfl⟩
  · cases read
    unfold readOn at readKeyword
    split at readKeyword
    · obtain ⟨on, passesOn, onKeyword⟩ := passes_of_expect (by simp) readKeyword
      exact ⟨_, none, passesOn, .bare onKeyword, rfl⟩
    · cases readKeyword
      exact ⟨[], none, .refl _, .absent, rfl⟩

/-! ## Whole texts -/

theorem readCrossJoin_eq_ok_iff {state : State} (proper : ProperTokens state.ahead)
    (join : Join) :
    readCrossJoin state = .ok join ↔
      ∃ table, NamesTable state.ahead table ∧ join = Join.cross table := by
  unfold readCrossJoin
  constructor
  · intro read
    split at read
    · cases read
    next table rest readName =>
    obtain ⟨tokens, passes, names⟩ := passes_of_readTable readName
    split at read
    · cases read
    rw [passes.ahead] at proper
    obtain ⟨allRead, rfl⟩ := (finish_eq_ok_iff proper.of_append _ _).mp read
    rw [passes.ahead, allRead, List.append_nil]
    exact ⟨table, names, rfl⟩
  · rintro ⟨table, names, rfl⟩
    obtain ⟨⟨ahead, stop⟩, depth, tests⟩ := state
    have noName : State.isAt ⟨⟨[], stop⟩, depth, tests⟩ (.keyword .as) = false := rfl
    have read := names.read noName
    rw [List.append_nil] at read
    rw [read]
    rfl

/-- Outside parentheses there is nothing to close. -/
theorem eq_of_skipClosing {state rest : State} (depth : state.depth = 0)
    (skipped : state.skipClosing = .ok rest) : rest = state := by
  unfold skipClosing closeGroup at skipped
  rw [depth] at skipped
  split at skipped <;> cases skipped
  rfl

theorem exists_of_readConditionJoin {state : State} (proper : ProperTokens state.ahead)
    (depth : state.depth = 0) (tests : state.tests = 0) {kind : JoinKind} {join : Join}
    (read : readConditionJoin kind state = .ok join) :
    ∃ targetTokens conditionTokens written phrase,
      state.ahead = targetTokens ++ conditionTokens ∧ NamesTarget targetTokens written ∧
      Derives .condition conditionTokens phrase ∧ phrase.tests ≤ maxTests ∧
      phrase.depth ≤ maxDepth ∧
      join = { kind, table := written.getD {}, condition := some phrase.joinCondition } := by
  unfold readConditionJoin at read
  split at read
  · cases read
  next table afterTable readName =>
  split at read
  · cases read
  next afterOn readKeyword =>
  split at read
  · cases read
  next tree afterTree readTree =>
  split at read
  · cases read
  next rest skipped =>
  obtain ⟨targetTokens, written, passes, names, rfl⟩ :=
    passes_of_readOn proper readName readKeyword
  have onDepth : afterOn.depth = 0 := by rw [passes.depth, depth]
  have onTests : afterOn.tests = 0 := by rw [passes.tests, tests]
  obtain ⟨conditionTokens, spoken, reads, -⟩ :=
    Nonterminal.reads_condition (by omega) readTree
  have treeDepth : afterTree.depth = 0 := by rw [reads.depth, onDepth]
  rw [eq_of_skipClosing treeDepth skipped] at read
  rw [passes.ahead, reads.ahead] at proper
  obtain ⟨allRead, rfl⟩ := (finish_eq_ok_iff proper.of_append.of_append _ _).mp read
  obtain ⟨phrase, derives, room, shallow, rfl⟩ :=
    (condition_reads_all_iff joinStyle afterOn onDepth onTests tree).mp
      ⟨afterTree, readTree, allRead⟩
  rw [Phrase.build_joinStyle]
  exact ⟨targetTokens, afterOn.ahead, written, phrase, passes.ahead, names, derives, room,
    shallow, rfl⟩

/-- Behind a target, what is left to read is the condition. -/
theorem NamesTarget.readConditionJoin_eq {targetTokens conditionTokens : List Token}
    {written : Option Table} {phrase : Phrase} (names : NamesTarget targetTokens written)
    (derives : Derives .condition conditionTokens phrase)
    (proper : ProperTokens (targetTokens ++ conditionTokens)) (stop : Nat) (kind : JoinKind) :
    Parse.readConditionJoin kind ⟨⟨targetTokens ++ conditionTokens, stop⟩, 0, 0⟩ = (do
      let (tree, afterTree) ← condition joinStyle ⟨⟨conditionTokens, stop⟩, 0, 0⟩
      let rest ← afterTree.skipClosing
      rest.finish { kind, table := written.getD {}, condition := some tree }) := by
  obtain ⟨afterTable, readName, readKeyword⟩ := names.read derives proper stop 0 0
  unfold Parse.readConditionJoin
  simp only [readName, readKeyword, bind, Except.bind]
  cases condition joinStyle ⟨⟨conditionTokens, stop⟩, 0, 0⟩ with
  | error failure => rfl
  | ok read =>
    obtain ⟨tree, afterTree⟩ := read
    simp only
    cases afterTree.skipClosing <;> rfl

theorem NamesTarget.readConditionJoin {targetTokens conditionTokens : List Token}
    {written : Option Table} {phrase : Phrase} (names : NamesTarget targetTokens written)
    (derives : Derives .condition conditionTokens phrase)
    (proper : ProperTokens (targetTokens ++ conditionTokens))
    (room : phrase.tests ≤ maxTests) (shallow : phrase.depth ≤ maxDepth) (stop : Nat)
    (kind : JoinKind) :
    Parse.readConditionJoin kind ⟨⟨targetTokens ++ conditionTokens, stop⟩, 0, 0⟩ =
      .ok { kind, table := written.getD {}, condition := some phrase.joinCondition } := by
  obtain ⟨rest, readTree, allRead⟩ :=
    (condition_reads_all_iff joinStyle ⟨⟨conditionTokens, stop⟩, 0, 0⟩ rfl rfl _).mpr
      ⟨phrase, derives, room, shallow, Phrase.build_joinStyle phrase⟩
  have skipped : rest.skipClosing = .ok rest := by
    have notClosing : rest.isAt .closeParenthesis = false := by
      unfold isAt TokenStream.current
      rw [allRead]
      rfl
    rw [skipClosing, if_neg (by simp [notClosing])]
  have finished : ProperTokens rest.ahead := by simp [ProperTokens, allRead]
  rw [names.readConditionJoin_eq derives proper, readTree]
  simp only [bind, Except.bind, skipped]
  exact (finish_eq_ok_iff finished _ _).mpr ⟨allRead, rfl⟩

/-- A condition beyond the bounds is refused for that reason. -/
theorem NamesTarget.readConditionJoin_exceeding {targetTokens conditionTokens : List Token}
    {written : Option Table} {phrase : Phrase} (names : NamesTarget targetTokens written)
    (derives : Derives .condition conditionTokens phrase)
    (proper : ProperTokens (targetTokens ++ conditionTokens))
    (exceeds : maxTests < phrase.tests ∨ maxDepth < phrase.depth) (stop : Nat) (kind : JoinKind) :
    ∃ failure,
      Parse.readConditionJoin kind ⟨⟨targetTokens ++ conditionTokens, stop⟩, 0, 0⟩ =
        .error failure ∧ failure.cause.IsBound := by
  obtain ⟨failure, failed, isBound⟩ :=
    condition_exceeding joinStyle ⟨⟨conditionTokens, stop⟩, 0, 0⟩ rfl rfl derives exceeds
  refine ⟨failure, ?_, isBound⟩
  rw [names.readConditionJoin_eq derives proper, failed]
  rfl

/-- Behind the words for a kind that takes a condition, what is left to read is a target and a
condition. -/
theorem NamesKind.readJoin_eq {text : String} {kindTokens others : List Token} {kind : JoinKind}
    (names : NamesKind kindTokens kind) (begins : BeginsAfterKind others)
    (tokens : (TokenStream.ofText text).ahead = kindTokens ++ others) :
    Parse.readJoin text =
      Parse.readConditionJoin kind ⟨⟨others, (TokenStream.ofText text).stop⟩, 0, 0⟩ := by
  unfold Parse.readJoin
  generalize TokenStream.ofText text = stream at tokens ⊢
  obtain ⟨ahead, stop⟩ := stream
  change ahead = kindTokens ++ others at tokens
  subst tokens
  have readWords :
      readJoinKind (State.ofStream ⟨kindTokens ++ others, stop⟩) =
        .ok (kind, ⟨⟨others, stop⟩, 0, 0⟩) :=
    names.read begins stop 0 0
  rw [readWords]
  cases names with
  | absent => rfl
  | bare joins => rfl
  | named takesCondition names joins =>
    cases kind with
    | cross => exact absurd rfl takesCondition
    | inner => rfl
    | left => rfl
    | right => rfl

theorem exists_of_readJoin {text : String} {result : Join}
    (read : readJoin text = .ok result) :
    ∃ written, NamesJoin (TokenStream.ofText text).ahead written result := by
  have proper := TokenStream.proper_ofText text
  unfold readJoin at read
  generalize TokenStream.ofText text = stream at read proper ⊢
  obtain ⟨ahead, stop⟩ := stream
  change ProperTokens ahead at proper
  split at read
  · cases read
  next kind rest readWords =>
  rcases passes_of_readJoinKind readWords with
    ⟨rfl, word, join, passes, crosses, joins⟩ | ⟨takesCondition, tokens, passes, namesKind⟩
  · have aheadEq : ahead = [word, join] ++ rest.ahead := passes.ahead
    rw [aheadEq] at proper
    obtain ⟨table, names, rfl⟩ :=
      (readCrossJoin_eq_ok_iff proper.of_append result).mp read
    exact ⟨some table, aheadEq ▸ .cross crosses joins names⟩
  · have aheadEq : ahead = tokens ++ rest.ahead := passes.ahead
    rw [aheadEq] at proper
    have conditional : readConditionJoin kind rest = .ok result := by
      cases kind with
      | cross => exact absurd rfl takesCondition
      | inner => exact read
      | left => exact read
      | right => exact read
    obtain ⟨targetTokens, conditionTokens, written, phrase, restEq, namesTarget, derives, room,
        shallow, rfl⟩ :=
      exists_of_readConditionJoin proper.of_append passes.depth passes.tests conditional
    refine ⟨written, ?_⟩
    change NamesJoin ahead _ _
    rw [aheadEq, restEq, ← List.append_assoc]
    exact .conditional namesKind namesTarget derives room shallow

theorem NamesJoin.readJoin {text : String} {written : Option Table} {result : Join}
    (names : NamesJoin (TokenStream.ofText text).ahead written result) :
    Parse.readJoin text = .ok result := by
  have proper := TokenStream.proper_ofText text
  generalize tokensEq : (TokenStream.ofText text).ahead = ahead at names proper
  cases names with
  | @cross word join tokens table crosses joins names =>
    have properTokens : ProperTokens tokens :=
      fun token member => proper token (List.mem_cons_of_mem _ (List.mem_cons_of_mem _ member))
    unfold Parse.readJoin
    generalize TokenStream.ofText text = stream at tokensEq ⊢
    obtain ⟨ahead, stop⟩ := stream
    change ahead = word :: join :: tokens at tokensEq
    have readWords :
        readJoinKind (State.ofStream ⟨word :: join :: tokens, stop⟩) =
          .ok (.cross, ⟨⟨tokens, stop⟩, 0, 0⟩) := by
      simp [readJoinKind, ofStream, Token.keyword?, crosses,
        NamesKind.readKindWords_cons joins]
    rw [tokensEq, readWords]
    exact (readCrossJoin_eq_ok_iff properTokens _).mpr ⟨table, names, rfl⟩
  | @conditional kindTokens targetTokens conditionTokens kind written phrase namesKind
      namesTarget derives room shallow =>
    rw [List.append_assoc] at proper tokensEq
    rw [namesKind.readJoin_eq (.of_target namesTarget derives) tokensEq]
    exact namesTarget.readConditionJoin derives proper.of_append room shallow _ kind

/-- The empty table stands for no table and for no other one. -/
theorem NamesJoin.isEmpty_table_iff {tokens : List Token} {written : Option Table}
    {result : Join} (names : NamesJoin tokens written result) (proper : ProperTokens tokens) :
    result.table.isEmpty = true ↔ written = none := by
  cases names with
  | @cross word join tokens table crosses joins names =>
    have hasName : table.isEmpty = false :=
      names.isEmpty_eq_false fun token member =>
        proper token (List.mem_cons_of_mem _ (List.mem_cons_of_mem _ member))
    simp [hasName]
  | conditional namesKind namesTarget derives room shallow =>
    cases namesTarget with
    | absent => simp [Table.isEmpty, Text.isBlank]
    | bare onKeyword => simp [Table.isEmpty, Text.isBlank]
    | @table tokens table on names onKeyword =>
      have hasName : table.isEmpty = false :=
        names.isEmpty_eq_false fun token member => proper token (by simp [member])
      simp [hasName]

/-- A text is accepted as a join if and only if its tokens can be read as one: a cross join with a
table, or a kind, a target and a condition within the bounds, of which kind and target may be left
out.  The table of the join is empty exactly when none was written, and every refusal comes from the
grammar of joins. -/
theorem Parse.join_by_grammar (text : String) :
    (∀ result, Parse.join text = .ok result ↔
      ∃ written, NamesJoin (TokenStream.ofText text).ahead written result) ∧
    (∀ written result, NamesJoin (TokenStream.ofText text).ahead written result →
      (result.table.isEmpty = true ↔ written = none)) ∧
    (∀ error, Parse.join text = .error error → error.grammar = .joinCondition) := by
  refine ⟨?_, ?_, ?_⟩
  · intro result
    rw [Parse.join, report_eq_ok_iff]
    constructor
    · exact exists_of_readJoin
    · rintro ⟨written, names⟩
      exact names.readJoin
  · intro written result names
    exact names.isEmpty_table_iff (TokenStream.proper_ofText text)
  · intro error refused
    exact grammar_of_report refused

end SqlTree
