import SqlTree.Proofs.Parse.Agreement

/-!
# One condition after WHERE and after ON

A text is read alike as the condition of a WHERE clause and as the condition of a join: either both
are accepted, with corresponding trees, or both are refused at the same place of the text.
-/

namespace SqlTree

open Parse

/-- The condition of a join that says the same as the expression: identifiers become columns, and
the words that join two conditions stay.  Only equalities of two identifiers, put together by AND
and OR, can be said in a join. -/
def Expression.joinCondition? : Expression → Option JoinCondition
  | .binary (.identifier left) (.comparison .equal) (.identifier right) =>
    some (.equality { name := left } { name := right })
  | .binary left (.connective word) right =>
    match left.joinCondition?, right.joinCondition? with
    | some leftCondition, some rightCondition =>
      some (.connected leftCondition word rightCondition)
    | _, _ => none
  | _ => none

/-- The two say the same. -/
def Expression.Says (tree : Expression) (condition : JoinCondition) : Prop :=
  tree.joinCondition? = some condition

/-- The join is an inner one on the table `x`, and its condition says the same as the tree. -/
def Expression.SaysJoin (tree : Expression) (result : Join) : Prop :=
  ∃ condition, tree.Says condition ∧
    result = { kind := .inner, table := { name := "x" }, condition := some condition }

theorem stylesCorrespond_filter_join :
    StylesCorrespond Expression.Says filterStyle joinStyle where
  comparison left right := rfl
  connect connective firstLeft firstRight secondLeft secondRight saysLeft saysRight := by
    unfold Expression.Says at saysLeft saysRight ⊢
    simp only [filterStyle, joinStyle, Expression.connect, JoinCondition.connect,
      Expression.joinCondition?, saysLeft, saysRight]

/-! ## Texts behind other text -/

namespace Lexer

theorem cuts_word_blank (word : String) (nonempty : word.toList ≠ [])
    (inWord : word.toList.all isWordCharacter = true) (rest : List Char) (offset : Nat)
    (lineFeeds : Bool) :
    Cuts ⟨word.toList ++ ' ' :: rest, offset, lineFeeds⟩
      [⟨wordKind word, word, ⟨offset, offset + byteLength word.toList⟩⟩]
      ⟨rest, offset + byteLength word.toList + 1, lineFeeds⟩ := by
  have cutsWord :=
    cuts_word nonempty (List.all_eq_true.mp inWord) (endsWord_blank rest) offset lineFeeds
  rw [String.ofList_toList] at cutsWord
  exact cutsWord.trans (cuts_blank rest _ lineFeeds)

theorem ofText_shift (text : String) (distance : Nat) :
    stream ⟨text.toList, distance, false⟩ = (TokenStream.ofText text).shift distance := by
  rw [TokenStream.ofText, ← stream_shift]
  simp [ofText, shift]

end Lexer

theorem TokenStream.ofText_where (text : String) :
    ofText ("WHERE " ++ text) =
      ((ofText text).shift 6).prepend [⟨.keyword .«where», "WHERE", ⟨0, 5⟩⟩] := by
  have characters : ("WHERE " ++ text).toList = "WHERE".toList ++ ' ' :: text.toList := by
    simp
  have cuts := Lexer.cuts_word_blank "WHERE" (by decide) (by decide) text.toList 0 false
  rw [← Lexer.ofText_shift, ofText, Lexer.ofText, characters]
  exact cuts

theorem TokenStream.ofText_joinOn (text : String) :
    ofText ("JOIN x ON " ++ text) =
      ((ofText text).shift 10).prepend
        [⟨.keyword .join, "JOIN", ⟨0, 4⟩⟩, ⟨.literal, "x", ⟨5, 6⟩⟩,
          ⟨.keyword .on, "ON", ⟨7, 9⟩⟩] := by
  have characters : ("JOIN x ON " ++ text).toList =
      "JOIN".toList ++ ' ' :: ("x".toList ++ ' ' :: ("ON".toList ++ ' ' :: text.toList)) := by
    simp
  have cutsOn := Lexer.cuts_word_blank "ON" (by decide) (by decide) text.toList 7 false
  have cutsTable := Lexer.cuts_word_blank "x" (by decide) (by decide)
    ("ON".toList ++ ' ' :: text.toList) 5 false
  have cutsJoin := Lexer.cuts_word_blank "JOIN" (by decide) (by decide)
    ("x".toList ++ ' ' :: ("ON".toList ++ ' ' :: text.toList)) 0 false
  rw [← Lexer.ofText_shift, ofText, Lexer.ofText, characters]
  exact cutsJoin.trans (cutsTable.trans cutsOn)

namespace Parse

/-- The state before a text that stands `distance` bytes into a longer one. -/
def stateAt (distance : Nat) (text : String) : State :=
  State.ofStream ((TokenStream.ofText text).shift distance)

theorem shift_stateAt (first second : Nat) (text : String) :
    (stateAt first text).shift second = stateAt (first + second) text := by
  simp [stateAt, State.shift, State.ofStream, TokenStream.shift_shift]

theorem readFilter_where (text : String) :
    readFilter .«where» ("WHERE " ++ text) = (do
      let (tree, rest) ← condition filterStyle (stateAt 6 text)
      rest.finish tree) := by
  have skipped : State.skip (State.ofStream (TokenStream.ofText ("WHERE " ++ text)))
      (.keyword .«where») = stateAt 6 text := by
    rw [TokenStream.ofText_where]
    rfl
  unfold readFilter
  simp only [skipped]
  cases condition filterStyle (stateAt 6 text) <;> rfl

theorem readJoin_joinOn (text : String) :
    readJoin ("JOIN x ON " ++ text) = (do
      let (tree, afterTree) ← condition joinStyle (stateAt 10 text)
      let rest ← afterTree.skipClosing
      rest.finish { kind := .inner, table := { name := "x" }, condition := some tree }) := by
  obtain ⟨afterKind, afterTable, readKind, readName, readKeyword⟩ :
      ∃ afterKind afterTable,
        readJoinKind (State.ofStream (TokenStream.ofText ("JOIN x ON " ++ text))) =
          .ok (.inner, afterKind) ∧
        readJoinTable afterKind = .ok ({ name := "x" }, afterTable) ∧
        readOn { name := "x" } afterTable = .ok (stateAt 10 text) := by
    rw [TokenStream.ofText_joinOn]
    exact ⟨_, _, rfl, rfl, rfl⟩
  unfold readJoin readConditionJoin
  simp only [readKind, readName, readKeyword]
  cases condition joinStyle (stateAt 10 text) with
  | error failure => rfl
  | ok read =>
    obtain ⟨tree, afterTree⟩ := read
    simp only [bind, Except.bind]
    cases afterTree.skipClosing <;> rfl

/-- Outside parentheses, what is left behind a condition is refused at the same token whether or not
a closing parenthesis is looked for. -/
theorem agree_end {First Second : Type} {Related : First → Second → Prop} {first : First}
    {second : Second} (related : Related first second) (distance : Nat) {state : State}
    (depth : state.depth = 0) :
    Agree distance Related (state.finish first) (do
      let rest ← (state.shift distance).skipClosing
      rest.finish second) := by
  have finished : Agree distance Related (state.finish first)
      ((state.shift distance).finish second) := by
    unfold State.finish
    rw [State.atEnd_shift]
    split
    · exact .success related
    · exact State.agree_failure state _ _
  unfold State.skipClosing
  rw [State.isAt_shift]
  split
  · next atClosing =>
    have unfinished : state.atEnd = false := by
      simp only [State.isAt, beq_iff_eq] at atClosing
      simp [TokenStream.atEnd, Token.isEnd, atClosing]
    have closed : (state.shift distance).closeGroup =
        .error ((state.shift distance).failure .unbalancedParenthesis) := by
      unfold State.closeGroup
      split
      · rfl
      · next outer deeper =>
        change state.depth = outer + 1 at deeper
        omega
    rw [closed, State.finish, unfinished]
    exact State.agree_failure state _ _
  · exact finished

/-- The two parsers go through the same steps. -/
theorem agree_filter_join (text : String) :
    Agree 4 Expression.SaysJoin (readFilter .«where» ("WHERE " ++ text))
      (readJoin ("JOIN x ON " ++ text)) := by
  rw [readFilter_where, readJoin_joinOn, ← shift_stateAt 6 4]
  apply Agree.bind (agree_condition stylesCorrespond_filter_join 4 (stateAt 6 text))
  rintro ⟨tree, rest⟩ ⟨condition, _⟩ read ⟨treeSays, rfl⟩
  obtain ⟨tokens, phrase, reads, -⟩ := Nonterminal.reads_condition (Nat.zero_le _) read
  have depth : rest.depth = 0 := reads.depth
  have saysJoin : tree.SaysJoin
      { kind := .inner, table := { name := "x" }, condition := some condition } :=
    ⟨condition, treeSays, rfl⟩
  exact agree_end saysJoin 4 depth

/-- A text is accepted behind WHERE if and only if it is accepted behind JOIN x ON.  The two trees
then say the same; otherwise the join is refused four bytes further on, which is by how much the
text stands further on. -/
theorem whereCondition_agrees_with_join (text : String) :
    (∃ tree condition, whereCondition ("WHERE " ++ text) = .ok tree ∧
      tree.joinCondition? = some condition ∧
      join ("JOIN x ON " ++ text) =
        .ok { kind := .inner, table := { name := "x", asName := none },
              condition := some condition }) ∨
    (∃ refusedFilter refusedJoin span,
      whereCondition ("WHERE " ++ text) = .error refusedFilter ∧
      join ("JOIN x ON " ++ text) = .error refusedJoin ∧
      refusedFilter.span = some span ∧ refusedJoin.span = some (span.shift 4)) := by
  have agreement := agree_filter_join text
  unfold whereCondition Parse.filter Parse.join
  generalize readFilter .«where» ("WHERE " ++ text) = filterRead at agreement ⊢
  generalize readJoin ("JOIN x ON " ++ text) = joinRead at agreement ⊢
  cases agreement with
  | @success tree result related =>
    obtain ⟨condition, treeSays, rfl⟩ := related
    exact .inl ⟨tree, condition, rfl, treeSays, rfl⟩
  | @failure filterFailure joinFailure moved =>
    refine .inr ⟨_, _, filterFailure.span, rfl, rfl, rfl, ?_⟩
    exact congrArg some moved

end Parse

end SqlTree
