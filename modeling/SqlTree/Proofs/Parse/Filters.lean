import SqlTree.Proofs.Parse.Soundness

/-!
# WHERE and HAVING conditions are read by their grammar

A text is accepted if and only if its tokens, after an optional keyword, derive from the grammar
within the bounds, and the tree is the one that the phrase of the derivation says.
-/

namespace SqlTree

open Parse

namespace ConditionClause

def keyword : ConditionClause → Keyword
  | filter => .«where»
  | having => .having

def parse : ConditionClause → String → Except ParseError Expression
  | filter => whereCondition
  | having => havingCondition

theorem parse_eq (clause : ConditionClause) (text : String) :
    clause.parse text = Parse.filter clause.keyword text := by
  cases clause <;> rfl

end ConditionClause

def withoutKeyword (keyword : Keyword) : List Token → List Token
  | [] => []
  | token :: rest => if token.kind = .keyword keyword then rest else token :: rest

theorem proper_withoutKeyword (keyword : Keyword) {tokens : List Token}
    (proper : ProperTokens tokens) : ProperTokens (withoutKeyword keyword tokens) := by
  intro token member
  apply proper
  cases tokens with
  | nil => exact member
  | cons first rest =>
    simp only [withoutKeyword] at member
    split at member
    · exact List.mem_cons_of_mem first member
    · exact member

namespace Parse

def filterStart (keyword : Keyword) (text : String) : State :=
  ⟨⟨withoutKeyword keyword (TokenStream.ofText text).ahead, (TokenStream.ofText text).stop⟩, 0, 0⟩

theorem skip_keyword (keyword : Keyword) (text : String) :
    (State.ofStream (TokenStream.ofText text)).skip (.keyword keyword) =
      filterStart keyword text := by
  unfold filterStart
  obtain ⟨ahead, stop⟩ := TokenStream.ofText text
  cases ahead with
  | nil => rfl
  | cons token rest =>
    simp only [State.skip, State.ofStream, State.isAt_cons, withoutKeyword, beq_iff_eq]
    split <;> rfl

theorem readFilter_eq_ok_iff (keyword : Keyword) (text : String) (expression : Expression) :
    readFilter keyword text = .ok expression ↔
      ∃ phrase,
        Derives .condition (withoutKeyword keyword (TokenStream.ofText text).ahead) phrase ∧
        phrase.tests ≤ maxTests ∧ phrase.depth ≤ maxDepth ∧ phrase.expression = expression := by
  simp only [← Phrase.build_filterStyle]
  refine Iff.trans ?_
    (condition_reads_all_iff filterStyle (filterStart keyword text) rfl rfl expression)
  unfold readFilter
  simp only [skip_keyword]
  constructor
  · intro read
    split at read
    · cases read
    · next tree rest readTree =>
      obtain ⟨tokens, phrase, reads, -⟩ := Nonterminal.reads_condition (Nat.zero_le _) readTree
      have startProper : ProperTokens (filterStart keyword text).ahead :=
        proper_withoutKeyword keyword (TokenStream.proper_ofText text)
      rw [reads.ahead] at startProper
      have proper : ProperTokens rest.ahead := startProper.of_append
      obtain ⟨allRead, rfl⟩ := (State.finish_eq_ok_iff proper tree expression).mp read
      exact ⟨rest, readTree, allRead⟩
  · rintro ⟨rest, readTree, allRead⟩
    rw [readTree]
    have proper : ProperTokens rest.ahead := by simp [ProperTokens, allRead]
    exact (State.finish_eq_ok_iff proper expression expression).mpr ⟨allRead, rfl⟩

theorem readFilter_exceeding (keyword : Keyword) (text : String) {phrase : Phrase}
    (derives :
      Derives .condition (withoutKeyword keyword (TokenStream.ofText text).ahead) phrase)
    (exceeds : maxTests < phrase.tests ∨ maxDepth < phrase.depth) :
    ∃ failure, readFilter keyword text = .error failure ∧ failure.cause.IsBound := by
  obtain ⟨failure, failed, isBound⟩ :=
    condition_exceeding filterStyle (filterStart keyword text) rfl rfl derives exceeds
  refine ⟨failure, ?_, isBound⟩
  unfold readFilter
  simp only [skip_keyword, failed]

end Parse

namespace ConditionClause

/-- The tokens of a text that have to derive as a condition. -/
def body (clause : ConditionClause) (text : String) : List Token :=
  withoutKeyword clause.keyword (TokenStream.ofText text).ahead

/-- A text is accepted as a condition if and only if all its tokens after an optional keyword derive
from the grammar, with at most 512 comparisons and at most 128 parentheses open at one time; the
result is what the derivation says, chains being put together from the left.  What derives beyond
the bounds is refused for that reason, and every refusal comes from the grammar of conditions. -/
theorem parse_by_grammar (clause : ConditionClause) (text : String) :
    (∀ expression, clause.parse text = .ok expression ↔
      ∃ phrase, Derives .condition (clause.body text) phrase ∧ phrase.tests ≤ 512 ∧
        phrase.depth ≤ 128 ∧ phrase.expression = expression) ∧
    (∀ phrase, Derives .condition (clause.body text) phrase →
      512 < phrase.tests ∨ 128 < phrase.depth →
      ∃ error, clause.parse text = .error error ∧
        (error.message = "nesting too deep" ∨ error.message = "too many conditions")) ∧
    (∀ error, clause.parse text = .error error → error.grammar = .condition) := by
  rw [parse_eq, Parse.filter]
  refine ⟨?_, ?_, ?_⟩
  · intro expression
    rw [report_eq_ok_iff]
    exact readFilter_eq_ok_iff clause.keyword text expression
  · intro phrase derives exceeds
    obtain ⟨failure, failed, isBound⟩ :=
      readFilter_exceeding clause.keyword text derives exceeds
    rw [failed]
    refine ⟨failure.report .condition text, rfl, ?_⟩
    rcases isBound with deep | long
    · exact .inl (congrArg ParseCause.message deep)
    · exact .inr (congrArg ParseCause.message long)
  · intro error refused
    exact grammar_of_report refused

end ConditionClause

end SqlTree
