import SqlTree.Parse.Filter
import SqlTree.Parse.Join

/-!
# The grammar of conditions

The grammar as a relation between token lists and phrases.  A phrase keeps what the tokens say,
parentheses included; what a parser builds from it, how many comparisons it makes and how deep its
parentheses are nested are functions of the phrase.
-/

namespace SqlTree

/-- The keyword of the connective. -/
@[simp]
def Connective.keyword : Connective → Keyword
  | and => .and
  | or => .or

/-- What the tokens of a condition say. -/
inductive Phrase where
  | test (left right : String)
  | enclosed (inner : Phrase)
  | joined (left : Phrase) (connective : Connective) (right : Phrase)

namespace Phrase

/-- The number of comparisons. -/
@[simp]
def tests : Phrase → Nat
  | test _ _ => 1
  | enclosed inner => inner.tests
  | joined left _ right => left.tests + right.tests

/-- The greatest number of parentheses open at one time. -/
@[simp]
def depth : Phrase → Nat
  | test _ _ => 0
  | enclosed inner => inner.depth + 1
  | joined left _ right => max left.depth right.depth

/-- The comparisons as expressions of two names, put together as in the phrase; parentheses leave
no trace. -/
def expression : Phrase → Expression
  | test left right => .binary (.identifier left) (.comparison .equal) (.identifier right)
  | enclosed inner => inner.expression
  | joined left connective right =>
    .binary left.expression (.connective connective) right.expression

/-- The comparisons as equalities of two columns, put together as in the phrase; parentheses leave
no trace. -/
def joinCondition : Phrase → JoinCondition
  | test left right => .equality { name := left } { name := right }
  | enclosed inner => inner.joinCondition
  | joined left connective right => .connected left.joinCondition connective right.joinCondition

@[simp]
def build {Tree : Type} (style : Parse.ConditionStyle Tree) : Phrase → Tree
  | test left right => style.comparison left right
  | enclosed inner => inner.build style
  | joined left connective right =>
    style.connect connective (left.build style) (right.build style)

theorem build_filterStyle (phrase : Phrase) :
    phrase.build Parse.filterStyle = phrase.expression := by
  induction phrase with
  | test left right => rfl
  | enclosed inner ih => exact ih
  | joined left connective right leftIH rightIH =>
    rw [build, leftIH, rightIH]
    rfl

theorem build_joinStyle (phrase : Phrase) :
    phrase.build Parse.joinStyle = phrase.joinCondition := by
  induction phrase with
  | test left right => rfl
  | enclosed inner ih => exact ih
  | joined left connective right leftIH rightIH =>
    rw [build, leftIH, rightIH]
    rfl

end Phrase

/-- The nonterminals of the grammar of conditions. -/
inductive Nonterminal where
  | condition
  | group

/-- The tokens can be read as the phrase:

    condition := group | condition (AND | OR) group
    group     := "(" condition ")" | word "=" word
-/
inductive Derives : Nonterminal → List Token → Phrase → Prop
  | test {left equals right : Token} (leftWord : left.kind = .literal)
      (equalsSign : equals.kind = .equals) (rightWord : right.kind = .literal) :
      Derives .group [left, equals, right] (.test left.text right.text)
  | enclosed {opening closing : Token} {tokens : List Token} {inner : Phrase}
      (opens : opening.kind = .openParenthesis) (inside : Derives .condition tokens inner)
      (closes : closing.kind = .closeParenthesis) :
      Derives .group (opening :: tokens ++ [closing]) (.enclosed inner)
  | single {tokens : List Token} {phrase : Phrase} (only : Derives .group tokens phrase) :
      Derives .condition tokens phrase
  | joined {leftTokens rightTokens : List Token} {word : Token} {left right : Phrase}
      {connective : Connective} (before : Derives .condition leftTokens left)
      (joins : word.kind = .keyword connective.keyword)
      (after : Derives .group rightTokens right) :
      Derives .condition (leftTokens ++ word :: rightTokens) (.joined left connective right)

namespace Derives

/-- A condition begins with a word before an equals sign or with a parenthesis. -/
theorem start {nonterminal : Nonterminal} {tokens : List Token} {phrase : Phrase}
    (derives : Derives nonterminal tokens phrase) :
    (∃ left equals rest, tokens = left :: equals :: rest ∧ left.kind = .literal ∧
      equals.kind = .equals) ∨
    (∃ opening rest, tokens = opening :: rest ∧ opening.kind = .openParenthesis) := by
  induction derives with
  | test leftWord equalsSign rightWord =>
    exact .inl ⟨_, _, _, rfl, leftWord, equalsSign⟩
  | enclosed opens inside closes ih => exact .inr ⟨_, _, rfl, opens⟩
  | single only ih => exact ih
  | joined before joins after leftIH rightIH =>
    rcases leftIH with ⟨left, equals, rest, rfl, leftWord, equalsSign⟩ | ⟨opening, rest, rfl, opens⟩
    · exact .inl ⟨left, equals, _, rfl, leftWord, equalsSign⟩
    · exact .inr ⟨opening, _, rfl, opens⟩

end Derives

/-! ## Joins -/

/-- The keyword of the kind. -/
@[simp]
def JoinKind.keyword : JoinKind → Keyword
  | inner => .inner
  | left => .left
  | right => .right
  | cross => .cross

/-- The tokens name the kind of a join with a condition:

    kind := [[INNER | LEFT | RIGHT] JOIN]
-/
inductive NamesKind : List Token → JoinKind → Prop
  | absent : NamesKind [] .inner
  | bare {join : Token} (joins : join.kind = .keyword .join) : NamesKind [join] .inner
  | named {word join : Token} {kind : JoinKind} (takesCondition : kind ≠ .cross)
      (names : word.kind = .keyword kind.keyword) (joins : join.kind = .keyword .join) :
      NamesKind [word, join] kind

/-- The tokens name the table:

    table := word [AS word]
-/
inductive NamesTable : List Token → Table → Prop
  | plain {name : Token} (nameWord : name.kind = .literal) :
      NamesTable [name] { name := name.text }
  | renamed {name as asName : Token} (nameWord : name.kind = .literal)
      (asKeyword : as.kind = .keyword .as) (asWord : asName.kind = .literal) :
      NamesTable [name, as, asName] { name := name.text, asName := some asName.text }

/-- The tokens name the table of a join with a condition, if they name one:

    target := [table ON | ON]
-/
inductive NamesTarget : List Token → Option Table → Prop
  | absent : NamesTarget [] none
  | bare {on : Token} (onKeyword : on.kind = .keyword .on) : NamesTarget [on] none
  | table {tokens : List Token} {table : Table} {on : Token} (names : NamesTable tokens table)
      (onKeyword : on.kind = .keyword .on) : NamesTarget (tokens ++ [on]) (some table)

/-- The tokens can be read as the join, the table being the written one, if there is one:

    join := CROSS JOIN table | kind target condition

where the condition is within the bounds. -/
inductive NamesJoin : List Token → (written : Option Table) → Join → Prop
  | cross {word join : Token} {tokens : List Token} {table : Table}
      (crosses : word.kind = .keyword .cross) (joins : join.kind = .keyword .join)
      (names : NamesTable tokens table) :
      NamesJoin (word :: join :: tokens) (some table)
        { kind := .cross, table, condition := none }
  | conditional {kindTokens targetTokens conditionTokens : List Token} {kind : JoinKind}
      {written : Option Table} {phrase : Phrase} (namesKind : NamesKind kindTokens kind)
      (namesTarget : NamesTarget targetTokens written)
      (derives : Derives .condition conditionTokens phrase) (room : phrase.tests ≤ 512)
      (shallow : phrase.depth ≤ 128) :
      NamesJoin (kindTokens ++ targetTokens ++ conditionTokens) written
        { kind, table := written.getD {}, condition := some phrase.joinCondition }

end SqlTree
