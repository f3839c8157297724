import SqlTree.Text.Quoted
import SqlTree.Token.Basic

/-!
# Parse errors

A text that cannot be read is reported with the grammar that refused it, the cause, the place in the
text and the text itself.  Causes are data; their wording is in one function.
-/

namespace SqlTree

/-- The grammars that can refuse a text. -/
inductive Grammar where
  | joinCondition
  | condition
  | query
  | select
  deriving DecidableEq, Repr

namespace Grammar

/-- The statement that the grammar refused a text. -/
def complaint : Grammar → String
  | joinCondition => "join condition is invalid"
  | condition => "condition is invalid"
  | query => "query is invalid"
  | select => "select statement is invalid"

def all : List Grammar := [joinCondition, condition, query, select]

end Grammar

/-- Why a text is refused. -/
inductive ParseCause where
  | unexpected (expected : TokenKind) (found : Token)
  | unsupportedOperator (found : String)
  | nestingTooDeep
  | tooManyConditions
  | unbalancedParenthesis
  | crossJoinCondition
  | withStatement
  | noOperation
  | stated (message : String)
  deriving DecidableEq, Repr

/-- How a token that was found is named: by its text, or by its category if it has none. -/
def Token.mention (token : Token) : String :=
  if token.isEnd || token.text.isEmpty then token.kind.description else "`" ++ token.text ++ "`"

def ParseCause.message : ParseCause → String
  | unexpected expected found =>
    "expected " ++ expected.description ++ ", found " ++ found.mention
  | unsupportedOperator found =>
    "unsupported operator `" ++ found ++ "`, only `=` is allowed"
  | nestingTooDeep => "nesting too deep"
  | tooManyConditions => "too many conditions"
  | unbalancedParenthesis => "unbalanced parenthesis"
  | crossJoinCondition => "CROSS JOIN does not take a condition"
  | withStatement => "WITH statements are not supported"
  | noOperation => "no SELECT, INSERT, UPDATE or DELETE found"
  | stated message => message

/-- The report on a text that was refused. -/
structure ParseError where
  grammar : Grammar
  cause : ParseCause
  span : Option Span
  query : String
  deriving DecidableEq, Repr

namespace ParseError

def message (error : ParseError) : String :=
  error.cause.message

def display (error : ParseError) : String :=
  error.grammar.complaint ++ ": " ++ error.message ++ " in " ++ Text.quoted error.query

def isFrom (error : ParseError) (grammar : Grammar) : Bool :=
  error.grammar == grammar

end ParseError

end SqlTree
