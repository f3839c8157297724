import SqlTree.Parse.Condition
import SqlTree.Token.Lexer
import SqlTree.Tree.Build

/-!
# WHERE and HAVING conditions

A condition after an optional keyword.  Both sides of a comparison are names, so nothing is bound.
-/

namespace SqlTree.Parse

/-- Comparisons become equalities of two identifiers; a comparison by another operator is named in
the report. -/
def filterStyle : ConditionStyle Expression where
  comparison left right := .compare left .equal (.identifier right)
  connect := Expression.connect
  missingEquals := .unsupported

def readFilter (keyword : Keyword) (text : String) : Except Failure Expression :=
  let start := State.ofStream (TokenStream.ofText text)
  match condition filterStyle (start.skip (.keyword keyword)) with
  | .error failure => .error failure
  | .ok (tree, rest) => rest.finish tree

/-- The condition of a text, with or without the keyword in front. -/
def filter (keyword : Keyword) (text : String) : Except ParseError Expression :=
  (readFilter keyword text).mapError fun failure => failure.report .condition text

def whereCondition (text : String) : Except ParseError Expression :=
  filter .«where» text

def havingCondition (text : String) : Except ParseError Expression :=
  filter .having text

end SqlTree.Parse
