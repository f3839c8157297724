import SqlTree.Parse.State
import SqlTree.Text.JsonString
import SqlTree.Token.Lexer

/-!
# What a statement does, and to which table

The operation of a statement is its first keyword among SELECT, INSERT, UPDATE and DELETE.  Its
table is where the operation puts it:

    INSERT INTO table
    UPDATE [ONLY] table
    SELECT ... FROM [ONLY] table
    DELETE ... FROM [ONLY] table

where FROM is the first one outside parentheses.  Statements that begin with WITH are refused.
-/

namespace SqlTree

/-- What a statement does. -/
inductive Operation where
  | select
  | insert
  | update
  | delete
  deriving DecidableEq, Repr

namespace Operation

def text : Operation → String
  | select => "SELECT"
  | insert => "INSERT"
  | update => "UPDATE"
  | delete => "DELETE"

def ofKeyword? : Keyword → Option Operation
  | .select => some select
  | .insert => some insert
  | .update => some update
  | .delete => some delete
  | _ => none

end Operation

/-- What to find out about a statement. -/
structure AnalysisRequest where
  operation : Bool := false
  table : Bool := false
  deriving DecidableEq, Repr

def AnalysisRequest.all : AnalysisRequest :=
  ⟨true, true⟩

/-- What was asked for about a statement. -/
structure Analysis where
  operation : Option Operation := none
  table : Option String := none
  deriving DecidableEq, Repr

def Analysis.json (analysis : Analysis) : String :=
  let entry (name : String) (value : Option String) :=
    Text.jsonString name ++ ":" ++ (value.map Text.jsonString).getD "null"
  "\x7b" ++ entry "operation" (analysis.operation.map Operation.text) ++ ","
    ++ entry "table" analysis.table ++ "\x7d"

namespace Parse

/-- The text of a word spells WITH in any mixture of ASCII cases. -/
def spellsWith (text : String) : Bool :=
  text.toList.map Char.toUpper == "WITH".toList

/-- The first operation among the tokens, and the tokens after it. -/
def operationAhead : List Token → Option (Operation × List Token)
  | [] => none
  | token :: rest =>
    match token.keyword?.bind Operation.ofKeyword? with
    | some operation => some (operation, rest)
    | none => operationAhead rest

/-- The tokens after the first FROM outside parentheses, of which `depth` are open already.  A
closing parenthesis without a partner is passed over. -/
def afterFrom (depth : Nat) : List Token → Option (List Token)
  | [] => none
  | token :: rest =>
    match token.kind with
    | .openParenthesis => afterFrom (depth + 1) rest
    | .closeParenthesis => afterFrom (depth - 1) rest
    | .keyword .«from» => if depth = 0 then some rest else afterFrom depth rest
    | _ => afterFrom depth rest

def State.withAhead (state : State) (ahead : List Token) : State :=
  { state with ahead }

def readOperation (state : State) : Except Failure (Operation × State) :=
  match operationAhead state.ahead with
  | some (operation, rest) => .ok (operation, state.withAhead rest)
  | none => .error ((state.withAhead []).failure .noOperation)

def readFrom (state : State) : Except Failure State :=
  match afterFrom 0 state.ahead with
  | some rest => .ok (state.withAhead rest)
  | none => .error ((state.withAhead []).unexpected (.keyword .«from»))

def readUpToTable (operation : Operation) (state : State) : Except Failure State :=
  match operation with
  | .insert => state.expect (.keyword .into)
  | .update => .ok (state.skip (.keyword .only))
  | .select | .delete =>
    match readFrom state with
    | .ok rest => .ok (rest.skip (.keyword .only))
    | .error failure => .error failure

def readTargetTable (operation : Operation) (state : State) : Except Failure String :=
  match readUpToTable operation state with
  | .error failure => .error failure
  | .ok atTable =>
    match atTable.literal with
    | .ok (table, _) => .ok table
    | .error failure => .error failure

/-- Reads what is asked for, and no further. -/
def readAnalysis (request : AnalysisRequest) (state : State) : Except Failure Analysis :=
  if !request.operation && !request.table then .ok {}
  else if state.isAt .literal && spellsWith state.current.text then
    .error (state.failure .withStatement)
  else
    match readOperation state with
    | .error failure => .error failure
    | .ok (operation, rest) =>
      let named := if request.operation then some operation else none
      if request.table then
        match readTargetTable operation rest with
        | .error failure => .error failure
        | .ok table => .ok ⟨named, some table⟩
      else .ok ⟨named, none⟩

def analysis (text : String) (request : AnalysisRequest) : Except ParseError Analysis :=
  (readAnalysis request (State.ofStream (TokenStream.ofText text))).mapError
    fun failure => failure.report .query text

end Parse

end SqlTree
