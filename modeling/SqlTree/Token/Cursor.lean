import SqlTree.Token.Basic

/-!
# Cursors over token lists

A cursor stands at a position of a list of tokens that ends with the end of the input.  It gives
access to the token at any distance ahead; whatever lies behind the end of the list is its last
token.  Positions and distances are words of 64 bits.  They are added before the sum is kept within
the list, so looking ahead fails when the sum is not such a word.
-/

namespace SqlTree

/-- Why a cursor cannot look ahead. -/
inductive LookaheadError where
  | sumOverflows
  deriving DecidableEq, Repr

def LookaheadError.message : LookaheadError → String
  | sumOverflows => "attempt to add with overflow"

/-- A list of tokens, its last token kept apart, and a position in it. -/
structure TokenCursor where
  body : List Token
  final : Token
  position : Nat := 0
  deriving Repr

namespace TokenCursor

/-- The cursor at the start of a list of tokens.  The end of the input is added behind a list that
does not end with it. -/
def ofList (tokens : List Token) : TokenCursor :=
  match tokens.getLast? with
  | none => { body := [], final := Token.endAt 0 }
  | some last =>
    if last.isEnd then { body := tokens.dropLast, final := last }
    else { body := tokens, final := Token.endAt last.span.stop }

def size (cursor : TokenCursor) : Nat :=
  cursor.body.length + 1

/-- The list is empty, which it never is. -/
def isEmpty (cursor : TokenCursor) : Bool :=
  cursor.size == 0

/-- The token at an index of the list.  Behind the list, all are the last one. -/
def tokenAt (cursor : TokenCursor) (index : Nat) : Token :=
  cursor.body[index]?.getD cursor.final

/-- The index at a distance from the position, or that of the last token if this is not as far. -/
def index (cursor : TokenCursor) (distance : UInt64) : Except LookaheadError Nat :=
  let sum := cursor.position + distance.toNat
  if sum < UInt64.size then .ok (min sum cursor.body.length) else .error .sumOverflows

def peek (cursor : TokenCursor) (distance : UInt64) : Except LookaheadError Token :=
  (cursor.index distance).map cursor.tokenAt

/-- The token at no distance, which is always there. -/
def current (cursor : TokenCursor) : Token :=
  cursor.tokenAt cursor.position

def hasNext (cursor : TokenCursor) : Bool :=
  !cursor.current.isEnd

def isAt (cursor : TokenCursor) (kind : TokenKind) : Bool :=
  cursor.current.kind == kind

def isPeek (cursor : TokenCursor) (distance : UInt64) (kind : TokenKind) :
    Except LookaheadError Bool :=
  (cursor.peek distance).map fun token => token.kind == kind

/-- The cursor at the next position; it stays on the last token. -/
def advance (cursor : TokenCursor) : TokenCursor :=
  if cursor.position < cursor.body.length then { cursor with position := cursor.position + 1 }
  else cursor

def next (cursor : TokenCursor) : Token × TokenCursor :=
  (cursor.current, cursor.advance)

end TokenCursor

end SqlTree
