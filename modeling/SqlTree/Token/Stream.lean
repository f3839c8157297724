import SqlTree.Token.Basic

/-!
# Token streams

The tokens still to be read.  A stream never runs dry: once the tokens before the end of the input
are used up, it shows the end of the input for ever.
-/

namespace SqlTree

/-- The tokens before the end of the input, and the byte at which the input ends. -/
structure TokenStream where
  ahead : List Token
  stop : Nat
  deriving DecidableEq, Repr

namespace TokenStream

def current (stream : TokenStream) : Token :=
  stream.ahead.head?.getD (Token.endAt stream.stop)

def advance (stream : TokenStream) : TokenStream :=
  { stream with ahead := stream.ahead.tail }

def following (stream : TokenStream) : Token :=
  stream.advance.current

def atEnd (stream : TokenStream) : Bool :=
  stream.current.isEnd

def push (token : Token) (stream : TokenStream) : TokenStream :=
  { stream with ahead := token :: stream.ahead }

def toList (stream : TokenStream) : List Token :=
  stream.ahead ++ [Token.endAt stream.stop]

@[simp]
theorem current_push (token : Token) (stream : TokenStream) :
    (stream.push token).current = token :=
  rfl

@[simp]
theorem advance_push (token : Token) (stream : TokenStream) :
    (stream.push token).advance = stream :=
  rfl

@[simp]
theorem toList_push (token : Token) (stream : TokenStream) :
    (stream.push token).toList = token :: stream.toList :=
  rfl

/-- A stream whose current token is not the end of the input gets shorter by reading it. -/
theorem length_advance_lt {stream : TokenStream} (unfinished : stream.current.isEnd = false) :
    stream.advance.ahead.length < stream.ahead.length := by
  rcases stream with ⟨ahead, stop⟩
  cases ahead with
  | nil => simp [current] at unfinished
  | cons token rest => simp [advance]

end TokenStream

end SqlTree
