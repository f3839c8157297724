import SqlTree.Token.Keyword

/-!
# Tokens

A token is a piece of a fragment's text together with its category and the bytes it covers.
-/

namespace SqlTree

/-- A half-open range of bytes of the UTF-8 text, from `start` up to but not including `stop`. -/
structure Span where
  start : Nat
  stop : Nat
  deriving DecidableEq, Repr

namespace Span

/-- The number of bytes.  No span of the lexer stops before it starts. -/
def length (span : Span) : Nat :=
  span.stop - span.start

def isEmpty (span : Span) : Bool :=
  span.start == span.stop

/-- The same bytes of a text in which `distance` more bytes come first. -/
def shift (distance : Nat) (span : Span) : Span :=
  ⟨span.start + distance, span.stop + distance⟩

end Span

/-- The category of a token. -/
inductive TokenKind where
  | literal
  | keyword (keyword : Keyword)
  | asterisk
  | equals
  | semicolon
  | comma
  | colon
  | openParenthesis
  | closeParenthesis
  | illegal
  | endOfInput
  deriving DecidableEq, Repr

namespace TokenKind

def description : TokenKind → String
  | literal => "literal"
  | keyword word => word.spelling
  | asterisk => "'*'"
  | equals => "'='"
  | semicolon => "';'"
  | comma => "','"
  | colon => "':'"
  | openParenthesis => "'('"
  | closeParenthesis => "')'"
  | illegal => "illegal character"
  | endOfInput => "end of input"

def all : List TokenKind :=
  [literal, asterisk, equals, semicolon, comma, colon, openParenthesis, closeParenthesis, illegal,
    endOfInput] ++ Keyword.all.map keyword

def ofDescription? (description : String) : Option TokenKind :=
  all.find? fun kind => kind.description == description

end TokenKind

/-- A piece of text, its category and the bytes it was read from. -/
structure Token where
  kind : TokenKind
  text : String
  span : Span
  deriving DecidableEq, Repr

namespace Token

/-- The token that stands for the end of a text of `length` bytes. -/
def endAt (length : Nat) : Token :=
  ⟨.endOfInput, "", ⟨length, length⟩⟩

def isEnd (token : Token) : Bool :=
  token.kind == .endOfInput

def keyword? (token : Token) : Option Keyword :=
  match token.kind with
  | .keyword keyword => some keyword
  | _ => none

/-- The same token in a text in which `distance` more bytes come first. -/
def shift (distance : Nat) (token : Token) : Token :=
  { token with span := token.span.shift distance }

@[simp]
theorem endAt_isEnd (length : Nat) : (endAt length).isEnd = true :=
  rfl

end Token

end SqlTree
