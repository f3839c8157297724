import SqlTree.Text.Alphanumeric
import SqlTree.Token.Stream

/-!
# The lexer

Text is cut into words, single punctuation marks and characters without a meaning.  A word is a
maximal run of letters, numbers, underscores and dots.  Between tokens, layout is skipped; on
request a line feed ends a statement instead of being layout.

The lexer can be read one token at a time (`Lexer.next`), also past the end of the text, or
drained (`Lexer.stream`).
-/

namespace SqlTree

def byteLength : List Char → Nat
  | [] => 0
  | character :: rest => character.utf8Size + byteLength rest

@[simp]
theorem byteLength_nil : byteLength [] = 0 :=
  rfl

@[simp]
theorem byteLength_cons (character : Char) (rest : List Char) :
    byteLength (character :: rest) = character.utf8Size + byteLength rest :=
  rfl

@[simp]
theorem byteLength_append (first second : List Char) :
    byteLength (first ++ second) = byteLength first + byteLength second := by
  induction first with
  | nil => simp
  | cons character rest ih => simp [ih, Nat.add_assoc]

def isWordCharacter (character : Char) : Bool :=
  Text.isAlphanumeric character || character == '_' || character == '.'

/-- The category of a character that stands alone.  A line feed reaches this point only where it
ends statements. -/
def punctuationKind (character : Char) : TokenKind :=
  match character with
  | '\n' => .semicolon
  | '*' => .asterisk
  | '=' => .equals
  | ';' => .semicolon
  | ',' => .comma
  | ':' => .colon
  | '(' => .openParenthesis
  | ')' => .closeParenthesis
  | _ => .illegal

def punctuationText (character : Char) : String :=
  if character == '\n' then ";" else String.singleton character

def wordKind (word : String) : TokenKind :=
  match Keyword.lookup word with
  | some keyword => .keyword keyword
  | none => .literal

/-- The rest of a text, and where in the text it starts. -/
structure Lexer where
  rest : List Char
  offset : Nat := 0
  lineFeedsEndStatements : Bool := false

namespace Lexer

def ofText (text : String) (lineFeedsEndStatements : Bool) : Lexer :=
  { rest := text.toList, lineFeedsEndStatements }

/-- Layout is skipped between tokens. -/
def isLayout (lineFeedsEndStatements : Bool) (character : Char) : Bool :=
  character == ' ' || character == '\t' || character == '\r'
    || character == '\n' && !lineFeedsEndStatements

/-- The lexer after the longest run of characters of one class. -/
def skip (inClass : Char → Bool) (lexer : Lexer) : Lexer :=
  { lexer with
    rest := lexer.rest.dropWhile inClass
    offset := lexer.offset + byteLength (lexer.rest.takeWhile inClass) }

def skipLayout (lexer : Lexer) : Lexer :=
  lexer.skip (isLayout lexer.lineFeedsEndStatements)

def word (lexer : Lexer) : Token × Lexer :=
  let text := String.ofList (lexer.rest.takeWhile isWordCharacter)
  let after := lexer.skip isWordCharacter
  (⟨wordKind text, text, ⟨lexer.offset, after.offset⟩⟩, after)

/-- The single character at the lexer's position as a token, and the lexer after it. -/
def punctuation (lexer : Lexer) (character : Char) (following : List Char) : Token × Lexer :=
  let stop := lexer.offset + character.utf8Size
  (⟨punctuationKind character, punctuationText character, ⟨lexer.offset, stop⟩⟩,
    { lexer with rest := following, offset := stop })

/-- The token at a position without layout, and the lexer after it. -/
def scan (lexer : Lexer) : Token × Lexer :=
  match lexer.rest with
  | [] => (Token.endAt lexer.offset, lexer)
  | character :: following =>
    if isWordCharacter character then lexer.word else lexer.punctuation character following

def next (lexer : Lexer) : Token × Lexer :=
  lexer.skipLayout.scan

theorem wordKind_ne_endOfInput (word : String) : wordKind word ≠ .endOfInput := by
  unfold wordKind
  split <;> simp

theorem punctuationKind_ne_endOfInput (character : Char) :
    punctuationKind character ≠ .endOfInput := by
  unfold punctuationKind
  split <;> simp

theorem length_skip_le (inClass : Char → Bool) (lexer : Lexer) :
    (lexer.skip inClass).rest.length ≤ lexer.rest.length :=
  (List.dropWhile_sublist inClass).length_le

/-- A scan that is not at the end of the text uses up at least one character. -/
theorem length_scan_lt {lexer : Lexer} (unfinished : lexer.scan.1.isEnd = false) :
    lexer.scan.2.rest.length < lexer.rest.length := by
  rcases lexer with ⟨rest, offset, lineFeeds⟩
  cases rest with
  | nil => simp [scan] at unfinished
  | cons character following =>
    cases inWord : isWordCharacter character with
    | false => simp [scan, inWord, punctuation]
    | true =>
      have shorter := (List.dropWhile_sublist isWordCharacter (l := following)).length_le
      simp [scan, inWord, word, skip]
      omega

theorem length_next_lt {lexer : Lexer} (unfinished : lexer.next.1.isEnd = false) :
    lexer.next.2.rest.length < lexer.rest.length :=
  Nat.lt_of_lt_of_le (length_scan_lt unfinished) (length_skip_le _ lexer)

def stream (lexer : Lexer) : TokenStream :=
  if _atEnd : lexer.next.1.isEnd then ⟨[], lexer.next.1.span.stop⟩
  else lexer.next.2.stream.push lexer.next.1
termination_by lexer.rest.length
decreasing_by exact length_next_lt (by simpa using _atEnd)

def pull (lexer : Lexer) : (count : Nat) → List Token
  | 0 => []
  | count + 1 => lexer.next.1 :: lexer.next.2.pull count

end Lexer

/-- The tokens of a text in which line feeds are layout. -/
def TokenStream.ofText (text : String) : TokenStream :=
  (Lexer.ofText text false).stream

end SqlTree
