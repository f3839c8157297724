import SqlTree.Text.Hidden

/-!
# Quoted text

Error reports show the text they are about between double quotes.  What a reader could not see or
could mistake for the closing quote is written as an escape; everything else stands for itself.
-/

namespace SqlTree.Text

/-- The code point in lower-case hexadecimal, between braces. -/
def codePointEscape (character : Char) : List Char :=
  "\\u\x7b".toList ++ Nat.toDigits 16 character.toNat ++ "\x7d".toList

def quotedCharacter (character : Char) : List Char :=
  match character with
  | '\x00' => ['\\', '0']
  | '\t' => ['\\', 't']
  | '\n' => ['\\', 'n']
  | '\r' => ['\\', 'r']
  | '"' => ['\\', '"']
  | '\\' => ['\\', '\\']
  | other => if isHidden other then codePointEscape other else [other]

def quoted (text : String) : String :=
  String.ofList ('"' :: text.toList.flatMap quotedCharacter ++ ['"'])

end SqlTree.Text
