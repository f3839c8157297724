/-!
# JSON strings

The text of a JSON string: quotes, backslashes and the controls below the space are escaped, with
the two-character form where there is one; every other character stands for itself.
-/

namespace SqlTree.Text

def controlEscape (character : Char) : List Char :=
  let digits := Nat.toDigits 16 character.toNat
  '\\' :: 'u' :: List.replicate (4 - digits.length) '0' ++ digits

def jsonCharacter (character : Char) : List Char :=
  match character with
  | '"' => ['\\', '"']
  | '\\' => ['\\', '\\']
  | '\x08' => ['\\', 'b']
  | '\x0c' => ['\\', 'f']
  | '\n' => ['\\', 'n']
  | '\r' => ['\\', 'r']
  | '\t' => ['\\', 't']
  | other => if other.toNat < 0x20 then controlEscape other else [other]

def jsonString (text : String) : String :=
  String.ofList ('"' :: text.toList.flatMap jsonCharacter ++ ['"'])

end SqlTree.Text
