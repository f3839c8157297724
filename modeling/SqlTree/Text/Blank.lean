import SqlTree.Text.CodeRange

/-!
# Blank text

A name, a fragment or a comment that consists of white space alone counts as absent.  White space is
the Unicode property `White_Space`.
-/

namespace SqlTree.Text

/-- The code points with the property `White_Space`. -/
def spaceRanges : List CodeRange := [
  (0x9, 0xD), (0x20, 0x20), (0x85, 0x85), (0xA0, 0xA0), (0x1680, 0x1680), (0x2000, 0x200A),
  (0x2028, 0x2029), (0x202F, 0x202F), (0x205F, 0x205F), (0x3000, 0x3000)]

/-- White space of every script. -/
def isSpace (character : Char) : Bool :=
  inRanges spaceRanges character

/-- The text holds nothing but white space. -/
def isBlank (text : String) : Bool :=
  text.toList.all isSpace

def trimmedCharacters (characters : List Char) : List Char :=
  ((characters.dropWhile isSpace).reverse.dropWhile isSpace).reverse

def trimmed (text : String) : String :=
  String.ofList (trimmedCharacters text.toList)

end SqlTree.Text
