-- SUMMARY: White space and trimming.
import MasterData.Text.CodePoints

/-! # White space

The set is the Unicode property `White_Space`. Trimming removes it at the ends of a text.
-/

set_option maxRecDepth 20000

namespace MasterData.Text

/-- Characters with the property `White_Space`. -/
def blankTable : CodePoints := .ofBlocks [
   (0x9, 0xD), (0x20, 0x20), (0x85, 0x85), (0xA0, 0xA0), (0x1680, 0x1680), (0x2000, 0x200A),
   (0x2028, 0x2029), (0x202F, 0x202F), (0x205F, 0x205F), (0x3000, 0x3000)]

/-- A white-space character. -/
def isBlank (c : Char) : Bool :=
  blankTable.contains c

/-- The characters without the white space at their start. -/
def trimLeft (cs : List Char) : List Char :=
  cs.dropWhile isBlank

/-- The characters without the white space at their end. -/
def trimRight (cs : List Char) : List Char :=
  (cs.reverse.dropWhile isBlank).reverse

/-- A text without the white space at its ends. -/
def trim (s : String) : String :=
  String.ofList (trimRight (trimLeft s.toList))

/-- A text without the white space at its end. -/
def trimEnd (s : String) : String :=
  String.ofList (trimRight s.toList)

/-- Whether a text holds nothing but white space. -/
def isBlankText (s : String) : Bool :=
  s.toList.all isBlank

end MasterData.Text
