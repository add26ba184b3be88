/-!
# Blank characters and trimming

Form fields are judged by their trimmed text. A character is blank when it has the Unicode
property White_Space, so a no-break space counts and a zero-width space does not.

Key definitions:
- `isSpace`: the 25 characters of the property
- `trimStart`, `trimEnd`, `trim`: removal of blank characters at the ends of a text
- `isBlank`: texts of blank characters only
-/

namespace StorageSetup.Text

/-- The characters with the Unicode property White_Space. -/
def isSpace (c : Char) : Bool :=
  let n := c.toNat
  (9 ≤ n && n ≤ 13) || n == 0x20 || n == 0x85 || n == 0xA0 || n == 0x1680 ||
    (0x2000 ≤ n && n ≤ 0x200A) || n == 0x2028 || n == 0x2029 || n == 0x202F || n == 0x205F ||
    n == 0x3000

/-- The text without its leading blank characters. -/
def trimStart (cs : List Char) : List Char :=
  cs.dropWhile isSpace

/-- The text without its trailing blank characters. -/
def trimEnd (cs : List Char) : List Char :=
  (cs.reverse.dropWhile isSpace).reverse

/-- The text without blank characters at either end. -/
def trimChars (cs : List Char) : List Char :=
  trimEnd (trimStart cs)

/-- The string without blank characters at either end. -/
def trim (s : String) : String :=
  String.ofList (trimChars s.toList)

/-- Whether the string holds blank characters only. -/
def isBlank (s : String) : Bool :=
  s.toList.all isSpace

end StorageSetup.Text
