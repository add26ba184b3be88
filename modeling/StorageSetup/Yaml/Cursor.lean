/-!
# Positions in YAML text

Indentation gives YAML its structure, so a reader keeps its line and column beside the text that is
left. A line ends at a carriage return, a line feed, both together, or one of three breaks of
Unicode.

Key definitions:
- `isBreak`, `isBlank`: what ends a line and what separates words in it
- `Cursor`: the text that is left and where it stands
- `Cursor.newline?`: the step over a line break
-/

namespace StorageSetup.Yaml

/-- The characters that end a line. -/
def isBreak (c : Char) : Bool :=
  c = '\r' || c = '\n' || c = '\u0085' || c = '\u2028' || c = '\u2029'

/-- The characters that separate words in a line. -/
def isBlank (c : Char) : Bool :=
  c = ' ' || c = '\t'

/-- The characters that end a word. -/
def isBlankOrBreak (c : Char) : Bool :=
  isBlank c || isBreak c

/-- The characters of names. -/
def isNameChar (c : Char) : Bool :=
  ('0' ≤ c && c ≤ '9') || ('A' ≤ c && c ≤ 'Z') || ('a' ≤ c && c ≤ 'z') || c = '_' || c = '-'

/-- The characters that may stand in a document. -/
def isAllowed (c : Char) : Bool :=
  let n := c.toNat
  n = 0x09 || n = 0x0a || n = 0x0d || (0x20 ≤ n && n ≤ 0x7e) || n = 0x85 ||
    (0xa0 ≤ n && n ≤ 0xd7ff) || (0xe000 ≤ n && n ≤ 0xfffd) || 0x10000 ≤ n

/-- The text that is left and where it stands. -/
structure Cursor where
  rest : List Char
  /-- How many characters were read. -/
  index : Nat := 0
  line : Nat := 0
  column : Nat := 0

namespace Cursor

/-- The character a number of places ahead. -/
def ahead? (c : Cursor) (n : Nat) : Option Char :=
  c.rest[n]?

/-- The character is the one given. -/
def startsWith (c : Cursor) (ch : Char) : Bool :=
  c.rest.head? == some ch

/-- Nothing, a blank or a line break stands a number of places ahead. -/
def endsWordAt (c : Cursor) (n : Nat) : Bool :=
  (c.ahead? n).all isBlankOrBreak

/-- Steps over characters of one line. -/
def advance (c : Cursor) (n : Nat) : Cursor :=
  { c with rest := c.rest.drop n, index := c.index + n, column := c.column + n }

/-- The characters of the line that pass, and the place behind them. -/
def takeWhile (c : Cursor) (p : Char → Bool) : String × Cursor :=
  let text := c.rest.takeWhile p
  (String.ofList text, c.advance text.length)

/-- The place behind the characters of the line that pass. -/
def skipWhile (c : Cursor) (p : Char → Bool) : Cursor :=
  (c.takeWhile p).2

/-- The start of the next line, a number of characters on. -/
def nextLine (c : Cursor) (rest : List Char) (n : Nat) : Cursor :=
  { rest, index := c.index + n, line := c.line + 1, column := 0 }

/-- The line break here as it stands for in a text, and the start of the next line. -/
def newline? (c : Cursor) : Option (String × Cursor) :=
  match c.rest with
  | '\r' :: '\n' :: rest => some ("\n", c.nextLine rest 2)
  | ch :: rest =>
    if ch = '\u2028' || ch = '\u2029' then some (String.singleton ch, c.nextLine rest 1)
    else if isBreak ch then some ("\n", c.nextLine rest 1)
    else none
  | [] => none

/-- A word of three times the same character at the start of a line. -/
def atMarker (c : Cursor) (ch : Char) : Bool :=
  c.column = 0 && [ch, ch, ch].isPrefixOf c.rest && c.endsWordAt 3

/-- The start or the end of a document is marked here. -/
def atDocumentMarker (c : Cursor) : Bool :=
  c.atMarker '-' || c.atMarker '.'

end Cursor

end StorageSetup.Yaml
