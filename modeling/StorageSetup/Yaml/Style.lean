import StorageSetup.Json.Printer
import StorageSetup.Yaml.Cursor
import StorageSetup.Yaml.Scalar
/-!
# How a text is written in YAML

A text stands without quotes where it reads back as that text. Otherwise it is quoted: in single
quotes where every character can stand for itself, else in double quotes with escapes. A text of
several lines is written as a literal block.

Key definitions:
- `Style`, `styleOf`: the ways to write a text, and the way that is taken
- `writeText`: the lines of a text
-/

namespace StorageSetup.Yaml

/-- The ways to write a text. -/
inductive Style where
  | plain
  | single
  | double
  | literal
  deriving DecidableEq, Repr

/-! ## What a text holds -/

/-- The words that stood for booleans in older versions of YAML. -/
def legacyBooleans : List String :=
  ["y", "Y", "yes", "Yes", "YES", "n", "N", "no", "No", "NO", "on", "On", "ON", "off", "Off", "OFF"]

/-- The text would be read as something else, by some reader, if it were not quoted. -/
def isAmbiguous (s : String) : Bool :=
  legacyBooleans.contains s || hasIdleZero s.toList ||
    match Plain.ofText s with
    | .text => false
    | _ => true

/-- The characters that stand for themselves between quotes. -/
def isPrintable (c : Char) : Bool :=
  isAllowed c && c ≠ '\t' && c ≠ '\r' && c ≠ '\u0085'

/-- The characters that mean something at the beginning of a scalar. -/
def indicators : List Char :=
  "#,[]\x7b\x7d&*!|>'\"%@`".toList

/-- Nothing, a blank or a line break comes first. -/
def startsBlank (cs : List Char) : Bool :=
  cs.head?.all isBlankOrBreak

/-- A colon before a blank, or a number sign behind one. -/
def hasSeparator (behindBlank : Bool) : List Char → Bool
  | [] => false
  | c :: rest =>
    (c = ':' && startsBlank rest) || (c = '#' && behindBlank) ||
      hasSeparator (isBlankOrBreak c) rest

/-- Without quotes the text would not be read as one scalar. -/
def hasIndicator (cs : List Char) : Bool :=
  ['-', '-', '-'].isPrefixOf cs || ['.', '.', '.'].isPrefixOf cs || hasSeparator false cs ||
    match cs with
    | [] => false
    | c :: rest => indicators.contains c || ((c = '?' || c = '-') && startsBlank rest)

/-- A line ends with a blank. -/
def hasBlankBeforeBreak : List Char → Bool
  | a :: b :: rest => (a = ' ' && isBreak b) || hasBlankBeforeBreak (b :: rest)
  | _ => false

def endsBlank (cs : List Char) : Bool :=
  cs.getLast? == some ' '

/-! ## The style of a text -/

/-- Single quotes are enough. -/
def allowsSingle (cs : List Char) : Bool :=
  cs.all isPrintable && !cs.any isBreak

/-- No quotes are needed. -/
def allowsPlain (cs : List Char) : Bool :=
  allowsSingle cs && !cs.isEmpty && cs.head? != some ' ' && !endsBlank cs && !hasIndicator cs

/-- The lines of a block are the lines of the text. -/
def allowsLiteral (cs : List Char) : Bool :=
  cs.all isPrintable && !endsBlank cs && !hasBlankBeforeBreak cs

/-- The way a text is written. -/
def styleOf (s : String) : Style :=
  let cs := s.toList
  if cs.contains '\n' then if allowsLiteral cs then .literal else .double
  else if allowsPlain cs && !isAmbiguous s then .plain
  else if allowsSingle cs then .single
  else .double

/-! ## Writing -/

/-- The last hexadecimal digits of a number in upper case, as many as are asked for. -/
def hexDigits : Nat → Nat → List Char
  | 0, _ => []
  | count + 1, n => hexDigits count (n / 16) ++ [(Json.hexDigit (n % 16)).toUpper]

/-- The escapes that have a letter. -/
def letterEscapes : List (Char × Char) := [
  ('\x00', '0'), ('\x07', 'a'), ('\x08', 'b'), ('\t', 't'), ('\n', 'n'), ('\x0b', 'v'),
  ('\x0c', 'f'), ('\r', 'r'), ('\x1b', 'e'), ('"', '"'), ('\\', '\\'), ('\u0085', 'N'),
  ('\u2028', 'L'), ('\u2029', 'P')]

/-- A character in double quotes. -/
def escapeChar (c : Char) : List Char :=
  match letterEscapes.lookup c with
  | some letter => ['\\', letter]
  | none =>
    let n := c.toNat
    if isPrintable c then [c]
    else if n ≤ 0xFF then '\\' :: 'x' :: hexDigits 2 n
    else if n ≤ 0xFFFF then '\\' :: 'u' :: hexDigits 4 n
    else '\\' :: 'U' :: hexDigits 8 n

/-- A character in single quotes. -/
def doubleQuote (c : Char) : List Char :=
  if c = '\'' then ['\'', '\''] else [c]

/-- The head of a block: how far it is indented if its first line does not show it, and how many
line breaks it ends with. -/
def literalHead (cs : List Char) : String :=
  let indentation := if (cs.head?.any fun c => c = ' ' || isBreak c) then "2" else ""
  let ending := match cs.reverse with
    | '\n' :: [] => "+"
    | '\n' :: c :: _ => if isBreak c then "+" else ""
    | _ => "-"
  "|" ++ indentation ++ ending

/-- The lines between line feeds. -/
def splitLines : List Char → List (List Char)
  | [] => [[]]
  | c :: rest =>
    if c = '\n' then [] :: splitLines rest
    else
      match splitLines rest with
      | [] => [[c]]
      | line :: more => (c :: line) :: more

/-- The lines of a block. A line feed at the end of the text begins no line. -/
def literalLines (cs : List Char) : List String :=
  let lines := splitLines cs
  (if lines.getLast? == some [] then lines.dropLast else lines).map String.ofList

/-- The lines of a text; only a literal block has several. -/
def writeText (s : String) : List String :=
  let cs := s.toList
  match styleOf s with
  | .plain => [s]
  | .single => [String.ofList ('\'' :: cs.flatMap doubleQuote ++ ['\''])]
  | .double => [String.ofList ('"' :: cs.flatMap escapeChar ++ ['"'])]
  | .literal => literalHead cs :: literalLines cs

end StorageSetup.Yaml
