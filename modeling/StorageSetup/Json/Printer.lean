import StorageSetup.Json.Basic
import StorageSetup.Decimal.Shortest
import StorageSetup.Text.Digits
/-!
# Writing JSON texts

Two layouts: everything on one line without blanks, and one member or item a line, indented by
two blanks a level. Members are written in the order the object lists them.

Key definitions:
- `Json.quote`: a string with its escapes
- `Json.compact`, `Json.pretty`
-/

namespace StorageSetup.Json

open StorageSetup.Text

/-- A lower-case hexadecimal digit. -/
def hexDigit (n : Nat) : Char :=
  if n < 10 then Char.ofNat ('0'.toNat + n) else Char.ofNat ('a'.toNat + (n - 10))

/-- A character of a string as written between the quotes. -/
def escapeChar (c : Char) : List Char :=
  if c = '"' then ['\\', '"']
  else if c = '\\' then ['\\', '\\']
  else if c = '\n' then ['\\', 'n']
  else if c = '\r' then ['\\', 'r']
  else if c = '\t' then ['\\', 't']
  else if c = '\x08' then ['\\', 'b']
  else if c = '\x0c' then ['\\', 'f']
  else if c.toNat < 0x20 then
    ['\\', 'u', '0', '0', hexDigit (c.toNat / 16), hexDigit (c.toNat % 16)]
  else [c]

/-- A string in quotes. -/
def quote (s : String) : String :=
  String.ofList ('"' :: s.toList.flatMap escapeChar ++ ['"'])

/-- The text of a number. -/
def Number.text : Number → String
  | .int n => toString n
  | .real x => Decimal.scientific x

mutual

/-- The value on one line. -/
def compact : Json → String
  | null => "null"
  | bool b => if b then "true" else "false"
  | num n => Number.text n
  | str s => quote s
  | arr items => "[" ++ String.intercalate "," (compactItems items) ++ "]"
  | obj members => "\x7b" ++ String.intercalate "," (compactMembers members) ++ "\x7d"

def compactItems : List Json → List String
  | [] => []
  | v :: rest => compact v :: compactItems rest

def compactMembers : List (String × Json) → List String
  | [] => []
  | (k, v) :: rest => (quote k ++ ":" ++ compact v) :: compactMembers rest

end

/-- The parts between brackets, one a line, each indented one level further. -/
def block (opening closing : String) (depth : Nat) (parts : List String) : String :=
  if parts.isEmpty then opening ++ closing
  else
    let inner := "\n" ++ fill (2 * (depth + 1)) ' '
    opening ++ inner ++ String.intercalate ("," ++ inner) parts ++ "\n" ++ fill (2 * depth) ' ' ++
      closing

mutual

/-- The value with one member or item a line, at the given level. -/
def prettyAt : Nat → Json → String
  | _, null => "null"
  | _, bool b => if b then "true" else "false"
  | _, num n => Number.text n
  | _, str s => quote s
  | depth, arr items => block "[" "]" depth (prettyItems (depth + 1) items)
  | depth, obj members => block "\x7b" "\x7d" depth (prettyMembers (depth + 1) members)

def prettyItems : Nat → List Json → List String
  | _, [] => []
  | depth, v :: rest => prettyAt depth v :: prettyItems depth rest

def prettyMembers : Nat → List (String × Json) → List String
  | _, [] => []
  | depth, (k, v) :: rest =>
    (quote k ++ ": " ++ prettyAt depth v) :: prettyMembers depth rest

end

/-- The value in the indented layout. -/
def pretty (v : Json) : String :=
  prettyAt 0 v

end StorageSetup.Json
