import StorageSetup.Text.Base64
import StorageSetup.Text.Blank
/-!
# PEM blocks

Certificates and keys are pasted as PEM: a line that opens a block and names its label, lines of
base64, and a line that closes the block. Lines before the block are skipped and lines after it
are not looked at.

Key definitions:
- `Pem.Block`: label and bytes
- `Pem.Error`: the ways a text fails to hold a block
- `Pem.read`: the first block of a text
-/

namespace StorageSetup.Pem

open StorageSetup.Text

/-- A block of a PEM text. -/
structure Block where
  label : String
  bytes : List UInt8
  deriving DecidableEq, Repr

/-- The ways a text fails to hold a block. -/
inductive Error where
  | missingHeader
  | invalidHeader
  | incomplete
  | base64
  deriving DecidableEq, Repr

def Error.message : Error → String
  | missingHeader => "invalid PEM: Parsing Error: MissingHeader"
  | invalidHeader => "invalid PEM: Parsing Error: InvalidHeader"
  | incomplete => "invalid PEM: Parsing Error: IncompletePEM"
  | base64 => "invalid PEM: Parsing Error: Base64DecodeError"

/-- The lines of a text; nothing follows a last line break. -/
def lines : List Char → List (List Char)
  | [] => []
  | '\n' :: rest => [] :: lines rest
  | c :: rest =>
    match lines rest with
    | [] => [[c]]
    | line :: more => (c :: line) :: more

/-- The text that opens a block. -/
def opening : List Char := "-----BEGIN ".toList

/-- The text that closes a block. -/
def closing : List Char := "-----END ".toList

def dashes : List Char := "-----".toList

/-- The label of an opening line: up to the next dash, and five dashes must follow. -/
def label? (line : List Char) : Option (List Char) :=
  let rest := line.drop opening.length
  let label := rest.takeWhile (· ≠ '-')
  if dashes.isPrefixOf (rest.drop label.length) then some label else none

/-- The characters of the data lines, without blanks at the ends of lines; none when no line
closes the block. -/
def body? : List (List Char) → Option (List Char)
  | [] => none
  | line :: rest =>
    if closing.isPrefixOf line then some []
    else (body? rest).map (trimEnd line ++ ·)

/-- The first block of a text. -/
def read (text : List Char) : Except Error Block :=
  match (lines text).dropWhile fun line => !opening.isPrefixOf line with
  | [] => .error .missingHeader
  | header :: rest =>
    match label? header with
    | none => .error .invalidHeader
    | some label =>
      match body? rest with
      | none => .error .incomplete
      | some chars =>
        match Base64.decode? chars with
        | none => .error .base64
        | some bytes => .ok ⟨String.ofList label, bytes⟩

end StorageSetup.Pem
