import StorageSetup.Yaml.Style
/-!
# Writing YAML

A value is written as lines in block style: a mapping has a line for each key, a sequence one for
each item behind a dash. What a key or an item holds is indented by two blanks, except that a
sequence begins in the column of its key. Empty collections are written in brackets.

Key definitions:
- `linesOf`: the lines of a value
- `render`: a document
-/

namespace StorageSetup.Yaml

/-- A line further in; empty lines stay empty. -/
def indent (line : String) : String :=
  if line.isEmpty then line else "  " ++ line

/-- Lines behind a mark, the first beside it and the others further in. -/
def hang (mark : String) : List String → List String
  | [] => [mark]
  | line :: rest => (mark ++ line) :: rest.map indent

/-- A key that can stand in front of its colon: one line, and not too long. -/
def isSimpleKey (key : String) : Bool :=
  key.utf8ByteSize ≤ 128 && !key.toList.any isBreak

/-- A key with the lines of its value. -/
def writeMember (key : String) (value : Json) (lines : List String) : List String :=
  if isSimpleKey key then
    let mark := String.join (writeText key) ++ ":"
    match value with
    | .obj (_ :: _) => mark :: lines.map indent
    | .arr (_ :: _) => mark :: lines
    | _ => hang (mark ++ " ") lines
  else hang "? " (writeText key) ++ hang ": " lines

mutual

/-- The lines of a value. -/
def linesOf : Json → List String
  | .null => ["null"]
  | .bool b => [if b then "true" else "false"]
  | .num n => [Json.Number.text n]
  | .str s => writeText s
  | .arr [] => ["[]"]
  | .arr items => itemLines items
  | .obj [] => ["\x7b\x7d"]
  | .obj members => memberLines members

def itemLines : List Json → List String
  | [] => []
  | v :: rest => hang "- " (linesOf v) ++ itemLines rest

def memberLines : List (String × Json) → List String
  | [] => []
  | (k, v) :: rest => writeMember k v (linesOf v) ++ memberLines rest

end

/-- A value as a document. -/
def render (v : Json) : String :=
  String.join ((linesOf v).map (· ++ "\n"))

end StorageSetup.Yaml
