import StorageSetup.Json.Basic
import StorageSetup.Yaml.Node
import StorageSetup.Yaml.Scalar
import StorageSetup.Yaml.Token.Stream
/-!
# Decoding YAML documents

Typed values and JSON values are read out of a document. A value that is asked for as a text is the
text of its scalar, whatever that could mean otherwise, and a sequence or record that is not
written at all is empty. Collections may nest 128 deep, and aliases are followed at most a hundred
times as often as the document has signs.

Key definitions:
- `Decode`: reading with a count of followed aliases
- `Decode.text`, `Decode.optionalText`, `Decode.sequence`, `Decode.json`: values of nodes
- `Decode.record`: the fields of a mapping
- `Document.decode`: a value of a whole text
-/

namespace StorageSetup.Yaml

/-- Reading from a document, with a count of followed aliases. -/
abbrev Decode (α : Type) := Document → StateT Nat (Except Error) α

namespace Decode

def fail {α : Type} (e : Error) : Decode α :=
  fun _ _ => .error e

/-- The node itself, or the one that an alias stands for. -/
def resolve : Node → Decode Node
  | .aliasOf id => fun doc => do
    let followed ← get
    if 100 * doc.events ≤ followed then throw .tooManyAliases
    else
      set (followed + 1)
      return (doc.anchored.lookup id).getD .blank
  | n => fun _ => return n

/-- The text of a scalar. -/
def text (n : Node) : Decode String := fun doc => do
  match ← resolve n doc with
  | .scalar _ s _ => return s
  | _ => throw (.wrongType "a string")

/-- A tag that demands a kind of scalar. -/
def standardTag (name : String) : String :=
  "tag:yaml.org,2002:" ++ name

/-- The text of a scalar, none where it is null. -/
def optionalText (n : Node) : Decode (Option String) := fun doc => do
  match ← resolve n doc with
  | .scalar tag s true =>
    let absent ← match tag with
      | none => pure (s.isEmpty || isNull s)
      | some t =>
        if t = standardTag "null" then
          if isNull s then pure true else throw (.wrongType "null")
        else pure false
    return if absent then none else some s
  | .scalar _ s false => return some s
  | _ => throw (.wrongType "a string")

/-- A scalar that is not written at all. -/
def isBlank : Node → Bool
  | .scalar _ s plain => plain && s.isEmpty
  | _ => false

/-- The items of a sequence, inside of which `depth` collections may still nest. -/
def sequence {α : Type} (item : Nat → Node → Decode α) (depth : Nat) (n : Node) :
    Decode (List α) := fun doc => do
  match ← resolve n doc, depth with
  | .sequence _ items, depth + 1 => items.mapM fun i => item depth i doc
  | .sequence _ _, 0 => throw .tooDeep
  | n, _ => if isBlank n then return [] else throw (.wrongType "a sequence")

/-- An integer as a JSON number. -/
def jsonInt (n : Int) : Except Error Json :=
  if -Int.ofNat (Nat.pow 2 63) ≤ n && n < Int.ofNat (Nat.pow 2 64) then .ok (.int n) else .error .numberOutOfRange

/-- The value of a plain scalar; one without a number's range is null. -/
def jsonPlain (s : String) : Except Error Json :=
  match Plain.ofText s with
  | .null => .ok .null
  | .bool b => .ok (.bool b)
  | .int n => jsonInt n
  | .real x => .ok (.real x)
  | .text => .ok (.str s)

/-- The value of a scalar. A standard tag demands a kind, and a tag of the document's own has no
value. -/
def jsonScalar (tag : Option String) (s : String) (plain : Bool) : Except Error Json :=
  match tag with
  | none => if plain then jsonPlain s else .ok (.str s)
  | some t =>
    if t.startsWith "!" then .error .unexpectedTag
    else if t = standardTag "bool" then
      match readBool? s with
      | some b => .ok (.bool b)
      | none => .error (.wrongType "a boolean")
    else if t = standardTag "int" then
      match readInt? s.toList with
      | some n => jsonInt n
      | none => .error (.wrongType "an integer")
    else if t = standardTag "float" then
      match readReal? s with
      | some x => .ok (.real x)
      | none => .error (.wrongType "a float")
    else if t = standardTag "null" then
      if isNull s then .ok .null else .error (.wrongType "null")
    else .ok (.str s)

/-- The tag of a collection is one of the document's own. -/
def isOwnTag (tag : Option String) : Bool :=
  tag.any (·.startsWith "!")

/-- Any value as JSON. Keys are texts, and of a repeated key the last value counts. -/
def json : Nat → Node → Decode Json
  | depth, n => fun doc => do
    match ← resolve n doc, depth with
    | .scalar tag s plain, _ => jsonScalar tag s plain
    | .sequence tag items, depth + 1 =>
      if isOwnTag tag then throw .unexpectedTag
      else return .arr (← items.mapM fun i => json depth i doc)
    | .mapping tag entries, depth + 1 =>
      if isOwnTag tag then throw .unexpectedTag
      else
        let members ← entries.mapM fun (k, v) => do
          let name ← text k doc
          let value ← json depth v doc
          return (name, value)
        return Json.object members
    | _, _ => throw .tooDeep

/-- A field of a record: its name and how its value changes the record. -/
structure Setter (α : Type) where
  name : String
  set : Node → α → Decode α

/-- Takes in the entries of a mapping. A name that is no field is ignored, a field given twice
refused. -/
def setFields {α : Type} (setters : List (Setter α)) :
    List (Node × Node) → List String → α → Decode α
  | [], _, a => fun _ => return a
  | (k, v) :: rest, seen, a => fun doc => do
    let name ← text k doc
    match setters.find? (·.name == name) with
    | none => setFields setters rest seen a doc
    | some setter =>
      if seen.contains name then throw (.duplicateField name)
      else
        let a ← setter.set v a doc
        setFields setters rest (name :: seen) a doc

/-- A record from a mapping; fields that are missing keep the value they have. -/
def record {α : Type} (setters : List (Setter α)) (start : α) (n : Node) : Decode α := fun doc => do
  match ← resolve n doc with
  | .mapping _ entries => setFields setters entries [] start doc
  | n => if isBlank n then return start else throw (.wrongType "a map")

end Decode

/-- How deep collections may nest. -/
def maxDepth : Nat := 128

/-- A record from the only document of a text. -/
def readRecord {α : Type} (setters : List (Decode.Setter α)) (start : α) (text : String) :
    Except Error α := do
  let doc ← Document.ofTokens? (← tokens? text)
  match doc.root with
  | none => .ok start
  | some root =>
    let (a, _) ← (Decode.record setters start root doc).run 0
    .ok a

end StorageSetup.Yaml
