import StorageSetup.Json.Basic
import StorageSetup.Decimal.Shortest
import StorageSetup.Text.Mark
/-!
# Decoding JSON values

Typed values are read from JSON by decoders that say what they expected and what they met. The
members of an object are visited in the order it lists them, so of two faults the first one met is
reported, and a missing member only when no member is at fault.

Key definitions:
- `DecodeError`: the causes, `DecodeError.message` their wording
- `Decoder`: a reader of a typed value
- `Field`, `Fields`, `record`: decoding of a fixed set of members, or of a list in their order
- `variant`: one of a set of names
- `tagged`: a name that decides how the value beside it is read

A value inside an object of a tagged form is read after the whole object was taken in, any other
as it stands. The `Reading` says which; it shows in the wording for lists that are too long and in
the ways a tag may be written.
-/

namespace StorageSetup.Json

/-- What stood in the place of an expected value. -/
inductive Found where
  | null
  | bool (b : Bool)
  | int (n : Int)
  | real (x : Float)
  | text (s : String)
  | list
  | object

/-- The reasons a value does not decode. -/
inductive DecodeError where
  | wrongType (found : Found) (expected : String)
  | wrongValue (found : Found) (expected : String)
  | wrongLength (length : Nat) (expected : String)
  | unknownVariant (name : String) (names : List String)
  | missingField (name : String)
  | duplicateField (name : String)

/-- The rest of a text inside quotes, with the characters that would not show escaped. -/
def showChar (c : Char) : String :=
  if c = '"' then "\\\""
  else if c = '\\' then "\\\\"
  else if c = '\n' then "\\n"
  else if c = '\r' then "\\r"
  else if c = '\t' then "\\t"
  else if c = '\x00' then "\\0"
  else if Text.isShown c then String.singleton c
  else "\\u\x7b" ++ String.ofList (Nat.toDigits 16 c.toNat) ++ "\x7d"

/-- A text in quotes as it appears in a message. -/
def showText (s : String) : String :=
  "\"" ++ String.join (s.toList.map showChar) ++ "\""

def Found.message : Found → String
  | .null => "null"
  | .bool b => "boolean `" ++ (if b then "true" else "false") ++ "`"
  | .int n => "integer `" ++ toString n ++ "`"
  | .real x => "floating point `" ++ Decimal.scientific x ++ "`"
  | .text s => "string " ++ showText s
  | .list => "sequence"
  | .object => "map"

/-- The names a variant may have, as a phrase. -/
def oneOf (names : List String) : String :=
  let quoted := names.map fun n => "`" ++ n ++ "`"
  match quoted with
  | [] => "there are no variants"
  | [a] => "expected " ++ a
  | [a, b] => "expected " ++ a ++ " or " ++ b
  | _ => "expected one of " ++ String.intercalate ", " quoted

def DecodeError.message : DecodeError → String
  | .wrongType found expected => "invalid type: " ++ found.message ++ ", expected " ++ expected
  | .wrongValue found expected => "invalid value: " ++ found.message ++ ", expected " ++ expected
  | .wrongLength n expected => "invalid length " ++ toString n ++ ", expected " ++ expected
  | .unknownVariant name names => "unknown variant `" ++ name ++ "`, " ++ oneOf names
  | .missingField name => "missing field `" ++ name ++ "`"
  | .duplicateField name => "duplicate field `" ++ name ++ "`"

/-- Whether the value is read as it stands or out of an object already taken in. -/
inductive Reading where
  | direct
  | buffered
  deriving DecidableEq, Repr

/-- A reader of typed values. -/
abbrev Decoder (α : Type) := Reading → Json → Except DecodeError α

/-- What a value is, for a message. -/
def found : Json → Found
  | null => .null
  | bool b => .bool b
  | num (.int n) => .int n
  | num (.real x) => .real x
  | str s => .text s
  | arr _ => .list
  | obj _ => .object

/-- The error for a value of the wrong shape. -/
def mismatch {α : Type} (expected : String) (v : Json) : Except DecodeError α :=
  .error (.wrongType (found v) expected)

def text : Decoder String := fun _ v =>
  match v with
  | str s => .ok s
  | _ => mismatch "a string" v

def boolean : Decoder Bool := fun _ v =>
  match v with
  | bool b => .ok b
  | _ => mismatch "a boolean" v

/-- A natural number below a bound, described by the name of its width. -/
def natBelow (bound : Nat) (name : String) : Decoder Nat := fun _ v =>
  match v with
  | num (.int (.ofNat n)) =>
    if n < bound then .ok n else .error (.wrongValue (.int (.ofNat n)) name)
  | num (.int n) => .error (.wrongValue (.int n) name)
  | _ => mismatch name v

/-- A number of 32 bits. -/
def word32 : Decoder Nat := natBelow (Nat.pow 2 32) "u32"

/-- A number of 64 bits. -/
def word64 : Decoder Nat := natBelow (Nat.pow 2 64) "u64"

/-- The double nearest to an integer of 64 bits. -/
def floatOfInt : Int → Float
  | .ofNat n => (UInt64.ofNat n).toFloat
  | .negSucc n => -(UInt64.ofNat (n + 1)).toFloat

def float : Decoder Float := fun _ v =>
  match v with
  | num (.real x) => .ok x
  | num (.int n) => .ok (floatOfInt n)
  | _ => mismatch "f64" v

/-- Every item of a list decoded, in order. -/
def decodeAll {α : Type} (d : Decoder α) (r : Reading) : List Json → Except DecodeError (List α)
  | [] => .ok []
  | v :: rest => do
    let a ← d r v
    let as ← decodeAll d r rest
    .ok (a :: as)

def list {α : Type} (d : Decoder α) : Decoder (List α) := fun r v =>
  match v with
  | arr items => decodeAll d r items
  | _ => mismatch "a sequence" v

/-- A value or null. -/
def optional {α : Type} (d : Decoder α) : Decoder (Option α) := fun r v =>
  match v with
  | null => .ok none
  | _ => (d r v).map some

/-- Every member of an object decoded, in order. -/
def decodeMembers {α : Type} (d : Decoder α) (r : Reading) :
    List (String × Json) → Except DecodeError (List (String × α))
  | [] => .ok []
  | (k, v) :: rest => do
    let a ← d r v
    let as ← decodeMembers d r rest
    .ok ((k, a) :: as)

def dict {α : Type} (d : Decoder α) : Decoder (Dict α) := fun r v =>
  match v with
  | obj ms => (decodeMembers d r ms).map Dict.ofList
  | _ => mismatch "a map" v

/-- Any value, in canonical form. -/
def anything : Decoder Json := fun _ v =>
  .ok v.canonical

/-- Only null. -/
def unit (v : Json) : Except DecodeError Unit :=
  match v with
  | null => .ok ()
  | _ => mismatch "unit" v

/-- The value listed under a name. -/
def lookupVariant {α : Type} (variants : List (String × α)) (name : String) :
    Except DecodeError α :=
  match lookupEntry name variants with
  | some a => .ok a
  | none => .error (.unknownVariant name (variants.map (·.1)))

/-- One of the listed names: a text, or an object with the name as its only member and null under
it. -/
def variant {α : Type} (variants : List (String × α)) : Decoder α := fun _ v =>
  match v with
  | str s => lookupVariant variants s
  | obj [(k, v)] => do
    let a ← lookupVariant variants k
    unit v
    .ok a
  | obj _ => .error (.wrongValue .object "map with a single key")
  | _ => mismatch "string or map" v

/-- A member of a record. -/
structure Field (α : Type) where
  name : String
  decode : Decoder α
  /-- The value of a member that is missing, if it may be. -/
  absent : Option α := none
  /-- The value of a missing place at the end of a list, if it may be missing. -/
  absentInList : Option α := none

/-- A member that must be present. -/
def required {α : Type} (name : String) (d : Decoder α) : Field α :=
  { name, decode := d }

/-- A member that may be missing or null. -/
def nullable {α : Type} (name : String) (d : Decoder α) : Field (Option α) :=
  { name, decode := optional d, absent := some none }

/-- A member with a value of its own when missing. -/
def defaulted {α : Type} (name : String) (d : Decoder α) (value : α) : Field α :=
  { name, decode := d, absent := some value, absentInList := some value }

/-- The members of a record in their order. -/
inductive Fields : List Type → Type 1 where
  | nil : Fields []
  | cons {α : Type} {αs : List Type} (field : Field α) (rest : Fields αs) : Fields (α :: αs)

/-- The values of a record, one a member. -/
@[reducible] def Values : List Type → Type
  | [] => Unit
  | α :: αs => α × Values αs

/-- The values met so far. -/
@[reducible] def Slots : List Type → Type
  | [] => Unit
  | α :: αs => Option α × Slots αs

namespace Fields

def count : {αs : List Type} → Fields αs → Nat
  | _, nil => 0
  | _, cons _ rest => rest.count + 1

/-- No value met yet. -/
def blank : {αs : List Type} → Fields αs → Slots αs
  | _, nil => ()
  | _, cons _ rest => (none, rest.blank)

/-- Takes in one member of the object; a name that is no field is ignored. -/
def visit (r : Reading) (name : String) (v : Json) :
    {αs : List Type} → Fields αs → Slots αs → Except DecodeError (Slots αs)
  | _, nil, () => .ok ()
  | _, cons field rest, (slot, slots) =>
    if field.name = name then
      if slot.isSome then .error (.duplicateField name)
      else (field.decode r v).map fun a => (some a, slots)
    else (rest.visit r name v slots).map fun slots => (slot, slots)

/-- Takes in the members in order. -/
def visitAll (r : Reading) {αs : List Type} (fs : Fields αs) :
    List (String × Json) → Slots αs → Except DecodeError (Slots αs)
  | [], slots => .ok slots
  | (k, v) :: rest, slots => do
    let slots ← fs.visit r k v slots
    fs.visitAll r rest slots

/-- Fills in what may be missing; the first field that may not is reported. -/
def finish : {αs : List Type} → Fields αs → Slots αs → Except DecodeError (Values αs)
  | _, nil, () => .ok ()
  | _, cons field rest, (slot, slots) => do
    let a ← match slot.or field.absent with
      | some a => Except.ok a
      | none => Except.error (DecodeError.missingField field.name)
    let as ← rest.finish slots
    .ok (a, as)

/-- Takes the fields from a list in their order, `index` of them taken already. -/
def fromList (r : Reading) (expected : String) :
    {αs : List Type} → Fields αs → Nat → List Json → Except DecodeError (Values αs × List Json)
  | _, nil, _, items => .ok ((), items)
  | _, cons field rest, index, [] =>
    match field.absentInList with
    | some a => do
      let (as, left) ← rest.fromList r expected (index + 1) []
      .ok ((a, as), left)
    | none => .error (.wrongLength index expected)
  | _, cons field rest, index, v :: items => do
    let a ← field.decode r v
    let (as, left) ← rest.fromList r expected (index + 1) items
    .ok ((a, as), left)

end Fields

/-- A number of elements as a phrase. -/
def elements (n : Nat) : String :=
  if n = 1 then "1 element" else toString n ++ " elements"

/-- The error for a list with more items than there are places. -/
def tooLong {α : Type} (r : Reading) (length places : Nat) : Except DecodeError α :=
  .error <| .wrongLength length <| match r with
    | .direct => "fewer elements in array"
    | .buffered => elements places ++ " in sequence"

/-- The values of a record, from an object or from a list in the order of the fields. -/
def record {αs : List Type} (name : String) (fs : Fields αs) : Decoder (Values αs) := fun r v =>
  match v with
  | obj ms => do
    let slots ← fs.visitAll r ms fs.blank
    fs.finish slots
  | arr items => do
    let (values, left) ←
      fs.fromList r ("struct " ++ name ++ " with " ++ elements fs.count) 0 items
    if left.isEmpty then .ok values else tooLong r items.length fs.count
  | _ => mismatch ("struct " ++ name) v

/-- How the value beside a tag is read. -/
structure Content (α : Type) where
  decode : Decoder α
  /-- The value when there is nothing beside the tag, if that is allowed. -/
  absent : Option α := none

/-- A tag that comes first in a list: its name, or its position where the list was buffered. -/
def tagInList {α : Type} (variants : List (String × α)) : Decoder α := fun r v =>
  match v, r with
  | str s, _ => lookupVariant variants s
  | num (.int (.ofNat n)), .buffered =>
    match variants[n]? with
    | some (_, a) => .ok a
    | none => .error
      (.wrongValue (.int (.ofNat n)) ("variant index 0 <= i < " ++ toString variants.length))
  | _, _ => mismatch "variant identifier" v

/-- A value whose kind stands beside it: an object with the members `tag` and `content`, or a list
of the two. Where `content` sorts before `tag` the content is buffered. -/
def tagged {α : Type} (name tag content : String) (variants : List (String × Content α)) :
    Decoder α := fun r v =>
  let phrase := "adjacently tagged enum " ++ name
  match v with
  | obj ms =>
    match lookupEntry tag ms with
    | none => .error (.missingField tag)
    | some t => do
      let c ← variant variants r t
      match lookupEntry content ms, c.absent with
      | some v, _ => c.decode (if content < tag then .buffered else r) v
      | none, some a => .ok a
      | none, none => .error (.missingField content)
  | arr [] => .error (.wrongLength 0 phrase)
  | arr (t :: rest) => do
    let c ← tagInList variants r t
    match rest with
    | [] => .error (.wrongLength 1 phrase)
    | [v] => c.decode r v
    | v :: _ => do
      let _ ← c.decode r v
      tooLong r (rest.length + 1) 2
  | _ => mismatch phrase v

end StorageSetup.Json
