/-!
# DER values

The binary form of certificates: a tag, a length and a content, the content of a constructed value
being again a row of values.

Key definitions:
- `Der.Value`: tag and content
- `Der.read?`, `Der.readAll?`: the first value, or all values, of some bytes
- `Der.oid?`: the numbers of an object identifier
-/

namespace StorageSetup.Der

/-- One value: the two class bits, whether it is constructed, its tag number and its content. -/
structure Value where
  tagClass : Nat
  constructed : Bool
  tag : Nat
  content : List UInt8
  deriving DecidableEq, Repr

/-- The number written by the bytes, most significant first. -/
def bigEndian (bytes : List UInt8) : Nat :=
  bytes.foldl (fun n b => n * 256 + b.toNat) 0

/-- The groups of seven bits of a number, up to the first byte without its high bit. -/
def base128? : Nat → List UInt8 → Option (Nat × List UInt8)
  | _, [] => none
  | acc, b :: rest =>
    let next := acc * 128 + b.toNat % 128
    if b.toNat < 128 then some (next, rest) else base128? next rest

/-- The tag number behind the first byte. -/
def tagNumber? (first : Nat) (rest : List UInt8) : Option (Nat × List UInt8) :=
  if first % 32 = 31 then base128? 0 rest else some (first % 32, rest)

/-- The length of a content; the indefinite form is not allowed. -/
def length? : List UInt8 → Option (Nat × List UInt8)
  | [] => none
  | b :: rest =>
    if b.toNat < 128 then some (b.toNat, rest)
    else
      let count := b.toNat - 128
      if count = 0 || 8 < count || rest.length < count then none
      else some (bigEndian (rest.take count), rest.drop count)

/-- The first value and the bytes after it. -/
def read? : List UInt8 → Option (Value × List UInt8)
  | [] => none
  | first :: rest => do
    let (tag, rest) ← tagNumber? first.toNat rest
    let (n, rest) ← length? rest
    if rest.length < n then none
    else
      some (⟨first.toNat / 64, first.toNat / 32 % 2 == 1, tag, rest.take n⟩, rest.drop n)

/-- All values of the bytes, at most `count` of them. -/
def readAll? : Nat → List UInt8 → Option (List Value)
  | _, [] => some []
  | 0, _ :: _ => none
  | count + 1, b :: bytes => do
    let (v, rest) ← read? (b :: bytes)
    let vs ← readAll? count rest
    some (v :: vs)

/-- All values in the content of a constructed one. -/
def Value.parts? (v : Value) : Option (List Value) :=
  readAll? v.content.length v.content

/-- The value is of the universal class with the tag. -/
def Value.isUniversal (v : Value) (tag : Nat) : Bool :=
  v.tagClass == 0 && v.tag == tag

/-- The value carries a tag of the context. -/
def Value.isContext (v : Value) (tag : Nat) : Bool :=
  v.tagClass == 2 && v.tag == tag

/-- Reads a value of the universal class with the tag. -/
def readTagged? (tag : Nat) (bytes : List UInt8) : Option (Value × List UInt8) := do
  let (v, rest) ← read? bytes
  if v.isUniversal tag then some (v, rest) else none

def readSequence? (bytes : List UInt8) : Option (List UInt8 × List UInt8) :=
  (readTagged? 16 bytes).map fun (v, rest) => (v.content, rest)

/-- The groups of an object identifier; the last byte ends a group. -/
def groups? : Nat → List UInt8 → Option (List Nat)
  | _, [] => some []
  | 0, _ :: _ => none
  | fuel + 1, b :: bytes => do
    let (n, rest) ← base128? 0 (b :: bytes)
    let ns ← groups? fuel rest
    some (n :: ns)

/-- The numbers of an object identifier; the first group holds two of them. -/
def oid? (content : List UInt8) : Option (List Nat) := do
  match ← groups? content.length content with
  | [] => none
  | n :: rest =>
    let top := min (n / 40) 2
    some (top :: (n - 40 * top) :: rest)

/-- Reads an object identifier. -/
def readOid? (bytes : List UInt8) : Option (List Nat × List UInt8) := do
  let (v, rest) ← readTagged? 6 bytes
  let oid ← oid? v.content
  some (oid, rest)

/-- Reads bits, whose first byte counts the unused ones. -/
def readBits? (bytes : List UInt8) : Option (List UInt8 × List UInt8) := do
  let (v, rest) ← readTagged? 3 bytes
  match v.content with
  | [] => none
  | unused :: bits => if 7 < unused.toNat then none else some (bits, rest)

end StorageSetup.Der
