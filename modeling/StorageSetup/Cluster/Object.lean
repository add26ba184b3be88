import StorageSetup.Cluster.Timestamp
import StorageSetup.Json.Decode
/-!
# Objects of the API

Objects are read with the members that the API knows. A member that is null counts as missing, a
missing member that must be there counts as empty, and members of other names are dropped.

Key definitions:
- `Known`, `Json.known`: the members of an object and how each is checked
- `Json.objectMeta`: the metadata of an object
- `manifest`: an object of any kind
-/

namespace StorageSetup

open Json (Decoder)

/-- A member the API knows. -/
structure Known where
  name : String
  /-- Checks the member and gives the form in which it is written again. -/
  keep : Decoder Json
  /-- What is written for a missing member, if anything. -/
  absent : Option Json := none

namespace Json

/-- A text kept as it is. -/
def keepText : Decoder Json := fun r v =>
  (text r v).map .str

def keepBool : Decoder Json := fun r v =>
  (boolean r v).map .bool

/-- A number of 64 bits with a sign, kept as it is. -/
def keepInt : Decoder Json := fun _ v =>
  match v with
  | num (.int n) =>
    if -Int.ofNat (Nat.pow 2 63) ≤ n && n < Int.ofNat (Nat.pow 2 63) then .ok v else .error (.wrongValue (.int n) "i64")
  | _ => mismatch "i64" v

/-- A point in time. -/
def keepTime : Decoder Json := fun _ v =>
  let phrase := "an RFC 3339 formatted date and time string"
  match v with
  | str s =>
    match Time.normalTimestamp? s with
    | some t => .ok (str t)
    | none => .error (.wrongValue (.text s) phrase)
  | _ => mismatch phrase v

def keepTexts : Decoder Json := fun r v =>
  (dict text r v).map .texts

/-- A list with every item kept. -/
def keepList (keep : Decoder Json) : Decoder Json := fun r v =>
  (list keep r v).map .arr

/-- The members of an object that are known, in their order. -/
def keepKnown (r : Reading) (members : List (String × Json)) :
    List Known → Except DecodeError (List (String × Json))
  | [] => .ok []
  | k :: rest => do
    let here ← match lookupEntry k.name members with
      | none => .ok k.absent
      | some v => (optional k.keep r v).map (·.or k.absent)
    let others ← keepKnown r members rest
    .ok ((here.map fun v => (k.name, v)).toList ++ others)

/-- An object with the known members, which are listed by name in increasing order. -/
def known (name : String) (members : List Known) : Decoder Json := fun r v =>
  match v with
  | obj ms => (keepKnown r ms members).map .obj
  | _ => mismatch name v

/-- A member that is written only where it is given. -/
def maybe (name : String) (keep : Decoder Json) : Known :=
  { name, keep }

/-- A text that is written as empty where it is missing. -/
def always (name : String) : Known :=
  { name, keep := keepText, absent := some (.str "") }

def ownerReference : Decoder Json :=
  known "OwnerReference" [always "apiVersion", maybe "blockOwnerDeletion" keepBool,
    maybe "controller" keepBool, always "kind", always "name", always "uid"]

def managedFields : Decoder Json :=
  known "ManagedFieldsEntry" [maybe "apiVersion" keepText, maybe "fieldsType" keepText,
    maybe "fieldsV1" anything, maybe "manager" keepText, maybe "operation" keepText,
    maybe "subresource" keepText, maybe "time" keepTime]

/-- The metadata of an object. -/
def objectMeta : Decoder Json :=
  known "ObjectMeta" [
    maybe "annotations" keepTexts,
    maybe "creationTimestamp" keepTime,
    maybe "deletionGracePeriodSeconds" keepInt,
    maybe "deletionTimestamp" keepTime,
    maybe "finalizers" (keepList keepText),
    maybe "generateName" keepText,
    maybe "generation" keepInt,
    maybe "labels" keepTexts,
    maybe "managedFields" (keepList managedFields),
    maybe "name" keepText,
    maybe "namespace" keepText,
    maybe "ownerReferences" (keepList ownerReference),
    maybe "resourceVersion" keepText,
    maybe "selfLink" keepText,
    maybe "uid" keepText]

/-- A text that must be the given one where it is present. -/
def keepExactly (expected : String) : Decoder Json := fun r v => do
  let s ← text r v
  if s = expected then .ok v else .error (.wrongValue (.text s) expected)

/-- Version and kind, which an object may leave out but not have otherwise. -/
def checkKind (apiVersion kind : String) (v : Json) : Except DecodeError Unit := do
  let check (name expected : String) : Except DecodeError Unit :=
    match v.member? name with
    | none => .ok ()
    | some v => do let _ ← keepExactly expected .direct v
  check "apiVersion" apiVersion
  check "kind" kind

end Json

/-- Version and kind of an object of any kind. They are kept together or, when one is missing or
not a text, dropped with what was read of them. -/
def manifestTypes (members : List (String × Json)) : List (String × Json) :=
  match lookupEntry "apiVersion" members, lookupEntry "kind" members with
  | some (.str v), some (.str k) => [("apiVersion", .str v), ("kind", .str k)]
  | some (.str _), _ => []
  | none, _ => []
  | some _, some k => [("kind", k)]
  | some _, none => []

/-- An object of any kind as it is written again: its metadata in the known form, which is present
even where it was missing, and the other members as they are. -/
def manifest : Decoder Json := fun r v =>
  match v with
  | .obj members => do
    let metadata ← match lookupEntry "metadata" members with
      | some m => Json.objectMeta r m
      | none => .ok (.obj [])
    let others := members.filter fun (k, _) => !(["apiVersion", "kind", "metadata"].contains k)
    .ok (Json.object (("metadata", metadata) :: manifestTypes members ++ others)).canonical
  | _ => Json.mismatch "struct DynamicObject" v

end StorageSetup
