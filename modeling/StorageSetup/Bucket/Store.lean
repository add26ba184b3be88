import StorageSetup.Bucket.Cors
import StorageSetup.Bucket.Policy
/-!
# The documents of buckets

Each bucket keeps a policy, cross-origin rules and a public access block. Policies and rules are
checked before they are stored, and a block refuses public policies.

Key definitions:
- `AccessBlock`: the public access block
- `Store`: the documents of the buckets
- `Store.run`: one request, with its answer and the store after it
-/

namespace StorageSetup.Bucket

open Json (Decoder required)

/-- What a bucket refuses to make public. -/
structure AccessBlock where
  blockPublicAcls : Bool
  ignorePublicAcls : Bool
  blockPublicPolicy : Bool
  restrictPublicBuckets : Bool
  deriving DecidableEq, Repr

namespace AccessBlock

/-- The block of everything. -/
def all : AccessBlock := ⟨true, true, true, true⟩

def toJson (b : AccessBlock) : Json :=
  .obj [
    ("BlockPublicAcls", .bool b.blockPublicAcls),
    ("IgnorePublicAcls", .bool b.ignorePublicAcls),
    ("BlockPublicPolicy", .bool b.blockPublicPolicy),
    ("RestrictPublicBuckets", .bool b.restrictPublicBuckets)]

def decode : Decoder AccessBlock := fun r v => do
  let (acls, ignore, policy, restrict, ()) ← Json.record "PublicAccessBlockConfiguration"
    (.cons (required "BlockPublicAcls" Json.boolean) <|
      .cons (required "IgnorePublicAcls" Json.boolean) <|
      .cons (required "BlockPublicPolicy" Json.boolean) <|
      .cons (required "RestrictPublicBuckets" Json.boolean) .nil) r v
  .ok ⟨acls, ignore, policy, restrict⟩

end AccessBlock

/-- The documents of one bucket. -/
structure Documents where
  policy : Option Policy := none
  cors : Option Cors := none
  accessBlock : Option AccessBlock := none

/-- The documents of all buckets. -/
abbrev Store := Dict Documents

/-- Why a request is refused. -/
inductive StoreError where
  | noSuchBucket (bucket : String)
  | accessDenied (bucket : String)
  | invalidPolicy (reason : PolicyError)
  | invalidCors (reason : CorsError)
  deriving DecidableEq, Repr

def StoreError.message : StoreError → String
  | noSuchBucket bucket => "No such bucket: " ++ bucket
  | accessDenied bucket => "Access denied: public policies are blocked on " ++ bucket
  | invalidPolicy reason => "Invalid document: " ++ reason.message
  | invalidCors reason => "Invalid document: " ++ reason.message

/-- A request about one bucket. -/
inductive Request where
  | getPolicy
  | putPolicy (policy : Policy)
  | deletePolicy
  | getCors
  | putCors (cors : Cors)
  | deleteCors
  | getBlock
  | putBlock (block : AccessBlock)

/-- An answer to a request. -/
inductive Answer where
  | policy (policy : Option Policy)
  | cors (cors : Option Cors)
  | block (block : Option AccessBlock)
  | done

namespace Store

/-- Buckets without documents. -/
def ofNames (names : List String) : Store :=
  .ofList (names.map fun n => (n, {}))

/-- The checks of a document that precede the look-up of its bucket. -/
def checkDocument (bucket : String) : Request → Except StoreError Unit
  | .putPolicy policy =>
    match policy.validate (some bucket) with
    | .ok _ => .ok ()
    | .error e => .error (.invalidPolicy e)
  | .putCors cors =>
    match cors.validate with
    | .ok _ => .ok ()
    | .error e => .error (.invalidCors e)
  | _ => .ok ()

/-- The answer of a bucket with its documents after the request. -/
def answer (bucket : String) (d : Documents) : Request → Except StoreError (Answer × Documents)
  | .getPolicy => .ok (.policy d.policy, d)
  | .putPolicy policy =>
    if (d.accessBlock.any (·.blockPublicPolicy)) && policy.isPublic then
      .error (.accessDenied bucket)
    else .ok (.done, { d with policy := some policy })
  | .deletePolicy => .ok (.done, { d with policy := none })
  | .getCors => .ok (.cors d.cors, d)
  | .putCors cors => .ok (.done, { d with cors := some cors })
  | .deleteCors => .ok (.done, { d with cors := none })
  | .getBlock => .ok (.block d.accessBlock, d)
  | .putBlock block => .ok (.done, { d with accessBlock := some block })

/-- One request: its answer and the store after it. A refused request changes nothing. -/
def run (store : Store) (bucket : String) (request : Request) :
    Except StoreError Answer × Store :=
  match checkDocument bucket request with
  | .error e => (.error e, store)
  | .ok _ =>
    match store.get? bucket with
    | none => (.error (.noSuchBucket bucket), store)
    | some d =>
      match answer bucket d request with
      | .error e => (.error e, store)
      | .ok (a, d) => (.ok a, store.insert bucket d)

end Store

end StorageSetup.Bucket
