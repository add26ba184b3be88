import StorageSetup.Json.Parser
import StorageSetup.Json.Decode
/-!
# Bucket policies

A policy lists statements that allow or deny actions on the objects of a bucket. It is checked
before it is stored, and it is public when it lets anyone do something without a condition.

Key definitions:
- `Policy`, `Statement`, `Principal`, `OneOrMany`: the document
- `Policy.toJson`, `Policy.decode`, `Policy.parse?`: its JSON form
- `Policy.isPublic`: access for anyone
- `Policy.validate`: the structural checks, `PolicyError` what they find
-/

namespace StorageSetup.Bucket

open Json (Decoder DecodeError required defaulted)

/-- A single value or a list of values. -/
inductive OneOrMany where
  | one (value : String)
  | many (values : List String)
  deriving DecidableEq, Repr

namespace OneOrMany

def toList : OneOrMany → List String
  | one value => [value]
  | many values => values

/-- No value, or a single empty one. -/
def isEmpty : OneOrMany → Bool
  | one value => value.isEmpty
  | many values => values.isEmpty

def toJson : OneOrMany → Json
  | one value => .str value
  | many values => .strings values

/-- A text, or a list of texts. -/
def decode : Decoder OneOrMany := fun r v =>
  match v with
  | .str s => .ok (one s)
  | .arr items => (Json.decodeAll Json.text r items).map many
  | _ => Json.mismatch "a string or a sequence" v

end OneOrMany

/-- Whether a statement grants or refuses. -/
inductive Effect where
  | allow
  | deny
  deriving DecidableEq, Repr

namespace Effect

def code : Effect → String
  | allow => "Allow"
  | deny => "Deny"

def decode : Decoder Effect := Json.variant [("Allow", allow), ("Deny", deny)]

end Effect

/-- Whom a statement concerns. -/
inductive Principal where
  /-- A bare text; only the star is valid. -/
  | wildcard (text : String)
  | aws (accounts : OneOrMany)
  deriving DecidableEq, Repr

namespace Principal

def anyone : Principal := wildcard "*"

/-- The principal is everyone. -/
def isAnyone : Principal → Bool
  | wildcard text => text == "*"
  | aws accounts => accounts.toList.contains "*"

def toJson : Principal → Json
  | wildcard text => .str text
  | aws accounts => .obj [("AWS", accounts.toJson)]

/-- A text, or an object with the accounts. -/
def decode : Decoder Principal := fun r v =>
  match v with
  | .str s => .ok (wildcard s)
  | .obj _ => do
    let (accounts, ()) ← Json.record "Aws" (.cons (required "AWS" OneOrMany.decode) .nil) r v
    .ok (aws accounts)
  | _ => Json.mismatch "a string or a map" v

end Principal

/-- Operators with the keys they compare and the values to compare with. -/
abbrev Condition := Dict (Dict Json)

/-- A statement of a policy. -/
structure Statement where
  sid : Option String
  effect : Effect
  principal : Principal
  action : OneOrMany
  resource : OneOrMany
  condition : Option Condition

namespace Statement

/-- The members in the order of writing, missing ones left out. -/
def toJson (s : Statement) : Json :=
  .obj ((s.sid.map fun sid => ("Sid", Json.str sid)).toList ++ [
    ("Effect", .str s.effect.code),
    ("Principal", s.principal.toJson),
    ("Action", s.action.toJson),
    ("Resource", s.resource.toJson)] ++
    (s.condition.map fun c => ("Condition", Json.ofDict (Json.ofDict id) c)).toList)

def decode : Decoder Statement := fun r v => do
  let (sid, effect, principal, action, resource, condition, ()) ← Json.record "Statement"
    (.cons (defaulted "Sid" (Json.optional Json.text) none) <|
      .cons (required "Effect" Effect.decode) <|
      .cons (required "Principal" Principal.decode) <|
      .cons (required "Action" OneOrMany.decode) <|
      .cons (required "Resource" OneOrMany.decode) <|
      .cons (defaulted "Condition"
        (Json.optional (Json.dict (Json.dict Json.anything))) none) .nil) r v
  .ok ⟨sid, effect, principal, action, resource, condition⟩

def shape : Json.Shape :=
  .named ["Sid", "Effect", "Principal", "Action", "Resource", "Condition"]

/-- The statement lets anyone do something without a condition. -/
def isPublic (s : Statement) : Bool :=
  s.effect == .allow && s.principal.isAnyone && s.condition.isNone

end Statement

/-- A bucket policy. -/
structure Policy where
  version : String
  statements : List Statement

/-- The current version of the policy language. -/
def policyVersion : String := "2012-10-17"

/-- The version before it, still accepted. -/
def legacyPolicyVersion : String := "2008-10-17"

/-- What is wrong with a statement. -/
inductive StatementError where
  | duplicateSid (sid : String)
  | invalidPrincipal
  | noActions
  | foreignAction (action : String)
  | noResources
  | notAnArn (resource : String)
  | otherBucket (resource bucket : String)
  deriving DecidableEq, Repr

def StatementError.message : StatementError → String
  | duplicateSid sid => "duplicate Sid " ++ sid
  | invalidPrincipal => "principal must be \"*\" or an AWS principal map"
  | noActions => "no actions"
  | foreignAction action => "action " ++ action ++ " is not an s3 action"
  | noResources => "no resources"
  | notAnArn resource => "resource " ++ resource ++ " is not an S3 ARN"
  | otherBucket resource bucket =>
    "resource " ++ resource ++ " does not belong to bucket " ++ bucket

/-- What is wrong with a policy. -/
inductive PolicyError where
  | unsupportedVersion (version : String)
  | noStatements
  | statement (index : Nat) (reason : StatementError)
  deriving DecidableEq, Repr

def PolicyError.message : PolicyError → String
  | unsupportedVersion version => "unsupported policy version " ++ version
  | noStatements => "policy has no statements"
  | statement index reason => "statement " ++ toString index ++ ": " ++ reason.message

/-- How the name of a bucket or object begins as a resource. -/
def arnStart : String := "arn:aws:s3:::"

/-- The bucket a resource names: what follows the beginning, up to the first slash. -/
def resourceBucket? (resource : String) : Option (List Char) :=
  if arnStart.toList.isPrefixOf resource.toList then
    some ((resource.toList.drop arnStart.length).takeWhile (· ≠ '/'))
  else none

/-- Every resource names an object, and where a bucket is given one of that bucket or of all. -/
def checkResources (bucket : Option String) : List String → Except StatementError Unit
  | [] => .ok ()
  | resource :: rest =>
    match resourceBucket? resource with
    | none => .error (.notAnArn resource)
    | some named =>
      match bucket with
      | none => checkResources bucket rest
      | some b =>
        if named = b.toList || named = ['*'] then checkResources bucket rest
        else .error (.otherBucket resource b)

/-- The text of an action of the object store. -/
def isStoreAction (action : String) : Bool :=
  "s3:".toList.isPrefixOf action.toList

/-- The checks of one statement, `seen` the names of the statements before it. -/
def Statement.validate (s : Statement) (bucket : Option String) (seen : List String) :
    Except StatementError Unit := do
  match s.sid with
  | some sid => if seen.contains sid then .error (.duplicateSid sid) else .ok ()
  | none => .ok ()
  match s.principal with
  | .wildcard text => if text ≠ "*" then .error .invalidPrincipal else .ok ()
  | .aws _ => .ok ()
  if s.action.isEmpty then .error .noActions else .ok ()
  match s.action.toList.find? fun a => !isStoreAction a with
  | some action => .error (.foreignAction action)
  | none => .ok ()
  if s.resource.isEmpty then .error .noResources else .ok ()
  checkResources bucket s.resource.toList

/-- The checks of the statements in order, from the given index on. -/
def validateStatements (bucket : Option String) :
    Nat → List String → List Statement → Except PolicyError Unit
  | _, _, [] => .ok ()
  | index, seen, s :: rest =>
    match s.validate bucket seen with
    | .error reason => .error (.statement index reason)
    | .ok _ => validateStatements bucket (index + 1) (s.sid.toList ++ seen) rest

namespace Policy

def toJson (p : Policy) : Json :=
  .obj [("Version", .str p.version), ("Statement", .arr (p.statements.map Statement.toJson))]

def decode : Decoder Policy := fun r v => do
  let (version, statements, ()) ← Json.record "BucketPolicy"
    (.cons (required "Version" Json.text) <|
      .cons (required "Statement" (Json.list Statement.decode)) .nil) r v
  .ok ⟨version, statements⟩

def shape : Json.Shape :=
  .record [("Version", .whole), ("Statement", .items Statement.shape)]

/-- The policy of a JSON text. -/
def parse? (raw : String) : Option Policy :=
  (Json.parseAs? shape raw).bind fun v => (decode .direct v).toOption

/-- Some statement lets anyone do something without a condition. -/
def isPublic (p : Policy) : Bool :=
  p.statements.any Statement.isPublic

/-- The structural checks; with a bucket every resource must belong to it. -/
def validate (p : Policy) (bucket : Option String) : Except PolicyError Unit :=
  if p.version ≠ policyVersion ∧ p.version ≠ legacyPolicyVersion then
    .error (.unsupportedVersion p.version)
  else if p.statements.isEmpty then .error .noStatements
  else validateStatements bucket 0 [] p.statements

end Policy

end StorageSetup.Bucket
