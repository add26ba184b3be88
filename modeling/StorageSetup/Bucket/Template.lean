import StorageSetup.Bucket.Policy
import StorageSetup.Text.Blank
/-!
# Ready-made policies

Four policies that are asked for often, filled in for a bucket.
-/

namespace StorageSetup.Bucket

/-- A ready-made policy. -/
inductive Template where
  /-- Anyone may read objects. -/
  | publicRead
  /-- One account may do everything. -/
  | accountAccess
  /-- Requests without transport security are refused. -/
  | secureTransport
  /-- Nobody may delete objects. -/
  | denyDelete
  deriving DecidableEq, Repr

/-- Why a template cannot be filled in. -/
inductive TemplateError where
  | noAccount
  deriving DecidableEq, Repr

def TemplateError.message : TemplateError → String
  | noAccount => "account access needs an account"

namespace Template

/-- The names on the command line. -/
def named : List (String × Template) := [
  ("public-read", publicRead),
  ("account-access", accountAccess),
  ("secure-transport", secureTransport),
  ("deny-delete", denyDelete)]

/-- The bucket as a resource. -/
def bucketArn (bucket : String) : String :=
  arnStart ++ bucket

/-- The objects of the bucket as a resource. -/
def objectsArn (bucket : String) : String :=
  bucketArn bucket ++ "/*"

/-- The condition that a request came without transport security. -/
def insecureTransport : Condition :=
  .ofList [("Bool", .ofList [("aws:SecureTransport", .str "false")])]

/-- The only statement of the policy. -/
def statement (t : Template) (bucket : String) (account : Option String) :
    Except TemplateError Statement :=
  let both := OneOrMany.many [bucketArn bucket, objectsArn bucket]
  match t with
  | publicRead => .ok ⟨some "PublicRead", .allow, .anyone, .one "s3:GetObject",
      .one (objectsArn bucket), none⟩
  | accountAccess =>
    match account with
    | some a =>
      if Text.isBlank a then .error .noAccount
      else .ok ⟨some "AccountAccess", .allow, .aws (.many [a]), .one "s3:*", both, none⟩
    | none => .error .noAccount
  | secureTransport => .ok ⟨some "EnforceSecureTransport", .deny, .anyone, .one "s3:*", both,
      some insecureTransport⟩
  | denyDelete => .ok ⟨some "DenyDelete", .deny, .anyone, .one "s3:DeleteObject",
      .one (objectsArn bucket), none⟩

/-- The policy for a bucket. -/
def render (t : Template) (bucket : String) (account : Option String) :
    Except TemplateError Policy :=
  (t.statement bucket account).map fun s => ⟨policyVersion, [s]⟩

end Template

end StorageSetup.Bucket
