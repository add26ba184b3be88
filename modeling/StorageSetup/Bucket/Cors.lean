import StorageSetup.Json.Parser
import StorageSetup.Json.Decode
/-!
# Cross-origin rules

The rules under which pages of other origins may use a bucket.

Key definitions:
- `Cors`, `CorsRule`: the document and its JSON form
- `Cors.validate`: the checks, `CorsError` what they find
-/

namespace StorageSetup.Bucket

open Json (Decoder required defaulted)

/-- One rule. -/
structure CorsRule where
  id : Option String
  allowedHeaders : List String
  allowedMethods : List String
  allowedOrigins : List String
  exposeHeaders : List String
  maxAgeSeconds : Option UInt32
  deriving DecidableEq

namespace CorsRule

/-- A list that is left out when it is empty. -/
def maybeList (name : String) (items : List String) : List (String × Json) :=
  if items.isEmpty then [] else [(name, .strings items)]

def toJson (c : CorsRule) : Json :=
  .obj ((c.id.map fun id => ("ID", Json.str id)).toList ++
    maybeList "AllowedHeaders" c.allowedHeaders ++ [
    ("AllowedMethods", .strings c.allowedMethods),
    ("AllowedOrigins", .strings c.allowedOrigins)] ++
    maybeList "ExposeHeaders" c.exposeHeaders ++
    (c.maxAgeSeconds.map fun n => ("MaxAgeSeconds", Json.nat n.toNat)).toList)

def decode : Decoder CorsRule := fun r v => do
  let (id, allowedHeaders, allowedMethods, allowedOrigins, exposeHeaders, maxAgeSeconds, ()) ←
    Json.record "CorsRule"
      (.cons (defaulted "ID" (Json.optional Json.text) none) <|
        .cons (defaulted "AllowedHeaders" (Json.list Json.text) []) <|
        .cons (required "AllowedMethods" (Json.list Json.text)) <|
        .cons (required "AllowedOrigins" (Json.list Json.text)) <|
        .cons (defaulted "ExposeHeaders" (Json.list Json.text) []) <|
        .cons (defaulted "MaxAgeSeconds" (Json.optional Json.word32) none) .nil) r v
  .ok ⟨id, allowedHeaders, allowedMethods, allowedOrigins, exposeHeaders,
    maxAgeSeconds.map UInt32.ofNat⟩

def shape : Json.Shape :=
  .named ["ID", "AllowedHeaders", "AllowedMethods", "AllowedOrigins", "ExposeHeaders",
    "MaxAgeSeconds"]

end CorsRule

/-- The rules of a bucket. -/
structure Cors where
  rules : List CorsRule
  deriving DecidableEq

/-- What is wrong with a rule. -/
inductive CorsRuleError where
  | noMethods
  | unsupportedMethod (method : String)
  | noOrigins
  | originWildcards (origin : String)
  | headerWildcards (header : String)
  deriving DecidableEq, Repr

def CorsRuleError.message : CorsRuleError → String
  | noMethods => "no allowed methods"
  | unsupportedMethod method => "unsupported method " ++ method
  | noOrigins => "no allowed origins"
  | originWildcards origin => "origin " ++ origin ++ " has more than one wildcard"
  | headerWildcards header => "header " ++ header ++ " has more than one wildcard"

/-- What is wrong with the rules. -/
inductive CorsError where
  | noRules
  | tooManyRules
  | rule (index : Nat) (reason : CorsRuleError)
  deriving DecidableEq, Repr

/-- The greatest number of rules. -/
def maxCorsRules : Nat := 100

def CorsError.message : CorsError → String
  | noRules => "CORS configuration has no rules"
  | tooManyRules => "at most " ++ toString maxCorsRules ++ " CORS rules are allowed"
  | rule index reason => "rule " ++ toString index ++ ": " ++ reason.message

def corsMethods : List String := ["GET", "PUT", "POST", "DELETE", "HEAD"]

/-- The text has more than one star. -/
def manyWildcards (s : String) : Bool :=
  1 < s.toList.count '*'

/-- The checks of one rule. -/
def CorsRule.validate (c : CorsRule) : Except CorsRuleError Unit :=
  if c.allowedMethods.isEmpty then .error .noMethods
  else match c.allowedMethods.find? fun m => !corsMethods.contains m with
  | some method => .error (.unsupportedMethod method)
  | none =>
    if c.allowedOrigins.isEmpty then .error .noOrigins
    else match c.allowedOrigins.find? manyWildcards with
    | some origin => .error (.originWildcards origin)
    | none =>
      match c.allowedHeaders.find? manyWildcards with
      | some header => .error (.headerWildcards header)
      | none => .ok ()

/-- The checks of the rules in order, from the given index on. -/
def validateRules : Nat → List CorsRule → Except CorsError Unit
  | _, [] => .ok ()
  | index, c :: rest =>
    match c.validate with
    | .error reason => .error (.rule index reason)
    | .ok _ => validateRules (index + 1) rest

namespace Cors

def toJson (c : Cors) : Json :=
  .obj [("CORSRules", .arr (c.rules.map CorsRule.toJson))]

def decode : Decoder Cors := fun r v => do
  let (rules, ()) ← Json.record "CorsConfiguration"
    (.cons (required "CORSRules" (Json.list CorsRule.decode)) .nil) r v
  .ok ⟨rules⟩

def shape : Json.Shape :=
  .record [("CORSRules", .items CorsRule.shape)]

/-- The rules of a JSON text. -/
def parse? (raw : String) : Option Cors :=
  (Json.parseAs? shape raw).bind fun v => (decode .direct v).toOption

/-- The checks of all rules. -/
def validate (c : Cors) : Except CorsError Unit :=
  if c.rules.isEmpty then .error .noRules
  else if maxCorsRules < c.rules.length then .error .tooManyRules
  else validateRules 0 c.rules

end Cors

end StorageSetup.Bucket
