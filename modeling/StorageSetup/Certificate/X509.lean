import StorageSetup.Certificate.Der
import StorageSetup.Certificate.Pem
import StorageSetup.Certificate.Time
/-!
# Certificates

Certificates and keys are looked at before anything is submitted, so that a truncated file is
noticed while it can still be replaced.

Key definitions:
- `Certificate`: subject, issuer, validity and whether it may sign others
- `Certificate.ofDer?`, `Certificate.inspect`: read from bytes, read from a PEM text
- `CertificateError`: why a text holds no certificate
- `isPrivateKeyPem`: the check for keys
-/

namespace StorageSetup

/-- A summary of a certificate. -/
structure Certificate where
  subject : String
  issuer : String
  /-- Bounds of validity in seconds since the start of 1970. -/
  notBefore : Int
  notAfter : Int
  isCa : Bool
  deriving DecidableEq, Repr

namespace Certificate

def isValidAt (c : Certificate) (time : Int) : Bool :=
  c.notBefore ≤ time && time ≤ c.notAfter

/-- The short names of attributes. -/
def attributeNames : List (List Nat × String) := [
  ([2, 5, 4, 3], "CN"),
  ([2, 5, 4, 6], "C"),
  ([2, 5, 4, 7], "L"),
  ([2, 5, 4, 8], "ST"),
  ([2, 5, 4, 10], "O"),
  ([2, 5, 4, 11], "OU"),
  ([0, 9, 2342, 19200300, 100, 1, 25], "DC"),
  ([1, 2, 840, 113549, 1, 9, 1], "Email"),
  ([2, 5, 4, 4], "surname"),
  ([2, 5, 4, 5], "serialNumber"),
  ([2, 5, 4, 9], "streetAddress"),
  ([2, 5, 4, 12], "title"),
  ([2, 5, 4, 13], "description"),
  ([2, 5, 4, 15], "businessCategory"),
  ([2, 5, 4, 16], "postalAddress"),
  ([2, 5, 4, 17], "postalCode"),
  ([2, 5, 4, 41], "name"),
  ([2, 5, 4, 42], "givenName"),
  ([2, 5, 4, 43], "initials"),
  ([2, 5, 4, 44], "generationQualifier"),
  ([2, 5, 4, 46], "dnQualifier"),
  ([2, 5, 4, 65], "pseudonym"),
  ([2, 5, 4, 97], "organizationIdentifier"),
  ([0, 9, 2342, 19200300, 100, 1, 1], "uid"),
  ([1, 2, 840, 113549, 1, 9, 2], "unstructuredName"),
  ([1, 2, 840, 113549, 1, 9, 7], "challengePassword"),
  ([1, 2, 840, 113549, 1, 9, 8], "unstructuredAddress"),
  ([1, 3, 6, 1, 4, 1, 311, 60, 2, 1, 1], "jurisdictionL"),
  ([1, 3, 6, 1, 4, 1, 311, 60, 2, 1, 2], "jurisdictionST"),
  ([1, 3, 6, 1, 4, 1, 311, 60, 2, 1, 3], "jurisdictionC")]

/-- The name of an attribute, its numbers where it has none. -/
def attributeName (oid : List Nat) : String :=
  match attributeNames.find? (·.1 == oid) with
  | some (_, name) => name
  | none => "OID(" ++ String.intercalate "." (oid.map toString) ++ ")"

/-- The tags of texts. -/
def textTags : List Nat := [7, 12, 18, 19, 20, 21, 22, 25, 26, 27, 30]

/-- Two upper-case hexadecimal digits. -/
def hexByte (b : UInt8) : List Char :=
  (Nat.toDigits 16 (256 + b.toNat)).drop 1 |>.map Char.toUpper

/-- The text of an attribute: its characters, or the bytes of a value that is no text. -/
def attributeText? (v : Der.Value) : Option String :=
  if v.tagClass == 0 && textTags.contains v.tag then
    String.fromUTF8? ⟨v.content.toArray⟩
  else some (String.ofList (v.content.flatMap hexByte))

/-- One attribute of a name. -/
structure Attribute where
  oid : List Nat
  value : Der.Value

/-- An attribute of a set. -/
def attribute? (v : Der.Value) : Option Attribute := do
  if !v.isUniversal 16 then none
  else
    let (oid, rest) ← Der.readOid? v.content
    let (value, _) ← Der.read? rest
    some ⟨oid, value⟩

/-- A name: a sequence of sets of attributes. -/
def name? (bytes : List UInt8) : Option (List (List Attribute) × List UInt8) := do
  let (v, rest) ← Der.readTagged? 16 bytes
  let sets ← v.parts?
  let name ← sets.mapM fun set => do
    if !set.isUniversal 17 then none
    else
      let parts ← set.parts?
      parts.mapM attribute?
  some (name, rest)

/-- One attribute as a text. -/
def Attribute.text? (a : Attribute) : Option String :=
  (attributeText? a.value).map fun t => attributeName a.oid ++ "=" ++ t

/-- A name as a text: sets apart by commas, attributes of one set by plus signs. -/
def nameText (name : List (List Attribute)) : String :=
  match name.mapM fun set => set.mapM Attribute.text? with
  | some sets => String.intercalate ", " (sets.map (String.intercalate " + "))
  | none => "<X509Error: Invalid X.509 name>"

/-- A bound of validity. -/
def time? (bytes : List UInt8) : Option (Int × List UInt8) := do
  let (v, rest) ← Der.read? bytes
  let cs := v.content.map fun b => Char.ofNat b.toNat
  if v.isUniversal 23 then (Time.utc? cs).map (·, rest)
  else if v.isUniversal 24 then (Time.generalized? cs).map (·, rest)
  else none

/-- The bounds of validity. -/
def validity? (bytes : List UInt8) : Option ((Int × Int) × List UInt8) := do
  let (content, rest) ← Der.readSequence? bytes
  let (notBefore, content) ← time? content
  let (notAfter, _) ← time? content
  some ((notBefore, notAfter), rest)

/-- An algorithm with its parameters, which are not looked at. -/
def algorithm? (bytes : List UInt8) : Option (List UInt8) := do
  let (content, rest) ← Der.readSequence? bytes
  let _ ← Der.readOid? content
  some rest

/-- A public key with its algorithm. -/
def publicKey? (bytes : List UInt8) : Option (List UInt8) := do
  let (content, rest) ← Der.readSequence? bytes
  let content ← algorithm? content
  let _ ← Der.readBits? content
  some rest

/-- The version, which may be left out. -/
def version? (bytes : List UInt8) : Option (List UInt8) := do
  let (v, rest) ← Der.read? bytes
  if v.isContext 0 then
    let _ ← Der.readTagged? 2 v.content
    some rest
  else some bytes

/-- Skips a value with a tag of the context, if one is there. -/
def skipContext (tag : Nat) (bytes : List UInt8) : List UInt8 :=
  match Der.read? bytes with
  | some (v, rest) => if v.isContext tag then rest else bytes
  | none => bytes

/-- An extension: its identifier and the bytes of its value. -/
def extension? (v : Der.Value) : Option (List Nat × List UInt8) := do
  if !v.isUniversal 16 then none
  else
    let (oid, rest) ← Der.readOid? v.content
    let rest := match Der.readTagged? 1 rest with
      | some (_, rest) => rest
      | none => rest
    let (value, _) ← Der.readTagged? 4 rest
    some (oid, value.content)

/-- The extensions at the end of a certificate. -/
def extensions? (bytes : List UInt8) : Option (List (List Nat × List UInt8)) := do
  if bytes.isEmpty then some []
  else
    let (v, _) ← Der.read? bytes
    if !v.isContext 3 then none
    else
      let (list, _) ← Der.readTagged? 16 v.content
      let parts ← list.parts?
      parts.mapM extension?

/-- The identifier of the basic constraints. -/
def basicConstraints : List Nat := [2, 5, 29, 19]

/-- The basic constraints name an authority. -/
def namesAuthority (value : List UInt8) : Bool :=
  match Der.readSequence? value with
  | some (content, _) =>
    match Der.readTagged? 1 content with
    | some (flag, _) => flag.content.any (· ≠ 0)
    | none => false
  | none => false

/-- The certificate may sign others; constraints given twice do not count. -/
def isAuthority (extensions : List (List Nat × List UInt8)) : Bool :=
  match extensions.filter (·.1 == basicConstraints) with
  | [(_, value)] => namesAuthority value
  | _ => false

/-- The certificate at the start of the bytes. -/
def ofDer? (bytes : List UInt8) : Option Certificate := do
  let (content, _) ← Der.readSequence? bytes
  let (tbs, content) ← Der.readSequence? content
  let tbs ← version? tbs
  let (_, tbs) ← Der.readTagged? 2 tbs
  let tbs ← algorithm? tbs
  let (issuer, tbs) ← name? tbs
  let ((notBefore, notAfter), tbs) ← validity? tbs
  let (subject, tbs) ← name? tbs
  let tbs ← publicKey? tbs
  let extensions ← extensions? (skipContext 2 (skipContext 1 tbs))
  let content ← algorithm? content
  let _ ← Der.readBits? content
  some ⟨nameText subject, nameText issuer, notBefore, notAfter, isAuthority extensions⟩

end Certificate

/-- Why a text holds no certificate. -/
inductive CertificateError where
  | pem (e : Pem.Error)
  | otherLabel (label : String)
  | malformed
  deriving DecidableEq, Repr

def CertificateError.message : CertificateError → String
  | .pem e => "Invalid certificate: " ++ e.message
  | .otherLabel label => "Invalid certificate: expected a CERTIFICATE block, found " ++ label
  | .malformed => "Invalid certificate"

/-- The certificate of a PEM text. -/
def Certificate.inspect (pem : String) : Except CertificateError Certificate :=
  match Pem.read (Text.trimChars pem.toList) with
  | .error e => .error (.pem e)
  | .ok block =>
    if block.label = "CERTIFICATE" then
      match Certificate.ofDer? block.bytes with
      | some c => .ok c
      | none => .error .malformed
    else .error (.otherLabel block.label)

/-- The text looks like a private key. -/
def isPrivateKeyPem (pem : String) : Bool :=
  match Pem.read (Text.trimChars pem.toList) with
  | .error _ => false
  | .ok block => "PRIVATE KEY".toList.isSuffixOf block.label.toList

end StorageSetup
