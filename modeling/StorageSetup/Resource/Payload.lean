import StorageSetup.Json.Basic
import StorageSetup.Resource.Model
import StorageSetup.Text.Base64
/-!
# Payloads

A payload is a resource ready to be created: the coordinates of its kind, its namespace and its
body. Secrets and config maps are built here, the larger kinds in modules of their own.

Key definitions:
- `Payload`, `Payload.ofObject`: a resource with its body
- `PayloadError`: why a resource cannot be built
- `stringSecret`, `dataSecret`, `configMap`: small maps of texts
-/

namespace StorageSetup

/-- The reasons a resource cannot be built. -/
inductive PayloadError where
  | notAnObject (kind : String)
  | emptyVolumeSetName
  | noStorageClass
  | noCapacity
  | missingKeyFiles
  | emptyClusterDetails
  /-- The details of an external cluster are no list of resources. -/
  | malformedClusterDetails
  deriving DecidableEq, Repr

def PayloadError.message : PayloadError → String
  | notAnObject kind => "Cannot build payload: " ++ kind ++ " body is not an object"
  | emptyVolumeSetName => "Cannot build payload: volume set name is empty"
  | noStorageClass => "Cannot build payload: no storage class selected"
  | noCapacity => "Cannot build payload: no capacity selected"
  | missingKeyFiles => "Cannot build payload: client-side certificates enabled without key files"
  | emptyClusterDetails => "Cannot build payload: external cluster details are empty"
  | malformedClusterDetails => "JSON error"

/-- A resource to create. -/
structure Payload where
  model : ResourceModel
  namespaceName : Option String
  body : Json
  deriving Inhabited

namespace Payload

/-- The members of a body with the version and kind of its model. -/
def withKind (model : ResourceModel) (members : List (String × Json)) :
    List (String × Json) :=
  insertEntry "kind" (.str model.kind)
    (insertEntry "apiVersion" (.str model.apiVersion) (sortEntries members))

/-- A resource from the members of its body. -/
def ofMembers (model : ResourceModel) (namespaceName : Option String)
    (members : List (String × Json)) : Payload :=
  ⟨model, namespaceName, .obj (withKind model members)⟩

/-- A resource from any value; only objects make a body. -/
def ofObject (model : ResourceModel) (namespaceName : Option String) (object : Json) :
    Except PayloadError Payload :=
  match object.canonical with
  | .obj members => .ok (ofMembers model namespaceName members)
  | _ => .error (.notAnObject model.kind)

/-- The name in the metadata, empty when there is none. -/
def name (p : Payload) : String :=
  ((p.body.at? ["metadata", "name"]).bind Json.string?).getD ""

/-- Kind and name in one word. -/
def describe (p : Payload) : String :=
  p.model.kind ++ "/" ++ p.name

end Payload

/-- The metadata of a resource, annotations left out where there are none. -/
def metadata (name : String) (namespaceName : String)
    (annotations : List (String × Json) := []) : Json :=
  .obj ((if annotations.isEmpty then [] else [("annotations", .obj annotations)]) ++
    [("name", .str name), ("namespace", .str namespaceName)])

/-- A secret with its values as texts. -/
def stringSecret (name namespaceName : String) (data : Dict String) : Payload :=
  .ofMembers .secret (some namespaceName) [
    ("metadata", metadata name namespaceName),
    ("stringData", .texts data),
    ("type", .str "Opaque")]

/-- A secret with its values in base64. -/
def dataSecret (name namespaceName : String) (data : Dict String) : Payload :=
  .ofMembers .secret (some namespaceName) [
    ("data", .ofDict (fun v => .str (Text.Base64.encodeText v)) data),
    ("metadata", metadata name namespaceName),
    ("type", .str "Opaque")]

/-- A config map. -/
def configMap (name namespaceName : String) (data : Dict String) : Payload :=
  .ofMembers .configMap (some namespaceName) [
    ("data", .texts data),
    ("metadata", metadata name namespaceName)]

end StorageSetup
