import StorageSetup.Json.Parser
import StorageSetup.Resource.StorageCluster
import StorageSetup.Vendor.Basic
/-!
# External Ceph clusters

The default vendor. The user pastes the list of resources exported on the side of the cluster, and
the text is stored as it is in a secret which the operator reads.

Key definitions:
- `readClusterDetails`: the resources of an exported text
- `Vendor.externalCeph`
-/

namespace StorageSetup

open Json (Decoder required)

/-- The secret with the exported text. -/
def externalDetailsSecret : String := "rook-ceph-external-cluster-details"

/-- The field of the form with the exported text. -/
def clusterDetailsField : String := "clusterDetails"

/-- One exported resource. -/
structure ExportedResource where
  name : String
  kind : String
  data : Json

def ExportedResource.decode : Decoder ExportedResource := fun r v => do
  let (name, kind, data, ()) ← Json.record "ExportedResource"
    (.cons (required "name" Json.text) <| .cons (required "kind" Json.text) <|
      .cons (required "data" Json.anything) .nil) r v
  .ok ⟨name, kind, data⟩

def ExportedResource.shape : Json.Shape :=
  .named ["name", "kind", "data"]

/-- The resources of an exported text, at least one. -/
def readClusterDetails (raw : String) : Except PayloadError (List ExportedResource) :=
  match Json.parseAs? (.items ExportedResource.shape) raw with
  | none => .error .malformedClusterDetails
  | some v =>
    match Json.list ExportedResource.decode .direct v with
    | .error _ => .error .malformedClusterDetails
    | .ok [] => .error .emptyClusterDetails
    | .ok (r :: rest) => .ok (r :: rest)

/-- The external cluster as a resource. -/
def externalClusterPayload (r : VendorRequest) : Payload :=
  .ofMembers .storageCluster (some r.namespaceName) [
    ("metadata", metadata r.systemName r.namespaceName),
    ("spec", .obj ([
      ("externalStorage", Json.obj [("enable", .bool true)]),
      ("labelSelector", .obj [("matchExpressions", .arr [])])] ++
      if r.inTransitEncryption then
        [("network", ClusterNetwork.toJson ⟨true, false, none, none⟩)]
      else []))]

/-- An external Ceph cluster. -/
def Vendor.externalCeph : Vendor where
  displayName := "Red Hat Ceph Storage"
  model := .storageCluster
  formStep := .connectionDetails
  form := [⟨clusterDetailsField, "External storage system metadata (JSON)", .json, true⟩]
  provisioner := none
  systemName := fun _ config => config.externalStorageClusterName
  payloads := fun r => do
    let raw := (r.form.get? clusterDetailsField).getD ""
    let _ ← readClusterDetails raw
    .ok [
      dataSecret externalDetailsSecret r.namespaceName
        (.ofList [("external_cluster_details", raw)]),
      externalClusterPayload r]
  isComplete := fun form _ =>
    (form.get? clusterDetailsField).any fun raw => (readClusterDetails raw).isOk
  readiness := none

end StorageSetup
