import StorageSetup.Json.Decode
/-!
# Configuration

The names that the created resources carry, and the cluster to talk to. A missing setting keeps
its default.
-/

namespace StorageSetup

/-- The settings of the program. -/
structure Config where
  /-- The namespace of the storage operators. -/
  namespaceName : String := "openshift-storage"
  storageClusterName : String := "ocs-storagecluster"
  /-- The name of a cluster in external mode. -/
  externalStorageClusterName : String := "ocs-external-storagecluster"
  /-- The namespace of the operator for local storage. -/
  localStorageNamespace : String := "openshift-local-storage"
  /-- The context of the cluster, the current one when there is none. -/
  kubeContext : Option String := none
  deriving DecidableEq, Repr, Inhabited

namespace Config

open Json (Decoder defaulted)

def toJson (c : Config) : Json :=
  .obj [
    ("externalStorageClusterName", .str c.externalStorageClusterName),
    ("kubeContext", .ofOption .str c.kubeContext),
    ("localStorageNamespace", .str c.localStorageNamespace),
    ("namespace", .str c.namespaceName),
    ("storageClusterName", .str c.storageClusterName)]

def decode : Decoder Config := fun r v => do
  let d : Config := {}
  let (namespaceName, storageClusterName, externalStorageClusterName, localStorageNamespace,
      kubeContext, ()) ← Json.record "PilotConfig"
    (.cons (defaulted "namespace" Json.text d.namespaceName) <|
      .cons (defaulted "storageClusterName" Json.text d.storageClusterName) <|
      .cons (defaulted "externalStorageClusterName" Json.text d.externalStorageClusterName) <|
      .cons (defaulted "localStorageNamespace" Json.text d.localStorageNamespace) <|
      .cons (defaulted "kubeContext" (Json.optional Json.text) d.kubeContext) .nil) r v
  .ok { namespaceName, storageClusterName, externalStorageClusterName, localStorageNamespace,
        kubeContext }

end Config

end StorageSetup
