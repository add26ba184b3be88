import StorageSetup.Cluster.Snapshot
import StorageSetup.Resource.LocalVolumeSet
import StorageSetup.Wizard.Step
/-!
# Inventory of a cluster

What the wizard needs to know of a cluster before it can be shown: its nodes, its storage classes,
the disks found on its nodes, the storage clusters it runs, how many clusters it manages and the
platform it runs on.

Key definitions:
- `Inventory`: the whole, `Inventory.context` what the gates ask of it
- `Inventory.usableStorageClasses`: the classes a cluster can be built on
- `discoveredDevices`, `ClusterSummary.ofObject`, `platformOf`: views of single objects

Objects of kinds that may not be installed are read leniently: what is missing or of another type
counts as empty.
-/

namespace StorageSetup

open Json (DecodeError)

/-- The annotation of the class that is used when none is named. -/
def defaultClassAnnotation : String := "storageclass.kubernetes.io/is-default-class"

/-- A storage class of the cluster. -/
structure StorageClassInfo where
  name : String
  provisioner : String
  isDefault : Bool := false
  deriving DecidableEq, Repr, Inhabited

/-- A storage cluster that runs already. -/
structure ClusterSummary where
  name : String
  external : Bool := false
  deriving DecidableEq, Repr, Inhabited

/-- What the wizard needs to know of a cluster. -/
structure Inventory where
  nodes : List Node := []
  storageClasses : List StorageClassInfo := []
  devices : List Device := []
  storageClusters : List ClusterSummary := []
  managedClusters : Nat := 0
  platform : Platform := .unknown
  deriving Inhabited

namespace StorageClassInfo

/-- A storage class from its object. -/
def ofObject (v : Json) : Except DecodeError StorageClassInfo := do
  let v ← NodeObject.section? "StorageClass" .direct v
  Json.checkKind "storage.k8s.io/v1" "StorageClass" v
  let metadata ← NodeObject.part "metadata" Json.objectMeta (.obj []) v
  let provisioner ← NodeObject.part "provisioner" Json.text "" v
  let text? (path : List String) := (metadata.at? path).bind Json.string?
  .ok { name := (text? ["name"]).getD "", provisioner,
        isDefault := text? ["annotations", defaultClassAnnotation] == some "true" }

/-- Classes that are used when none is named come first, then the order is by name. -/
def comesBefore (a b : StorageClassInfo) : Bool :=
  if a.isDefault == b.isDefault then decide (a.name ≤ b.name) else a.isDefault

end StorageClassInfo

namespace Inventory

/-- What the gates ask of a cluster. -/
def context (i : Inventory) : Context where
  platform := i.platform
  hasStorageCluster := i.storageClusters.any (!·.external)
  hasExternalStorageCluster := i.storageClusters.any (·.external)
  hasMultipleClusters := 1 < i.managedClusters

def nodeNames (i : Inventory) : List String :=
  i.nodes.map (·.name)

/-- The classes that provision volumes, in the order in which they are offered. -/
def usableStorageClasses (i : Inventory) : List StorageClassInfo :=
  (i.storageClasses.filter (·.provisioner ≠ noProvisioner)).mergeSort
    StorageClassInfo.comesBefore

end Inventory

/-- The text at a path, empty where there is none. -/
def textAt (path : List String) (v : Json) : String :=
  ((v.at? path).bind Json.string?).getD ""

/-- A disk found on a node. -/
def discoveredDevice (node : String) (v : Json) : Device where
  node := node
  path := textAt ["path"] v
  deviceType := textAt ["type"] v
  size := UInt64.ofNat <|
    (((v.member? "size").bind Json.nat?).filter (· ≤ Text.maxWord)).getD 0
  rotational := textAt ["property"] v == "Rotational"
  status := textAt ["status", "state"] v

/-- The disks that a discovery result lists. -/
def discoveredDevices (v : Json) : List Device :=
  (((v.at? ["status", "discoveredDevices"]).bind Json.items?).getD []).map
    (discoveredDevice (textAt ["spec", "nodeName"] v))

namespace ClusterSummary

/-- A storage cluster from its object. -/
def ofObject (v : Json) : ClusterSummary where
  name := textAt ["metadata", "name"] v
  external := ((v.at? ["spec", "externalStorage", "enable"]).bind Json.bool?).getD false

end ClusterSummary

/-- The platform that the status names, in the place of today or else that of older versions. -/
def platformOf (v : Json) : Platform :=
  let name := (v.at? ["status", "platformStatus", "type"]).or (v.at? ["status", "platform"])
  .ofName ((name.bind Json.string?).getD "")

end StorageSetup
