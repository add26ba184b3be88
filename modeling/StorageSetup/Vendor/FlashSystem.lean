import StorageSetup.Vendor.Basic
/-!
# FlashSystem storage

A vendor whose storage class is backed by a pool of a FlashSystem. Its resource is served by an
operator installed beside the wizard, so the definition must be established first.
-/

namespace StorageSetup

/-- The secret with the credentials for the management address. -/
def flashSystemSecret : String := "ibm-flashsystem-storage"

namespace FlashSystem

/-- How volumes of the pool may be provisioned. -/
def volumeModes : List String := ["thick", "thin"]

/-- The trimmed value of a field, empty when there is none. -/
def field (form : FormValues) (id : String) : String :=
  Text.trim ((form.get? id).getD "")

def form : List FormField := [
  ⟨"name", "Storage system name", .text, true⟩,
  ⟨"endpoint", "IP address", .text, true⟩,
  ⟨"username", "Username", .text, true⟩,
  ⟨"password", "Password", .secret, true⟩,
  ⟨"poolname", "Pool name", .text, true⟩,
  ⟨"volumeMode", "Volume mode", .choice volumeModes, true⟩]

/-- The secret with the credentials. -/
def credentials (r : VendorRequest) : Payload :=
  stringSecret flashSystemSecret r.namespaceName (.ofList [
    ("management_address", field r.form "endpoint"),
    ("username", field r.form "username"),
    ("password", field r.form "password")])

/-- The system as a resource. -/
def cluster (r : VendorRequest) : Payload :=
  .ofMembers .flashSystemCluster (some r.namespaceName) [
    ("metadata", metadata r.systemName r.namespaceName),
    ("spec", .obj [
      ("defaultPool", .obj [
        ("fsType", .str "ext4"),
        ("poolName", .str (field r.form "poolname")),
        ("spaceEfficiency", .str (field r.form "volumeMode")),
        ("storageclassName", .str r.storageClassName),
        ("volumeNamePrefix", .str "odf")]),
      ("insecureSkipVerify", .bool true),
      ("name", .str r.systemName),
      ("secret", .obj [
        ("name", .str flashSystemSecret),
        ("namespace", .str r.namespaceName)])])]

end FlashSystem

/-- A FlashSystem. -/
def Vendor.flashSystem : Vendor where
  displayName := "IBM FlashSystem Storage"
  model := .flashSystemCluster
  formStep := .createStorageClass
  form := FlashSystem.form
  provisioner := some "block.csi.ibm.com"
  systemName := fun form _ => FlashSystem.field form "name"
  payloads := fun r => .ok [FlashSystem.credentials r, FlashSystem.cluster r]
  isComplete := fun form storageClassName =>
    requiredFieldsPresent FlashSystem.form form &&
      "https://".toList.isPrefixOf (FlashSystem.field form "endpoint").toList &&
      FlashSystem.volumeModes.contains (FlashSystem.field form "volumeMode") &&
      !Text.isBlank storageClassName
  readiness := some ResourceModel.flashSystemCluster.crdName

end StorageSetup
