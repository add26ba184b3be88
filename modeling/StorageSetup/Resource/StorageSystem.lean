import StorageSetup.Resource.Payload
/-!
# Storage systems

A storage system ties the resource that does the work to the dashboard.
-/

namespace StorageSetup

/-- The record of the resource with the name and kind. -/
def storageSystemPayload (subsystem : String) (model : ResourceModel) (namespaceName : String) :
    Payload :=
  .ofMembers .storageSystem (some namespaceName) [
    ("metadata", metadata (subsystem ++ "-storagesystem") namespaceName),
    ("spec", .obj [
      ("kind", .str model.systemKind),
      ("name", .str subsystem),
      ("namespace", .str namespaceName)])]

end StorageSetup
