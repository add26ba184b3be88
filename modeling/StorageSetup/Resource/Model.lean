/-!
# Kinds of resources

The coordinates under which the API serves each kind of resource the wizard creates or reads.
-/

namespace StorageSetup

/-- The coordinates of a kind of resource. -/
structure ResourceModel where
  /-- The API group, empty for the core group. -/
  group : String
  version : String
  kind : String
  plural : String
  namespaced : Bool
  deriving DecidableEq, Repr, Inhabited

namespace ResourceModel

/-- Group and version as bodies name them. -/
def apiVersion (m : ResourceModel) : String :=
  if m.group.isEmpty then m.version else m.group ++ "/" ++ m.version

/-- The reference to the kind in a storage system. -/
def systemKind (m : ResourceModel) : String :=
  m.kind.toLower ++ "." ++ m.group ++ "/" ++ m.version

/-- The name of the definition that serves the kind. -/
def crdName (m : ResourceModel) : String :=
  m.plural ++ "." ++ m.group

def secret : ResourceModel :=
  ⟨"", "v1", "Secret", "secrets", true⟩

def configMap : ResourceModel :=
  ⟨"", "v1", "ConfigMap", "configmaps", true⟩

def storageCluster : ResourceModel :=
  ⟨"ocs.openshift.io", "v1", "StorageCluster", "storageclusters", true⟩

def storageSystem : ResourceModel :=
  ⟨"odf.openshift.io", "v1alpha1", "StorageSystem", "storagesystems", true⟩

def localVolumeSet : ResourceModel :=
  ⟨"local.storage.openshift.io", "v1alpha1", "LocalVolumeSet", "localvolumesets", true⟩

def localVolumeDiscoveryResult : ResourceModel :=
  ⟨"local.storage.openshift.io", "v1alpha1", "LocalVolumeDiscoveryResult",
    "localvolumediscoveryresults", true⟩

def flashSystemCluster : ResourceModel :=
  ⟨"odf.ibm.com", "v1alpha1", "FlashSystemCluster", "flashsystemclusters", true⟩

def managedCluster : ResourceModel :=
  ⟨"cluster.open-cluster-management.io", "v1", "ManagedCluster", "managedclusters", false⟩

def infrastructure : ResourceModel :=
  ⟨"config.openshift.io", "v1", "Infrastructure", "infrastructures", false⟩

/-- Every kind the wizard creates or reads through its coordinates. -/
def all : List ResourceModel :=
  [secret, configMap, storageCluster, storageSystem, localVolumeSet, localVolumeDiscoveryResult,
    flashSystemCluster, managedCluster, infrastructure]

end ResourceModel

end StorageSetup
