import StorageSetup.Config
import StorageSetup.Resource.Postgres
/-!
# Storage clusters

The storage cluster is the resource from which the operators build everything else. The object
gateway alone needs little of it; a full deployment sizes its device sets from the nodes, the class
and the number of local volumes.

Key definitions:
- `deviceSetReplica`, `deviceSetCount`: the size of the device set
- `ClusterSpec`, `storageCluster`: the cluster built from the settings
- `storageClusterPayload`: its resource
-/

namespace StorageSetup

/-- The annotation that prepares a cluster to be a target of disaster recovery. -/
def recoveryTargetKey : String := "ocs.openshift.io/clusterIsDisasterRecoveryTarget"

/-- Replicas of a device set: four across two zones, one when spread by host, else three. -/
def deviceSetReplica (stretch flexible : Bool) : UInt32 :=
  if stretch then 4 else if flexible then 1 else 3

/-- The number of device sets: as many as the local volumes fill, and at least one; with a
provisioner three when spread by host, else one. -/
def deviceSetCount (isLocal flexible : Bool) (pvCount replica : UInt32) : UInt32 :=
  if isLocal then max (pvCount / replica) 1 else if flexible then 3 else 1

/-- The set of devices a cluster asks for. -/
structure DeviceSet where
  storageClass : String
  size : String
  count : UInt32
  replica : UInt32
  portable : Bool
  deriving DecidableEq, Repr

namespace DeviceSet

def toJson (d : DeviceSet) : Json :=
  .obj [
    ("count", .nat d.count.toNat),
    ("dataPVCTemplate", .obj [("spec", .obj [
      ("accessModes", .strings ["ReadWriteOnce"]),
      ("resources", .obj [("requests", .obj [("storage", .str d.size)])]),
      ("storageClassName", .str d.storageClass),
      ("volumeMode", .str "Block")])]),
    ("name", .str ("ocs-deviceset-" ++ d.storageClass)),
    ("placement", .obj []),
    ("portable", .bool d.portable),
    ("replica", .nat d.replica.toNat),
    ("resources", .obj [])]

end DeviceSet

/-- The database connection of the object gateway. -/
structure GatewayDatabase where
  allowSelfSigned : Bool
  enableTls : Bool
  tlsSecret : Option String
  deriving DecidableEq, Repr

namespace GatewayDatabase

def toJson (g : GatewayDatabase) : Json :=
  .obj ([
    ("allowSelfSignedCerts", .bool g.allowSelfSigned),
    ("enableTls", .bool g.enableTls),
    ("pgSecretName", .str postgresSecret)] ++
    (g.tlsSecret.map fun s => ("tlsSecretName", Json.str s)).toList)

/-- The connection to the external database, if the settings ask for one. -/
def ofState (s : State) : Option GatewayDatabase :=
  if s.backingStorage.useExternalPostgres then
    let p := s.backingStorage.postgres
    some {
      allowSelfSigned := p.tls.enabled && p.tls.allowSelfSigned
      enableTls := p.tls.enabled
      tlsSecret := if p.usesClientCerts then some postgresTlsSecret else none }
  else none

end GatewayDatabase

/-- The networks of a cluster. -/
structure ClusterNetwork where
  encrypted : Bool
  multus : Bool
  publicNetwork : Option String
  clusterNetwork : Option String
  deriving DecidableEq, Repr

namespace ClusterNetwork

/-- The attachments of the additional networks, by their use. -/
def selectors (n : ClusterNetwork) : List (String × Json) :=
  (n.clusterNetwork.map fun a => ("cluster", Json.str a)).toList ++
    (n.publicNetwork.map fun a => ("public", Json.str a)).toList

def toJson (n : ClusterNetwork) : Json :=
  .obj ([("connections", .obj [("encryption", .obj [("enabled", .bool n.encrypted)])])] ++
    (if n.multus then [("provider", .str "multus")] else []) ++
    (if n.multus && !n.selectors.isEmpty then [("selectors", .obj n.selectors)] else []))

end ClusterNetwork

/-- What a cluster is made of. -/
inductive ClusterSpec where
  /-- The object gateway alone. -/
  | gateway (storageClass : Option String) (database : Option GatewayDatabase)
  /-- Block, file and object services. -/
  | full (stretch : Option String) (resourceProfile : ResourceProfile) (flexible : Bool)
      (onHostPath : Bool) (rbdClassIsDefault : Bool) (encryption : Encryption)
      (network : ClusterNetwork) (nfs : Bool) (devices : DeviceSet)
      (database : Option GatewayDatabase)
  deriving DecidableEq

namespace ClusterSpec

/-- Encryption at rest and the service its keys come from. -/
def encryptionJson (e : Encryption) : Json :=
  .obj [
    ("clusterWide", .bool e.clusterWide),
    ("enable", .bool e.clusterWide),
    ("kms", .obj [("enable", .bool e.usesKms)]),
    ("storageClass", .bool e.storageClass)]

def toJson : ClusterSpec → Json
  | gateway storageClass database =>
    .obj [("multiCloudGateway", .obj (
      (storageClass.map fun c => ("dbStorageClassName", Json.str c)).toList ++
      (database.map fun d => ("externalPgConfig", d.toJson)).toList ++
      [("reconcileStrategy", .str "standalone")]))]
  | full stretch profile flexible onHostPath rbdDefault encryption network nfs devices database =>
    .obj (
      (if stretch.isSome then [("arbiter", Json.obj [("enable", .bool true)])] else []) ++
      [("encryption", encryptionJson encryption),
       ("flexibleScaling", .bool flexible),
       ("manageNodes", .bool false),
       ("managedResources", .obj [("cephBlockPools",
         .obj [("defaultStorageClass", .bool rbdDefault)])])] ++
      (if onHostPath then [("monDataDirHostPath", Json.str "/var/lib/rook")] else []) ++
      (database.map fun d =>
        ("multiCloudGateway", Json.obj [("externalPgConfig", d.toJson)])).toList ++
      [("network", network.toJson)] ++
      (if nfs then [("nfs", Json.obj [("enable", .bool true)])] else []) ++
      (stretch.map fun zone =>
        ("nodeTopologies", Json.obj [("arbiterLocation", .str zone)])).toList ++
      [("resourceProfile", .str profile.code),
       ("storageDeviceSets", .arr [devices.toJson])])

end ClusterSpec

/-- A storage cluster. -/
structure StorageCluster where
  name : String
  namespaceName : String
  /-- Prepared to be a target of disaster recovery. -/
  rdrTarget : Bool
  spec : ClusterSpec
  deriving DecidableEq

/-- The size asked of a device: that of the volume for local ones, else the chosen capacity. -/
def deviceSize (s : State) : Except PayloadError String :=
  if s.storageClass.isNoProvisioner then .ok "1"
  else match s.capacity.capacity with
    | some size => .ok size
    | none => .error .noCapacity

/-- The device set of a full deployment with devices of the size. -/
def deviceSet (s : State) (size : String) : DeviceSet :=
  let isLocal := s.storageClass.isNoProvisioner
  let stretch := s.capacity.enableArbiter
  let flexible := isFlexibleScaling s.nodes stretch
  let replica := deviceSetReplica stretch flexible
  { storageClass := s.storageClass.name
    size
    count := deviceSetCount isLocal flexible s.capacity.pvCount replica
    replica
    portable := !flexible && !isLocal }

/-- The cluster that the settings describe. -/
def storageCluster (s : State) (config : Config) : Except PayloadError StorageCluster :=
  let database := GatewayDatabase.ofState s
  if s.isMcg then
    let name := s.storageClass.name
    .ok ⟨config.storageClusterName, config.namespaceName, false,
      .gateway (if name.isEmpty then none else some name) database⟩
  else if s.storageClass.name.isEmpty then .error .noStorageClass
  else
    (deviceSize s).map fun size =>
      let stretch := s.capacity.enableArbiter
      let multus := s.security.networkType == .multus
      ⟨config.storageClusterName, config.namespaceName, s.dataProtection.enableRdrPreparation,
        .full (if stretch then some s.capacity.arbiterLocation else none)
          s.capacity.resourceProfile
          (isFlexibleScaling s.nodes stretch)
          s.storageClass.isNoProvisioner
          s.backingStorage.rbdClassIsDefault
          s.security.encryption
          ⟨s.security.encryption.inTransit, multus,
            if multus then s.security.publicNetwork else none,
            if multus then s.security.clusterNetwork else none⟩
          s.backingStorage.enableNfs
          (deviceSet s size)
          database⟩

/-- The resource of a cluster. -/
def StorageCluster.payload (c : StorageCluster) : Payload :=
  .ofMembers .storageCluster (some c.namespaceName) [
    ("metadata", metadata c.name c.namespaceName
      (if c.rdrTarget then [(recoveryTargetKey, .str "true")] else [])),
    ("spec", c.spec.toJson)]

/-- The resource of the cluster that the settings describe. -/
def storageClusterPayload (s : State) (config : Config) : Except PayloadError Payload :=
  (storageCluster s config).map StorageCluster.payload

end StorageSetup
