import StorageSetup.Choice
import StorageSetup.Node
import StorageSetup.Text.Blank
/-!
# What the wizard collects

One record holds every setting; only `reduce` writes it. It is a tree of slices, one a topic, and
its JSON form has the same shape.

Key definitions:
- `State`: all settings, `State.initial` the settings at the start
- `StorageClass`, `BackingStorage`, `Capacity`, `LocalVolumeForm`, `Security`: its slices
- `Encryption.usesKms`, `Kms.isComplete`: conditions on settings that several parts need
-/

namespace StorageSetup

open Json (Decoder required nullable)

/-- The values of a vendor's form, by field. -/
abbrev FormValues := Dict String

/-- The placeholder provisioner of local and external storage classes. -/
def noProvisioner : String := "kubernetes.io/no-provisioner"

/-- The storage class the cluster is built on. -/
structure StorageClass where
  name : String := ""
  provisioner : String := ""
  deriving DecidableEq, Repr, Inhabited

namespace StorageClass

/-- The choice of a class that is still to be created. -/
def placeholder : StorageClass :=
  ⟨"", noProvisioner⟩

def isNoProvisioner (c : StorageClass) : Bool :=
  c.provisioner == noProvisioner

def toJson (c : StorageClass) : Json :=
  .obj [("name", .str c.name), ("provisioner", .str c.provisioner)]

def decode : Decoder StorageClass := fun r v => do
  let (name, provisioner, ()) ← Json.record "StorageClassSelection"
    (.cons (required "name" Json.text) <| .cons (required "provisioner" Json.text) .nil) r v
  .ok ⟨name, provisioner⟩

end StorageClass

/-- The client key pair for an external database, as PEM texts. -/
structure PostgresKeys where
  privateKey : Option String := none
  certificate : Option String := none
  deriving DecidableEq, Repr, Inhabited

namespace PostgresKeys

def toJson (k : PostgresKeys) : Json :=
  .obj [("private", .ofOption .str k.privateKey), ("public", .ofOption .str k.certificate)]

def decode : Decoder PostgresKeys := fun r v => do
  let (privateKey, certificate, ()) ← Json.record "PostgresKeys"
    (.cons (nullable "private" Json.text) <| .cons (nullable "public" Json.text) .nil) r v
  .ok ⟨privateKey, certificate⟩

end PostgresKeys

/-- How the connection to an external database is protected. -/
structure PostgresTls where
  enabled : Bool := false
  allowSelfSigned : Bool := false
  clientCerts : Bool := false
  keys : PostgresKeys := {}
  deriving DecidableEq, Repr, Inhabited

namespace PostgresTls

def toJson (t : PostgresTls) : Json :=
  .obj [
    ("allowSelfSignedCerts", .bool t.allowSelfSigned),
    ("enableClientSideCerts", .bool t.clientCerts),
    ("enabled", .bool t.enabled),
    ("keys", t.keys.toJson)]

def decode : Decoder PostgresTls := fun r v => do
  let (enabled, allowSelfSigned, clientCerts, keys, ()) ← Json.record "PostgresTls"
    (.cons (required "enabled" Json.boolean) <|
      .cons (required "allowSelfSignedCerts" Json.boolean) <|
      .cons (required "enableClientSideCerts" Json.boolean) <|
      .cons (required "keys" PostgresKeys.decode) .nil) r v
  .ok ⟨enabled, allowSelfSigned, clientCerts, keys⟩

end PostgresTls

/-- A database outside the cluster for the object gateway. -/
structure Postgres where
  username : String := ""
  password : String := ""
  serverName : String := ""
  port : String := ""
  databaseName : String := ""
  tls : PostgresTls := {}
  deriving DecidableEq, Repr, Inhabited

namespace Postgres

def toJson (p : Postgres) : Json :=
  .obj [
    ("databaseName", .str p.databaseName),
    ("password", .str p.password),
    ("port", .str p.port),
    ("serverName", .str p.serverName),
    ("tls", p.tls.toJson),
    ("username", .str p.username)]

def decode : Decoder Postgres := fun r v => do
  let (username, password, serverName, port, databaseName, tls, ()) ←
    Json.record "ExternalPostgres"
      (.cons (required "username" Json.text) <| .cons (required "password" Json.text) <|
        .cons (required "serverName" Json.text) <| .cons (required "port" Json.text) <|
        .cons (required "databaseName" Json.text) <|
        .cons (required "tls" PostgresTls.decode) .nil) r v
  .ok ⟨username, password, serverName, port, databaseName, tls⟩

end Postgres

/-- Where the storage comes from and which services it offers. -/
structure BackingStorage where
  type : BackingType := .existing
  deployment : Deployment := .full
  /-- The kind of the chosen vendor, empty when there is none. -/
  externalStorage : String := ""
  enableNfs : Bool := false
  rbdClassIsDefault : Bool := false
  useExternalPostgres : Bool := false
  postgres : Postgres := {}
  deriving DecidableEq, Repr, Inhabited

namespace BackingStorage

def toJson (b : BackingStorage) : Json :=
  .obj [
    ("deployment", .str b.deployment.code),
    ("enableNFS", .bool b.enableNfs),
    ("externalPostgres", b.postgres.toJson),
    ("externalStorage", .str b.externalStorage),
    ("isRBDStorageClassDefault", .bool b.rbdClassIsDefault),
    ("type", .str b.type.code),
    ("useExternalPostgres", .bool b.useExternalPostgres)]

def decode : Decoder BackingStorage := fun r v => do
  let (type, deployment, externalStorage, enableNfs, rbdClassIsDefault, useExternalPostgres,
      postgres, ()) ← Json.record "BackingStorage"
    (.cons (required "type" BackingType.decode) <|
      .cons (required "deployment" Deployment.decode) <|
      .cons (required "externalStorage" Json.text) <|
      .cons (required "enableNFS" Json.boolean) <|
      .cons (required "isRBDStorageClassDefault" Json.boolean) <|
      .cons (required "useExternalPostgres" Json.boolean) <|
      .cons (required "externalPostgres" Postgres.decode) .nil) r v
  .ok ⟨type, deployment, externalStorage, enableNfs, rbdClassIsDefault, useExternalPostgres,
    postgres⟩

end BackingStorage

/-- Capacity, arbiter, taint and resources of the cluster. -/
structure Capacity where
  /-- The requested size of a device, such as `2Ti`. -/
  capacity : Option String := none
  /-- The number of local volumes the cluster may use. -/
  pvCount : UInt32 := 0
  enableArbiter : Bool := false
  arbiterLocation : String := ""
  enableTaint : Bool := false
  resourceProfile : ResourceProfile := .balanced
  deriving DecidableEq, Repr, Inhabited

namespace Capacity

def toJson (c : Capacity) : Json :=
  .obj [
    ("arbiterLocation", .str c.arbiterLocation),
    ("capacity", .ofOption .str c.capacity),
    ("enableArbiter", .bool c.enableArbiter),
    ("enableTaint", .bool c.enableTaint),
    ("pvCount", .nat c.pvCount.toNat),
    ("resourceProfile", .str c.resourceProfile.code)]

def decode : Decoder Capacity := fun r v => do
  let (capacity, pvCount, enableArbiter, arbiterLocation, enableTaint, resourceProfile, ()) ←
    Json.record "CapacityAndNodes"
      (.cons (nullable "capacity" Json.text) <| .cons (required "pvCount" Json.word32) <|
        .cons (required "enableArbiter" Json.boolean) <|
        .cons (required "arbiterLocation" Json.text) <|
        .cons (required "enableTaint" Json.boolean) <|
        .cons (required "resourceProfile" ResourceProfile.decode) .nil) r v
  .ok ⟨capacity, UInt32.ofNat pvCount, enableArbiter, arbiterLocation, enableTaint,
    resourceProfile⟩

end Capacity

/-- The form of the local volume set: a name, a filter for disks and the nodes it chose. -/
structure LocalVolumeForm where
  name : String := ""
  diskType : DiskType := .any
  diskMode : DiskMode := .block
  deviceTypes : List DeviceType := [.disk, .part]
  minDiskSize : UInt64 := 1
  /-- Blank means no upper bound. -/
  maxDiskSize : String := ""
  sizeUnit : SizeUnit := .gi
  /-- Blank means all matching disks of a node. -/
  maxDiskLimit : String := ""
  selectNodes : Bool := false
  selectedNodes : List String := []
  /-- The nodes with at least one disk that passes the filter. -/
  chartNodes : NameSet := ∅
  deriving DecidableEq, Inhabited

namespace LocalVolumeForm

def toJson (f : LocalVolumeForm) : Json :=
  .obj [
    ("chartNodes", .strings f.chartNodes.names),
    ("deviceType", .strings (f.deviceTypes.map DeviceType.code)),
    ("diskMode", .str f.diskMode.code),
    ("diskSizeUnit", .str f.sizeUnit.code),
    ("diskType", .str f.diskType.code),
    ("lvsIsSelectNodes", .bool f.selectNodes),
    ("lvsSelectNodes", .strings f.selectedNodes),
    ("maxDiskLimit", .str f.maxDiskLimit),
    ("maxDiskSize", .str f.maxDiskSize),
    ("minDiskSize", .nat f.minDiskSize.toNat),
    ("volumeSetName", .str f.name)]

/-- A list of names read as a set. -/
def decodeNames : Decoder NameSet := fun r v =>
  (Json.list Json.text r v).map NameSet.ofList

def decode : Decoder LocalVolumeForm := fun r v => do
  let (name, diskType, diskMode, deviceTypes, minDiskSize, maxDiskSize, sizeUnit, maxDiskLimit,
      selectNodes, selectedNodes, chartNodes, ()) ← Json.record "CreateLocalVolumeSet"
    (.cons (required "volumeSetName" Json.text) <|
      .cons (required "diskType" DiskType.decode) <|
      .cons (required "diskMode" DiskMode.decode) <|
      .cons (required "deviceType" (Json.list DeviceType.decode)) <|
      .cons (required "minDiskSize" Json.word64) <|
      .cons (required "maxDiskSize" Json.text) <|
      .cons (required "diskSizeUnit" SizeUnit.decode) <|
      .cons (required "maxDiskLimit" Json.text) <|
      .cons (required "lvsIsSelectNodes" Json.boolean) <|
      .cons (required "lvsSelectNodes" (Json.list Json.text)) <|
      .cons (required "chartNodes" decodeNames) .nil) r v
  .ok ⟨name, diskType, diskMode, deviceTypes, UInt64.ofNat minDiskSize, maxDiskSize, sizeUnit,
    maxDiskLimit, selectNodes, selectedNodes, chartNodes⟩

end LocalVolumeForm

/-- What is encrypted and where the keys come from. -/
structure Encryption where
  inTransit : Bool := false
  clusterWide : Bool := false
  storageClass : Bool := false
  /-- The keys come from an external key management service. -/
  advanced : Bool := false
  /-- The settings were visited and are in order. -/
  hasHandled : Bool := true
  deriving DecidableEq, Repr, Inhabited

namespace Encryption

/-- Something is encrypted with keys of the external service. -/
def usesKms (e : Encryption) : Bool :=
  e.advanced && (e.clusterWide || e.storageClass)

def toJson (e : Encryption) : Json :=
  .obj [
    ("advanced", .bool e.advanced),
    ("clusterWide", .bool e.clusterWide),
    ("hasHandled", .bool e.hasHandled),
    ("inTransit", .bool e.inTransit),
    ("storageClass", .bool e.storageClass)]

def decode : Decoder Encryption := fun r v => do
  let (inTransit, clusterWide, storageClass, advanced, hasHandled, ()) ←
    Json.record "Encryption"
      (.cons (required "inTransit" Json.boolean) <|
        .cons (required "clusterWide" Json.boolean) <|
        .cons (required "storageClass" Json.boolean) <|
        .cons (required "advanced" Json.boolean) <|
        .cons (required "hasHandled" Json.boolean) .nil) r v
  .ok ⟨inTransit, clusterWide, storageClass, advanced, hasHandled⟩

end Encryption

/-- The connection to Vault. -/
structure Vault where
  name : String := ""
  address : String := ""
  port : String := ""
  auth : VaultAuth := .token
  token : String := ""
  /-- The role for logging in as a cluster account. -/
  role : String := ""
  backend : String := ""
  tlsServerName : String := ""
  providerNamespace : String := ""
  caCert : Option String := none
  deriving DecidableEq, Repr, Inhabited

namespace Vault

def toJson (v : Vault) : Json :=
  .obj [
    ("address", .str v.address),
    ("authMethod", .str v.auth.code),
    ("backend", .str v.backend),
    ("caCert", .ofOption .str v.caCert),
    ("name", .str v.name),
    ("port", .str v.port),
    ("providerNamespace", .str v.providerNamespace),
    ("role", .str v.role),
    ("tlsServerName", .str v.tlsServerName),
    ("token", .str v.token)]

def decode : Decoder Vault := fun r v => do
  let (name, address, port, auth, token, role, backend, tlsServerName, providerNamespace, caCert,
      ()) ← Json.record "VaultConfig"
    (.cons (required "name" Json.text) <| .cons (required "address" Json.text) <|
      .cons (required "port" Json.text) <| .cons (required "authMethod" VaultAuth.decode) <|
      .cons (required "token" Json.text) <| .cons (required "role" Json.text) <|
      .cons (required "backend" Json.text) <| .cons (required "tlsServerName" Json.text) <|
      .cons (required "providerNamespace" Json.text) <|
      .cons (nullable "caCert" Json.text) .nil) r v
  .ok ⟨name, address, port, auth, token, role, backend, tlsServerName, providerNamespace, caCert⟩

end Vault

/-- The connection to a KMIP server. -/
structure Kmip where
  name : String := ""
  address : String := ""
  port : String := ""
  tlsServerName : String := ""
  uniqueIdentifier : String := ""
  clientCa : String := ""
  clientCert : String := ""
  clientKey : String := ""
  deriving DecidableEq, Repr, Inhabited

namespace Kmip

def toJson (k : Kmip) : Json :=
  .obj [
    ("address", .str k.address),
    ("clientCa", .str k.clientCa),
    ("clientCert", .str k.clientCert),
    ("clientKey", .str k.clientKey),
    ("name", .str k.name),
    ("port", .str k.port),
    ("tlsServerName", .str k.tlsServerName),
    ("uniqueIdentifier", .str k.uniqueIdentifier)]

def decode : Decoder Kmip := fun r v => do
  let (name, address, port, tlsServerName, uniqueIdentifier, clientCa, clientCert, clientKey,
      ()) ← Json.record "KmipConfig"
    (.cons (required "name" Json.text) <| .cons (required "address" Json.text) <|
      .cons (required "port" Json.text) <| .cons (required "tlsServerName" Json.text) <|
      .cons (required "uniqueIdentifier" Json.text) <|
      .cons (required "clientCa" Json.text) <| .cons (required "clientCert" Json.text) <|
      .cons (required "clientKey" Json.text) .nil) r v
  .ok ⟨name, address, port, tlsServerName, uniqueIdentifier, clientCa, clientCert, clientKey⟩

end Kmip

/-- The external key management service: the chosen one, and the details of both. -/
structure Kms where
  provider : KmsProvider := .vault
  vault : Vault := {}
  kmip : Kmip := {}
  hasHandled : Bool := true
  deriving DecidableEq, Repr, Inhabited

namespace Kms

/-- The texts the chosen service cannot do without. -/
def neededTexts (k : Kms) : List String :=
  match k.provider with
  | .vault =>
    let credential := match k.vault.auth with
      | .token => k.vault.token
      | .kubernetes => k.vault.role
    [k.vault.name, k.vault.address, credential]
  | .kmip =>
    [k.kmip.name, k.kmip.address, k.kmip.port, k.kmip.uniqueIdentifier, k.kmip.clientCa,
      k.kmip.clientCert, k.kmip.clientKey]

/-- Every needed text is filled in. -/
def isComplete (k : Kms) : Bool :=
  k.neededTexts.all fun t => !Text.isBlank t

def toJson (k : Kms) : Json :=
  .obj [
    ("hasHandled", .bool k.hasHandled),
    ("kmip", k.kmip.toJson),
    ("provider", .str k.provider.code),
    ("vault", k.vault.toJson)]

def decode : Decoder Kms := fun r v => do
  let (provider, vault, kmip, hasHandled, ()) ← Json.record "Kms"
    (.cons (required "provider" KmsProvider.decode) <| .cons (required "vault" Vault.decode) <|
      .cons (required "kmip" Kmip.decode) <|
      .cons (required "hasHandled" Json.boolean) .nil) r v
  .ok ⟨provider, vault, kmip, hasHandled⟩

end Kms

/-- Encryption, key management and networks. -/
structure Security where
  encryption : Encryption := {}
  kms : Kms := {}
  networkType : NetworkType := .pods
  /-- A network attachment as namespace and name. -/
  publicNetwork : Option String := none
  clusterNetwork : Option String := none
  deriving DecidableEq, Repr, Inhabited

namespace Security

def toJson (s : Security) : Json :=
  .obj [
    ("clusterNetwork", .ofOption .str s.clusterNetwork),
    ("encryption", s.encryption.toJson),
    ("kms", s.kms.toJson),
    ("networkType", .str s.networkType.code),
    ("publicNetwork", .ofOption .str s.publicNetwork)]

def decode : Decoder Security := fun r v => do
  let (encryption, kms, networkType, publicNetwork, clusterNetwork, ()) ←
    Json.record "SecurityAndNetwork"
      (.cons (required "encryption" Encryption.decode) <|
        .cons (required "kms" Kms.decode) <|
        .cons (required "networkType" NetworkType.decode) <|
        .cons (nullable "publicNetwork" Json.text) <|
        .cons (nullable "clusterNetwork" Json.text) .nil) r v
  .ok ⟨encryption, kms, networkType, publicNetwork, clusterNetwork⟩

end Security

/-- Protection of the data against the loss of the cluster. -/
structure DataProtection where
  enableRdrPreparation : Bool := false
  deriving DecidableEq, Repr, Inhabited

namespace DataProtection

def toJson (d : DataProtection) : Json :=
  .obj [("enableRdrPreparation", .bool d.enableRdrPreparation)]

def decode : Decoder DataProtection := fun r v => do
  let (enableRdrPreparation, ()) ← Json.record "DataProtection"
    (.cons (required "enableRdrPreparation" Json.boolean) .nil) r v
  .ok ⟨enableRdrPreparation⟩

end DataProtection

/-- Everything the wizard collects. -/
structure State where
  /-- The greatest step number reached so far. -/
  stepIdReached : UInt32 := 1
  storageClass : StorageClass := {}
  nodes : List Node := []
  backingStorage : BackingStorage := {}
  capacity : Capacity := {}
  createStorageClass : FormValues := ∅
  connectionDetails : FormValues := ∅
  localVolumes : LocalVolumeForm := {}
  security : Security := {}
  dataProtection : DataProtection := {}
  deriving Inhabited

namespace State

/-- The settings before the user has chosen anything. -/
def initial : State := {}

def isMcg (s : State) : Bool :=
  s.backingStorage.deployment == .mcg

def isExternal (s : State) : Bool :=
  s.backingStorage.type == .external

/-- The user has moved past the first step at least once. -/
def hasProgressed (s : State) : Bool :=
  1 < s.stepIdReached

def toJson (s : State) : Json :=
  .obj [
    ("backingStorage", s.backingStorage.toJson),
    ("capacityAndNodes", s.capacity.toJson),
    ("connectionDetails", .texts s.connectionDetails),
    ("createLocalVolumeSet", s.localVolumes.toJson),
    ("createStorageClass", .texts s.createStorageClass),
    ("dataProtection", s.dataProtection.toJson),
    ("nodes", .arr (s.nodes.map Node.toJson)),
    ("securityAndNetwork", s.security.toJson),
    ("stepIdReached", .nat s.stepIdReached.toNat),
    ("storageClass", s.storageClass.toJson)]

def decode : Decoder State := fun r v => do
  let (stepIdReached, storageClass, nodes, backingStorage, capacity, createStorageClass,
      connectionDetails, localVolumes, security, dataProtection, ()) ←
    Json.record "WizardState"
      (.cons (required "stepIdReached" Json.word32) <|
        .cons (required "storageClass" StorageClass.decode) <|
        .cons (required "nodes" (Json.list Node.decode)) <|
        .cons (required "backingStorage" BackingStorage.decode) <|
        .cons (required "capacityAndNodes" Capacity.decode) <|
        .cons (required "createStorageClass" (Json.dict Json.text)) <|
        .cons (required "connectionDetails" (Json.dict Json.text)) <|
        .cons (required "createLocalVolumeSet" LocalVolumeForm.decode) <|
        .cons (required "securityAndNetwork" Security.decode) <|
        .cons (required "dataProtection" DataProtection.decode) .nil) r v
  .ok ⟨UInt32.ofNat stepIdReached, storageClass, nodes, backingStorage, capacity,
    createStorageClass, connectionDetails, localVolumes, security, dataProtection⟩

end State

end StorageSetup
