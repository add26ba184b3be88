import StorageSetup.Certificate.X509
import StorageSetup.Decimal.Fixed
import StorageSetup.Resource.LocalVolumeSet
import StorageSetup.Wizard.Step
/-!
# Gates

A step can be left only when its settings are complete and do not clash with the cluster. A gate
reports the first reason why it is closed.

Key definitions:
- `Refusal`: the reasons, `Refusal.message` their wording
- `checkStep`: the settings of a step are complete
- `checkCluster`: they do not clash with what the cluster already runs
-/

namespace StorageSetup

/-- Why a step cannot be left. -/
inductive Refusal where
  | noStorageClass
  | noPlatform
  | nfsWithExternal
  | postgresMissing (label : String)
  | noClientKeyFiles
  | invalidClientKey
  | invalidClientCertificate (reason : CertificateError)
  | tooFewNodes
  | noCapacity
  | tooFewResources (profile : ResourceProfile) (cpu memoryGib : Float)
  | noArbiterZone
  | tooFewStretchNodes
  | tooFewDataZones
  | noVolumeSetName
  | invalidDiskFilter
  | tooFewChartNodes (found : Nat)
  | encryptionPending
  | kmsPending
  | kmsIncomplete (provider : KmsProvider)
  | noNetwork
  | noVendor
  | vendorIncomplete (displayName : String)
  | externalClusterExists
  | storageClusterExists
  | stretchOnCloud (platform : Platform)

def Refusal.message : Refusal → String
  | noStorageClass => "select a storage class"
  | noPlatform => "select an external storage platform"
  | nfsWithExternal => "NFS cannot be enabled with external storage"
  | postgresMissing label => "external Postgres " ++ label ++ " is required"
  | noClientKeyFiles => "upload both client key files"
  | invalidClientKey => "client private key is not a PEM private key"
  | invalidClientCertificate reason => "client certificate: " ++ reason.message
  | tooFewNodes => "select at least " ++ toString minimumNodes ++ " nodes"
  | noCapacity => "select a capacity"
  | tooFewResources profile cpu memoryGib =>
    profile.code ++ " profile needs " ++ Decimal.plain profile.minCpu ++ " CPUs and " ++
      Decimal.plain profile.minMemoryGib ++ " GiB memory, selected nodes have " ++
      Decimal.plain cpu ++ " CPUs and " ++ Decimal.fixed 0 memoryGib ++ " GiB"
  | noArbiterZone => "select an arbiter zone"
  | tooFewStretchNodes =>
    "stretch clusters need at least " ++ toString arbiterMinimumNodes ++ " nodes"
  | tooFewDataZones => "nodes must span two zones besides the arbiter zone"
  | noVolumeSetName => "volume set name is required"
  | invalidDiskFilter => "invalid disk filter"
  | tooFewChartNodes found =>
    "at least " ++ toString minimumNodes ++ " nodes need matching disks, found " ++
      toString found
  | encryptionPending => "complete the encryption settings"
  | kmsPending => "complete the key management settings"
  | kmsIncomplete provider => provider.label ++ " connection details are incomplete"
  | noNetwork => "select a public or cluster network"
  | noVendor => "no external storage platform selected"
  | vendorIncomplete displayName => "complete the " ++ displayName ++ " details"
  | externalClusterExists => "an external storage cluster already exists"
  | storageClusterExists =>
    "a storage cluster already exists, connect an external platform instead"
  | stretchOnCloud platform => "stretch clusters are not supported on " ++ platform.name

/-- Nothing, or the first reason why a gate is closed. -/
abbrev Check := Except Refusal Unit

/-- Passes when the condition holds. -/
def require (condition : Bool) (otherwise : Refusal) : Check :=
  if condition then .ok () else .error otherwise

namespace Gate

/-- The choice of storage is made. -/
def backingType (s : State) (r : Registry) : Check :=
  match s.backingStorage.type with
  | .existing => require (!s.storageClass.name.isEmpty) .noStorageClass
  | .external => do
    require (r.get? s.backingStorage.externalStorage).isSome .noPlatform
    require (!s.backingStorage.enableNfs) .nfsWithExternal
  | .localDevices => .ok ()

/-- The texts of an external database that must be filled in. -/
def postgresTexts (p : Postgres) : List (String × String) := [
  ("username", p.username),
  ("password", p.password),
  ("server name", p.serverName),
  ("port", p.port),
  ("database name", p.databaseName)]

/-- Every listed text is filled in. -/
def filledIn : List (String × String) → Check
  | [] => .ok ()
  | (label, value) :: rest => do
    require (!Text.isBlank value) (.postgresMissing label)
    filledIn rest

/-- The client key pair is there and can be read. -/
def clientKeys (k : PostgresKeys) : Check :=
  match k.privateKey, k.certificate with
  | some key, some certificate => do
    require (isPrivateKeyPem key) .invalidClientKey
    match Certificate.inspect certificate with
    | .ok _ => .ok ()
    | .error e => .error (.invalidClientCertificate e)
  | _, _ => .error .noClientKeyFiles

/-- The external database is described completely. -/
def postgres (p : Postgres) : Check := do
  filledIn (postgresTexts p)
  if p.usesClientCerts then clientKeys p.tls.keys else .ok ()

/-- The gate of the first step. -/
def backingStorage (s : State) (r : Registry) : Check := do
  backingType s r
  if s.backingStorage.useExternalPostgres then postgres s.backingStorage.postgres else .ok ()

/-- The memory of the nodes together in GiB. -/
def memoryGib (nodes : List Node) : Float :=
  (UInt64.ofNat (totalMemory nodes)).toFloat / 1073741824.0

/-- The nodes have the resources that the profile needs. -/
def resources (s : State) : Check :=
  let profile := s.capacity.resourceProfile
  let cpu := totalCpu s.nodes
  let memory := memoryGib s.nodes
  require (profile.minCpu ≤ cpu && profile.minMemoryGib ≤ memory)
    (.tooFewResources profile cpu memory)

/-- The zones that hold data beside the arbiter. -/
def dataZones (s : State) : NameSet :=
  .ofList ((s.nodes.map (·.zone)).filter fun z => z ≠ "" && z ≠ s.capacity.arbiterLocation)

/-- The arbiter has a zone, and enough nodes and zones beside it. -/
def arbiter (s : State) : Check := do
  require (!s.capacity.arbiterLocation.isEmpty) .noArbiterZone
  require (arbiterMinimumNodes ≤ s.nodes.length) .tooFewStretchNodes
  require (2 ≤ (dataZones s).size) .tooFewDataZones

/-- The gate of the choice of capacity and nodes. -/
def capacityAndNodes (s : State) : Check := do
  require (minimumNodes ≤ s.nodes.length) .tooFewNodes
  if !s.isMcg then
    require (s.storageClass.isNoProvisioner || s.capacity.capacity.isSome) .noCapacity
    resources s
  if s.capacity.enableArbiter then arbiter s else .ok ()

/-- The gate of the local volume set. -/
def localVolumeSet (s : State) : Check := do
  let f := s.localVolumes
  require (!Text.isBlank f.name) .noVolumeSetName
  require f.isValid .invalidDiskFilter
  require (minimumNodes ≤ f.chartNodes.size) (.tooFewChartNodes f.chartNodes.size)

/-- The gate of encryption and key management. -/
def security (s : State) : Check := do
  require s.security.encryption.hasHandled .encryptionPending
  require s.security.kms.hasHandled .kmsPending
  require (!s.security.encryption.advanced || s.security.kms.isComplete)
    (.kmsIncomplete s.security.kms.provider)

/-- The gate of encryption, key management and networks. -/
def securityAndNetwork (s : State) : Check := do
  security s
  if s.security.networkType = .multus then
    require (s.security.publicNetwork.isSome || s.security.clusterNetwork.isSome) .noNetwork
  else .ok ()

/-- The gate of a vendor's form. -/
def vendorForm (s : State) (r : Registry) : Check :=
  match r.selected? s with
  | none => .error .noVendor
  | some v =>
    require (v.isComplete (s.formValues v.formStep) s.storageClass.name)
      (.vendorIncomplete v.displayName)

end Gate

/-- The settings of the step are complete. -/
def checkStep (step : StepName) (s : State) (r : Registry) : Check :=
  match step with
  | .backingStorage => Gate.backingStorage s r
  | .capacityAndNodes => Gate.capacityAndNodes s
  | .createLocalVolumeSet => Gate.localVolumeSet s
  | .securityAndNetwork => Gate.securityAndNetwork s
  | .security => Gate.security s
  | .createStorageClass => Gate.vendorForm s r
  | .connectionDetails => Gate.vendorForm s r
  | .dataProtection => .ok ()
  | .reviewAndCreate => .ok ()

/-- The settings of the step do not clash with what the cluster already runs. -/
def checkCluster (step : StepName) (s : State) (c : Context) (r : Registry) : Check :=
  match step with
  | .backingStorage =>
    if s.isExternal then
      require (!((r.selected? s).any (·.isDefault)) || !c.hasExternalStorageCluster)
        .externalClusterExists
    else require (!c.hasStorageCluster) .storageClusterExists
  | .capacityAndNodes =>
    require (!s.capacity.enableArbiter || !c.platform.isCloud) (.stretchOnCloud c.platform)
  | _ => .ok ()

/-- Both gates of a step. -/
def checkBoth (step : StepName) (s : State) (c : Context) (r : Registry) : Check := do
  checkStep step s r
  checkCluster step s c r

end StorageSetup
