import StorageSetup.Vendor.Registry
/-!
# The steps of the wizard

Which steps the user walks through follows from the settings, the cluster and the vendor. Steps are
numbered from one and recomputed whenever they are needed.

Key definitions:
- `StepName`, `Step`: a step and its place in the list
- `Context`: the facts about the cluster that matter
- `Flow`: how storage and vendor shape the list, `Flow.steps` the list of each
- `computeSteps`: the steps for the settings
-/

namespace StorageSetup

/-- A page of the wizard. -/
inductive StepName where
  | backingStorage
  | capacityAndNodes
  | securityAndNetwork
  | security
  | createLocalVolumeSet
  | createStorageClass
  | connectionDetails
  | dataProtection
  | reviewAndCreate
  deriving DecidableEq, Repr, Inhabited

namespace StepName

def title : StepName → String
  | backingStorage => "Backing storage"
  | capacityAndNodes => "Capacity and nodes"
  | securityAndNetwork => "Security and network"
  | security => "Security"
  | createLocalVolumeSet => "Create local volume set"
  | createStorageClass => "Create storage class"
  | connectionDetails => "Connection details"
  | dataProtection => "Data protection"
  | reviewAndCreate => "Review and create"

def code : StepName → String
  | backingStorage => "backing-storage"
  | capacityAndNodes => "capacity-and-nodes"
  | securityAndNetwork => "security-and-network"
  | security => "security"
  | createLocalVolumeSet => "create-local-volume-set"
  | createStorageClass => "create-storage-class"
  | connectionDetails => "connection-details"
  | dataProtection => "data-protection"
  | reviewAndCreate => "review-and-create"

def all : List StepName :=
  [backingStorage, capacityAndNodes, securityAndNetwork, security, createLocalVolumeSet,
    createStorageClass, connectionDetails, dataProtection, reviewAndCreate]

end StepName

/-- A step in its place. -/
structure Step where
  id : UInt32
  name : StepName
  /-- The step was reached before. -/
  canJumpTo : Bool
  deriving DecidableEq, Repr, Inhabited

/-- The facts about the cluster that the wizard depends on. -/
structure Context where
  platform : Platform := .unknown
  /-- An internal storage cluster exists already. -/
  hasStorageCluster : Bool := false
  /-- A storage cluster in external mode exists already. -/
  hasExternalStorageCluster : Bool := false
  /-- Several clusters are managed. -/
  hasMultipleClusters : Bool := false
  deriving DecidableEq, Repr, Inhabited

/-- The ways through the wizard. -/
inductive Flow where
  /-- Storage inside the cluster, perhaps on local devices. -/
  | internal (localDevices : Bool) (deployment : Deployment)
  /-- External mode before a vendor is chosen. -/
  | unselected
  /-- The default vendor. -/
  | defaultVendor
  /-- Another vendor, with a storage cluster on top of its class. -/
  | thirdParty
  /-- Another vendor beside a storage cluster that exists already. -/
  | thirdPartyAttached
  deriving DecidableEq, Repr

namespace Flow

/-- The flow that the settings lead to. -/
def of (s : State) (c : Context) (r : Registry) : Flow :=
  match s.backingStorage.type with
  | .existing => internal false s.backingStorage.deployment
  | .localDevices => internal true s.backingStorage.deployment
  | .external =>
    match r.selected? s with
    | none => unselected
    | some v =>
      if v.isDefault then defaultVendor
      else if c.hasStorageCluster then thirdPartyAttached
      else thirdParty

/-- The steps of a flow; data protection is among them only where several clusters are managed. -/
def allSteps : Flow → List StepName
  | internal localDevices deployment =>
    .backingStorage :: (if localDevices then [.createLocalVolumeSet] else []) ++
      .capacityAndNodes ::
      (match deployment with
        | .full => [.securityAndNetwork, .dataProtection]
        | .mcg => [.security]) ++ [.reviewAndCreate]
  | unselected => [.backingStorage, .reviewAndCreate]
  | defaultVendor => [.backingStorage, .connectionDetails, .reviewAndCreate]
  | thirdParty =>
    [.backingStorage, .createStorageClass, .capacityAndNodes, .securityAndNetwork,
      .reviewAndCreate]
  | thirdPartyAttached => [.backingStorage, .createStorageClass, .reviewAndCreate]

/-- The steps of a flow in a cluster. -/
def steps (f : Flow) (c : Context) : List StepName :=
  f.allSteps.filter fun n => n != .dataProtection || c.hasMultipleClusters

end Flow

/-- Numbers the steps from the given number on. -/
def numberSteps (reached : UInt32) : UInt32 → List StepName → List Step
  | _, [] => []
  | id, name :: rest => ⟨id, name, id ≤ reached⟩ :: numberSteps reached (id + 1) rest

/-- The steps for the settings, in order. -/
def computeSteps (s : State) (c : Context) (r : Registry) : List Step :=
  numberSteps s.stepIdReached 1 ((Flow.of s c r).steps c)

end StorageSetup
