import StorageSetup.Resource.Kms
import StorageSetup.Resource.StorageCluster
import StorageSetup.Resource.StorageSystem
import StorageSetup.Wizard.Gate
/-!
# The plan of a submission

The settings become a list of operations: the namespace, labels and taints of the nodes, then the
resources in an order in which each finds what it names.

Key definitions:
- `Operation`, `Plan`: the operations in order
- `PlanError`: why there is no plan
- `planSubmission`: the plan for the settings
-/

namespace StorageSetup

/-- One operation of a submission. -/
inductive Operation where
  | ensureNamespace (name : String) (labels : Dict String)
  | labelNode (node : String) (labels : Dict String)
  | taintNode (node : String) (taint : Taint)
  | create (payload : Payload)
  /-- Waits until the vendor of the kind is ready. -/
  | waitForVendor (kind : String)

/-- The operation in one line. -/
def Operation.text : Operation → String
  | ensureNamespace name _ => "ensure namespace " ++ name
  | labelNode node _ => "label node " ++ node
  | taintNode node taint => "taint node " ++ node ++ " with " ++ taint.text
  | create payload => "create " ++ payload.describe
  | waitForVendor kind => "wait for " ++ kind ++ " API"

/-- The operations of a submission in order. -/
structure Plan where
  operations : List Operation := []

/-- The resources of a plan in order. -/
def Plan.payloads (p : Plan) : List Payload :=
  p.operations.filterMap fun
    | .create payload => some payload
    | _ => none

/-- The coordinates of a kind, in the order of writing. -/
def ResourceModel.toJson (m : ResourceModel) : Json :=
  .obj [
    ("group", .str m.group),
    ("version", .str m.version),
    ("kind", .str m.kind),
    ("plural", .str m.plural),
    ("namespaced", .bool m.namespaced)]

/-- A resource to create, in the order of writing. -/
def Payload.toJson (p : Payload) : Json :=
  .obj [
    ("model", p.model.toJson),
    ("namespace", .ofOption .str p.namespaceName),
    ("body", p.body.canonical)]

/-- The written form of a taint inside a plan. -/
def Taint.document (t : Taint) : Json :=
  .obj (("key", .str t.key) ::
    (if t.value.isEmpty then [] else [("value", .str t.value)]) ++ [("effect", .str t.effect)])

/-- An operation in the order of writing, its kind first. -/
def Operation.toJson : Operation → Json
  | ensureNamespace name labels =>
    .obj [("op", .str "ensureNamespace"), ("name", .str name), ("labels", .texts labels)]
  | labelNode node labels =>
    .obj [("op", .str "labelNode"), ("node", .str node), ("labels", .texts labels)]
  | taintNode node taint =>
    .obj [("op", .str "taintNode"), ("node", .str node), ("taint", taint.document)]
  | create payload => .obj [("op", .str "create"), ("payload", payload.toJson)]
  | waitForVendor kind => .obj [("op", .str "waitForProvider"), ("kind", .str kind)]

/-- A plan in the order of writing. -/
def Plan.toJson (p : Plan) : Json :=
  .obj [("operations", .arr (p.operations.map Operation.toJson))]

/-- Why there is no plan. -/
inductive PlanError where
  | conflict (reason : Refusal)
  | unknownVendor (kind : String)
  | payload (reason : PayloadError)

def PlanError.message : PlanError → String
  | .conflict reason => "Conflicts with the cluster: " ++ reason.message
  | .unknownVendor kind => "Unknown external storage provider: " ++ kind
  | .payload reason => reason.message

/-- The label that turns monitoring on for a namespace. -/
def monitoringLabels : Dict String :=
  .ofList [("openshift.io/cluster-monitoring", "true")]

/-- The label of a node that runs storage. -/
def storageLabels : Dict String :=
  .ofList [(storageNodeLabel, "")]

/-- The steps of the settings do not clash with the cluster; the first clash is reported. -/
def checkConflicts (s : State) (c : Context) (r : Registry) : List Step → Except PlanError Unit
  | [] => .ok ()
  | step :: rest =>
    match checkCluster step.name s c r with
    | .error reason => .error (.conflict reason)
    | .ok _ => checkConflicts s c r rest

/-- The vendor of a submission in external mode, which must be registered. -/
def chosenVendor (s : State) (r : Registry) : Except PlanError (Option Vendor) :=
  if s.isExternal then
    match r.get? s.backingStorage.externalStorage with
    | some v => .ok (some v)
    | none => .error (.unknownVendor s.backingStorage.externalStorage)
  else .ok none

/-- A storage cluster is created inside, or on top of the class of a vendor other than the default
one where there is none yet. -/
def createsStorageCluster (vendor : Option Vendor) (c : Context) : Bool :=
  match vendor with
  | none => true
  | some v => !v.isDefault && !c.hasStorageCluster

/-- Labels, and taints where they are asked for, of the chosen nodes. -/
def nodeOperations (s : State) : List Operation :=
  s.nodes.map (fun n => .labelNode n.name storageLabels) ++
    if s.capacity.enableTaint then s.nodes.map fun n => .taintNode n.name .storage else []

/-- A step of the planning that can fail for want of a resource. -/
def orPayloadError {α : Type} : Except PayloadError α → Except PlanError α
  | .ok a => .ok a
  | .error e => .error (.payload e)

/-- What the storage cluster needs beside it: key management, database, local volumes. -/
def clusterResources (s : State) (config : Config) : Except PlanError (List Payload) := do
  let kms :=
    if s.security.encryption.usesKms && !s.isMcg then
      s.security.kms.payloads config.namespaceName
    else []
  let database ←
    if s.backingStorage.useExternalPostgres then
      orPayloadError (s.backingStorage.postgres.payloads config.namespaceName)
    else .ok []
  let volumes ←
    if s.backingStorage.type = .localDevices then
      (orPayloadError (s.localVolumes.payload? config.localStorageNamespace)).map ([·])
    else .ok []
  .ok (kms ++ database ++ volumes)

/-- The name and kind of the resource that the storage system stands for. -/
def systemOf (s : State) (config : Config) : Option Vendor → String × ResourceModel
  | some v => (v.systemName (s.formValues v.formStep) config, v.model)
  | none => (config.storageClusterName, .storageCluster)

/-- The operations for a vendor: waiting where it must be waited for, then its resources. -/
def vendorOperations (s : State) (config : Config) (v : Vendor) :
    Except PlanError (List Operation) := do
  let payloads ← orPayloadError <| v.payloads {
    systemName := v.systemName (s.formValues v.formStep) config
    namespaceName := config.namespaceName
    storageClassName := s.storageClass.name
    form := s.formValues v.formStep
    inTransitEncryption := s.security.encryption.inTransit }
  .ok ((if v.waits then [.waitForVendor v.kind] else []) ++ payloads.map .create)

/-- The operations for the settings. -/
def planSubmission (s : State) (c : Context) (r : Registry) (config : Config) :
    Except PlanError Plan := do
  checkConflicts s c r (computeSteps s c r)
  let vendor ← chosenVendor s r
  let creates := createsStorageCluster vendor c
  let resources ← if creates then clusterResources s config else .ok []
  let (systemName, systemModel) := systemOf s config vendor
  let cluster ←
    if creates then (orPayloadError (storageClusterPayload s config)).map ([·]) else .ok []
  let vendorOps ← match vendor with
    | some v => vendorOperations s config v
    | none => .ok []
  .ok ⟨.ensureNamespace config.namespaceName monitoringLabels ::
    (if creates then nodeOperations s else []) ++
    resources.map .create ++
    .create (storageSystemPayload systemName systemModel config.namespaceName) ::
    cluster.map .create ++ vendorOps⟩

end StorageSetup
