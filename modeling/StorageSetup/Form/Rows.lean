import StorageSetup.Form.BackingStorage
import StorageSetup.Form.Nodes
import StorageSetup.Form.Security
/-!
# The form of a step

The rows follow from the settings and the inventory alone, so they are built anew after every
change.

Key definitions:
- `vendorRows`, `reviewRows`: the form of a vendor, and the summary before the end
- `rows`: the rows of a step
-/

namespace StorageSetup.Form

/-- A change of a field of a vendor's form. -/
def fieldChange (step : FormStep) (id value : String) : Action :=
  match step with
  | .createStorageClass => .setCreateStorageClass ⟨id, value⟩
  | .connectionDetails => .setConnectionDetails ⟨id, value⟩

/-- The row of a field; required fields are starred. -/
def fieldRow (step : FormStep) (field : FormField) (current : String) : Row :=
  let label := if field.required then field.label ++ " *" else field.label
  let change (value : String) : List Action := [fieldChange step field.id value]
  match field.kind with
  | .text => Row.text label current fun v => change (Text.trim v)
  | .secret => Row.secret label current change
  | .choice values =>
    Row.choice label (if current.isEmpty then "not set" else current)
      (((cycle values current).map change).getD [])
  | .json => Row.document label (if current.isEmpty then none else some current) change

/-- The form of the chosen vendor. -/
def vendorRows (w : Session) (step : FormStep) : List Row :=
  match w.registry.selected? w.state with
  | none => [Row.info "Platform" "none selected"]
  | some v =>
    let values := w.state.formValues step
    Row.info "Platform" v.displayName ::
      v.form.map fun field => fieldRow step field ((values.get? field.id).getD "")

/-- What is encrypted, and whether the keys come from an external service. -/
def encryptionSummary (e : Encryption) : String :=
  let parts := [(e.clusterWide, "cluster-wide"), (e.storageClass, "storage class"),
    (e.inTransit, "in-transit"), (e.advanced, "external KMS")]
  let enabled := (parts.filter (·.1)).map (·.2)
  if enabled.isEmpty then "none" else String.intercalate ", " enabled

/-- The summary of a cluster with internal storage. -/
def internalSummary (s : State) : List Row :=
  let c := s.capacity
  [ Row.info "Deployment" s.backingStorage.deployment.label,
    Row.info "Nodes" (toString s.nodes.length) ] ++
  (c.capacity.map (Row.info "Capacity")).toList ++
  [ Row.info "Resource profile" c.resourceProfile.code,
    Row.info "Taint nodes" (mark c.enableTaint) ] ++
  (if c.enableArbiter then [Row.info "Arbiter zone" c.arbiterLocation] else [])

/-- The summary before the end. -/
def reviewRows (w : Session) : List Row :=
  let s := w.state
  Row.info "Backing storage" s.backingStorage.type.label ::
    (if s.isExternal then
      [Row.info "Platform" (match w.registry.selected? s with
        | some v => v.displayName
        | none => s.backingStorage.externalStorage)]
    else internalSummary s) ++
    (if s.storageClass.name.isEmpty then []
      else [Row.info "Storage class" s.storageClass.name]) ++
    [Row.info "Encryption" (encryptionSummary s.security.encryption)]

/-- The rows of a step. -/
def rows (step : StepName) (w : Session) (i : Inventory) : List Row :=
  let s := w.state
  match step with
  | .backingStorage => backingStorageRows w i
  | .capacityAndNodes => capacityRows s i
  | .createLocalVolumeSet => localVolumeRows s i
  | .security => securityRows s false
  | .securityAndNetwork => securityRows s true
  | .createStorageClass => vendorRows w .createStorageClass
  | .connectionDetails => vendorRows w .connectionDetails
  | .dataProtection =>
    let on := s.dataProtection.enableRdrPreparation
    [Row.toggle "Prepare for disaster recovery" on (.enableRdrPreparation !on)]
  | .reviewAndCreate => reviewRows w

end StorageSetup.Form
