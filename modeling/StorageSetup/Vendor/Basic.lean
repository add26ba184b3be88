import StorageSetup.Config
import StorageSetup.Resource.Payload
import StorageSetup.Wizard.State
/-!
# Vendors of external storage

A vendor contributes a form, judges its values and turns them into resources. Vendors are entries
of a registry, one a kind, and the wizard knows them only through this record.

Key definitions:
- `Vendor`: everything the wizard asks of a vendor
- `FormField`: one input of a vendor's form
- `requiredFieldsPresent`: the condition common to all forms
-/

namespace StorageSetup

/-- The step of the wizard that shows a vendor's form. -/
inductive FormStep where
  | createStorageClass
  | connectionDetails
  deriving DecidableEq, Repr, Inhabited

/-- How a field is edited. -/
inductive FieldKind where
  | text
  /-- Shown masked. -/
  | secret
  /-- One of a fixed list of values. -/
  | choice (values : List String)
  /-- A document pasted from a file. -/
  | json
  deriving DecidableEq, Repr

/-- One input of a vendor's form. -/
structure FormField where
  id : String
  label : String
  kind : FieldKind
  required : Bool
  deriving DecidableEq, Repr

/-- What a vendor's resources are built from. -/
structure VendorRequest where
  systemName : String
  namespaceName : String
  storageClassName : String
  form : FormValues
  inTransitEncryption : Bool

/-- A vendor of external storage. -/
structure Vendor where
  displayName : String
  /-- The kind of resource that stands for a system of the vendor. -/
  model : ResourceModel
  formStep : FormStep
  form : List FormField
  /-- The provisioner of the storage class the vendor creates, if it creates one. -/
  provisioner : Option String
  /-- The name of the system. -/
  systemName : FormValues → Config → String
  /-- The resources of the system. -/
  payloads : VendorRequest → Except PayloadError (List Payload)
  /-- Whether the form is complete, given the name of the storage class. -/
  isComplete : FormValues → String → Bool
  /-- The definition that must be established before the resources can be created. -/
  readiness : Option String

namespace Vendor

def kind (v : Vendor) : String :=
  v.model.kind

/-- The kind of the default vendor, an external Ceph cluster. -/
def defaultKind : String := "StorageCluster"

def isDefault (v : Vendor) : Bool :=
  v.kind == defaultKind

/-- The resources must wait for the vendor's definition. -/
def waits (v : Vendor) : Bool :=
  v.readiness.isSome

end Vendor

/-- The values of the form that a step shows. -/
def State.formValues (s : State) : FormStep → FormValues
  | .createStorageClass => s.createStorageClass
  | .connectionDetails => s.connectionDetails

/-- Every required field has a value that is not blank. -/
def requiredFieldsPresent (fields : List FormField) (form : FormValues) : Bool :=
  (fields.filter (·.required)).all fun f => (form.get? f.id).any fun v => !Text.isBlank v

end StorageSetup
