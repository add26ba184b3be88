import StorageSetup.Wizard.State
/-!
# Actions

An action is one change of the settings. Its saved form carries a dotted tag under `type` and the
new value under `payload`, so that a file of saved actions can be replayed.

Key definitions:
- `Action`, `VolumeChange`, `FieldChange`: the changes
- `Action.tag`: the dotted tag
- `Action.variants`, `Action.toJson`, `Action.ofJson`: the saved form
- `ActionError`: a saved action that cannot be read
-/

namespace StorageSetup

open Json (Decoder DecodeError required)

/-- A new value of one field of a vendor's form. -/
structure FieldChange where
  field : String
  value : String
  deriving DecidableEq, Repr, Inhabited

namespace FieldChange

def toJson (c : FieldChange) : Json :=
  .obj [("field", .str c.field), ("value", .str c.value)]

def decode : Decoder FieldChange := fun r v => do
  let (field, value, ()) ← Json.record "FieldUpdate"
    (.cons (required "field" Json.text) <| .cons (required "value" Json.text) .nil) r v
  .ok ⟨field, value⟩

end FieldChange

/-- A new value of one field of the local volume form. -/
inductive VolumeChange where
  | name (value : String)
  | diskType (value : DiskType)
  | deviceTypes (value : List DeviceType)
  | minDiskSize (value : UInt64)
  | maxDiskSize (value : String)
  | sizeUnit (value : SizeUnit)
  | maxDiskLimit (value : String)
  | selectNodes (value : Bool)
  | selectedNodes (value : List String)
  | chartNodes (value : NameSet)
  deriving DecidableEq

namespace VolumeChange

/-- The name of the changed field. -/
def field : VolumeChange → String
  | name _ => "volumeSetName"
  | diskType _ => "diskType"
  | deviceTypes _ => "deviceType"
  | minDiskSize _ => "minDiskSize"
  | maxDiskSize _ => "maxDiskSize"
  | sizeUnit _ => "diskSizeUnit"
  | maxDiskLimit _ => "maxDiskLimit"
  | selectNodes _ => "lvsIsSelectNodes"
  | selectedNodes _ => "lvsSelectNodes"
  | chartNodes _ => "chartNodes"

/-- The new value. -/
def value : VolumeChange → Json
  | name v => .str v
  | diskType v => .str v.code
  | deviceTypes v => .strings (v.map DeviceType.code)
  | minDiskSize v => .nat v.toNat
  | maxDiskSize v => .str v
  | sizeUnit v => .str v.code
  | maxDiskLimit v => .str v
  | selectNodes v => .bool v
  | selectedNodes v => .strings v
  | chartNodes v => .strings v.names

def toJson (c : VolumeChange) : Json :=
  .obj [("field", .str c.field), ("value", c.value)]

/-- A decoder of the value beside a tag. -/
def content {α β : Type} (d : Decoder α) (f : α → β) : Json.Content β :=
  { decode := fun r v => (d r v).map f }

def decode : Decoder VolumeChange :=
  Json.tagged "LocalVolumeSetUpdate" "field" "value" [
    ("volumeSetName", content Json.text name),
    ("diskType", content DiskType.decode diskType),
    ("deviceType", content (Json.list DeviceType.decode) deviceTypes),
    ("minDiskSize", content Json.word64 fun n => minDiskSize (UInt64.ofNat n)),
    ("maxDiskSize", content Json.text maxDiskSize),
    ("diskSizeUnit", content SizeUnit.decode sizeUnit),
    ("maxDiskLimit", content Json.text maxDiskLimit),
    ("lvsIsSelectNodes", content Json.boolean selectNodes),
    ("lvsSelectNodes", content (Json.list Json.text) selectedNodes),
    ("chartNodes", content LocalVolumeForm.decodeNames chartNodes)]

end VolumeChange

/-- A change of the settings. -/
inductive Action where
  | setStepIdReached (id : UInt32)
  | setStorageClass (value : StorageClass)
  | setNodes (value : List Node)
  | setCreateStorageClass (change : FieldChange)
  | setConnectionDetails (change : FieldChange)
  | setLocalVolumes (change : VolumeChange)
  | setBackingType (value : BackingType)
  | setDeployment (value : Deployment)
  | enableNfs (value : Bool)
  | setRbdClassDefault (value : Bool)
  | setExternalStorage (kind : String)
  | useExternalPostgres (value : Bool)
  | setPostgresUsername (value : String)
  | setPostgresPassword (value : String)
  | setPostgresServerName (value : String)
  | setPostgresPort (value : String)
  | setPostgresDatabaseName (value : String)
  | setPostgresTls (value : Bool)
  | setPostgresAllowSelfSigned (value : Bool)
  | setPostgresClientCerts (value : Bool)
  | setPostgresKeys (value : PostgresKeys)
  | setCapacity (value : Option String)
  | setPvCount (value : UInt32)
  | enableArbiter (value : Bool)
  | setArbiterLocation (zone : String)
  | enableTaint (value : Bool)
  | setResourceProfile (value : ResourceProfile)
  | setEncryption (value : Encryption)
  | setKms (value : Kms)
  | setNetworkType (value : NetworkType)
  | setPublicNetwork (value : Option String)
  | setClusterNetwork (value : Option String)
  | enableRdrPreparation (value : Bool)

namespace Action

/-- The dotted tag. -/
def tag : Action → String
  | setStepIdReached _ => "wizard/setStepIdReached"
  | setStorageClass _ => "wizard/setStorageClass"
  | setNodes _ => "wizard/nodes"
  | setCreateStorageClass _ => "wizard/setCreateStorageClass"
  | setConnectionDetails _ => "wizard/setConnectionDetails"
  | setLocalVolumes _ => "wizard/setCreateLocalVolumeSet"
  | setBackingType _ => "backingStorage/setType"
  | setDeployment _ => "backingStorage/setDeployment"
  | enableNfs _ => "backingStorage/enableNFS"
  | setRbdClassDefault _ => "backingStorage/setRBDStorageClassDefault"
  | setExternalStorage _ => "backingStorage/setExternalStorage"
  | useExternalPostgres _ => "backingStorage/useExternalPostgres"
  | setPostgresUsername _ => "backingStorage/externalPostgres/setUsername"
  | setPostgresPassword _ => "backingStorage/externalPostgres/setPassword"
  | setPostgresServerName _ => "backingStorage/externalPostgres/setServerName"
  | setPostgresPort _ => "backingStorage/externalPostgres/setPort"
  | setPostgresDatabaseName _ => "backingStorage/externalPostgres/setDatabaseName"
  | setPostgresTls _ => "backingStorage/externalPostgres/setTls"
  | setPostgresAllowSelfSigned _ => "backingStorage/externalPostgres/setAllowSelfSignedCerts"
  | setPostgresClientCerts _ => "backingStorage/externalPostgres/setEnableClientSideCerts"
  | setPostgresKeys _ => "backingStorage/externalPostgres/setKeys"
  | setCapacity _ => "capacityAndNodes/capacity"
  | setPvCount _ => "capacityAndNodes/pvCount"
  | enableArbiter _ => "capacityAndNodes/enableArbiter"
  | setArbiterLocation _ => "capacityAndNodes/arbiterLocation"
  | enableTaint _ => "capacityAndNodes/enableTaint"
  | setResourceProfile _ => "capacityAndNodes/setResourceProfile"
  | setEncryption _ => "securityAndNetwork/setEncryption"
  | setKms _ => "securityAndNetwork/setKms"
  | setNetworkType _ => "securityAndNetwork/setNetworkType"
  | setPublicNetwork _ => "securityAndNetwork/setPublicNetwork"
  | setClusterNetwork _ => "securityAndNetwork/setClusterNetwork"
  | enableRdrPreparation _ => "dataProtection/enableRdrPreparation"

/-- The value the action carries. -/
def payload : Action → Json
  | setStepIdReached v => .nat v.toNat
  | setStorageClass v => v.toJson
  | setNodes v => .arr (v.map Node.toJson)
  | setCreateStorageClass v => v.toJson
  | setConnectionDetails v => v.toJson
  | setLocalVolumes v => v.toJson
  | setBackingType v => .str v.code
  | setDeployment v => .str v.code
  | enableNfs v => .bool v
  | setRbdClassDefault v => .bool v
  | setExternalStorage v => .str v
  | useExternalPostgres v => .bool v
  | setPostgresUsername v => .str v
  | setPostgresPassword v => .str v
  | setPostgresServerName v => .str v
  | setPostgresPort v => .str v
  | setPostgresDatabaseName v => .str v
  | setPostgresTls v => .bool v
  | setPostgresAllowSelfSigned v => .bool v
  | setPostgresClientCerts v => .bool v
  | setPostgresKeys v => v.toJson
  | setCapacity v => .ofOption .str v
  | setPvCount v => .nat v.toNat
  | enableArbiter v => .bool v
  | setArbiterLocation v => .str v
  | enableTaint v => .bool v
  | setResourceProfile v => .str v.code
  | setEncryption v => v.toJson
  | setKms v => v.toJson
  | setNetworkType v => .str v.code
  | setPublicNetwork v => .ofOption .str v
  | setClusterNetwork v => .ofOption .str v
  | enableRdrPreparation v => .bool v

/-- A payload that must be there. -/
def content {α : Type} (d : Decoder α) (f : α → Action) : Json.Content Action :=
  { decode := fun r v => (d r v).map f }

/-- A text that may be missing or null. -/
def maybeText (f : Option String → Action) : Json.Content Action :=
  { decode := fun r v => (Json.optional Json.text r v).map f, absent := some (f none) }

/-- The names in the saved form with the readers of their payloads, in the order of the
constructors. -/
def variants : List (String × Json.Content Action) := [
  ("wizard/setStepIdReached", content Json.word32 fun n => setStepIdReached (UInt32.ofNat n)),
  ("wizard/setStorageClass", content StorageClass.decode setStorageClass),
  ("wizard/nodes", content (Json.list Node.decode) setNodes),
  ("wizard/setCreateStorageClass", content FieldChange.decode setCreateStorageClass),
  ("wizard/setConnectionDetails", content FieldChange.decode setConnectionDetails),
  ("wizard/setCreateLocalVolumeSet", content VolumeChange.decode setLocalVolumes),
  ("backingStorage/setType", content BackingType.decode setBackingType),
  ("backingStorage/setDeployment", content Deployment.decode setDeployment),
  ("backingStorage/enableNFS", content Json.boolean enableNfs),
  ("backingStorage/setRBDStorageClassDefault", content Json.boolean setRbdClassDefault),
  ("backingStorage/setExternalStorage", content Json.text setExternalStorage),
  ("backingStorage/useExternalPostgres", content Json.boolean useExternalPostgres),
  ("backingStorage/externalPostgres/setUsername", content Json.text setPostgresUsername),
  ("backingStorage/externalPostgres/setPassword", content Json.text setPostgresPassword),
  ("backingStorage/externalPostgres/setServerName", content Json.text setPostgresServerName),
  ("backingStorage/externalPostgres/setPort", content Json.text setPostgresPort),
  ("backingStorage/externalPostgres/setDatabaseName", content Json.text setPostgresDatabaseName),
  ("backingStorage/externalPostgres/setTls", content Json.boolean setPostgresTls),
  ("backingStorage/externalPostgres/setAllowSelfSignedCerts",
    content Json.boolean setPostgresAllowSelfSigned),
  ("backingStorage/externalPostgres/setEnableClientSideCerts",
    content Json.boolean setPostgresClientCerts),
  ("backingStorage/externalPostgres/setKeys", content PostgresKeys.decode setPostgresKeys),
  ("capacityAndNodes/capacity", maybeText setCapacity),
  ("capacityAndNodes/pvCount", content Json.word32 fun n => setPvCount (UInt32.ofNat n)),
  ("capacityAndNodes/enableArbiter", content Json.boolean enableArbiter),
  ("capacityAndNodes/arbiterLocation", content Json.text setArbiterLocation),
  ("capacityAndNodes/enableTaint", content Json.boolean enableTaint),
  ("capacityAndNodes/setResourceProfile", content ResourceProfile.decode setResourceProfile),
  ("securityAndNetwork/setEncryption", content Encryption.decode setEncryption),
  ("securityAndNetwork/setKms", content Kms.decode setKms),
  ("securityAndNetwork/setNetworkType", content NetworkType.decode setNetworkType),
  ("securityAndNetwork/setPublicNetwork", maybeText setPublicNetwork),
  ("securityAndNetwork/setClusterNetwork", maybeText setClusterNetwork),
  ("dataProtection/enableRdrPreparation", content Json.boolean enableRdrPreparation)]

/-- The name in the saved form. -/
def typeName (a : Action) : String :=
  (variants.map (·.1)).getD a.ctorIdx ""

/-- The saved form. -/
def toJson (a : Action) : Json :=
  .obj [("payload", a.payload), ("type", .str a.typeName)]

def decode : Decoder Action :=
  Json.tagged "Action" "type" "payload" variants

end Action

/-- A saved action that cannot be read, with the tag it carries if it has one. -/
structure ActionError where
  tag : Option String
  reason : DecodeError

def ActionError.message (e : ActionError) : String :=
  "Invalid action " ++ e.tag.getD "<missing>" ++ ": " ++ e.reason.message

/-- The action of a saved form. -/
def Action.ofJson (v : Json) : Except ActionError Action :=
  match Action.decode .direct v with
  | .ok a => .ok a
  | .error reason => .error ⟨(v.member? "type").bind Json.string?, reason⟩

end StorageSetup
