import StorageSetup.Json.Decode
/-!
# Choices

The closed sets of values a user picks from. Each choice has a code, which is its form in JSON, and
most have a label for the screen and a successor, which is what activating a row of a form selects.

Key definitions:
- `BackingType`, `Deployment`, `ResourceProfile`, `NetworkType`: the shape of the cluster
- `DiskType`, `DeviceType`, `DiskMode`, `SizeUnit`: the filter for local disks
- `KmsProvider`, `VaultAuth`: key management
- `Platform`: what the cluster runs on

-/

namespace StorageSetup

open Json (Decoder Reading DecodeError)

/-- Where the storage comes from. -/
inductive BackingType where
  /-- An existing storage class of the platform. -/
  | existing
  /-- Local disks discovered on the nodes. -/
  | localDevices
  /-- A storage system outside the cluster. -/
  | external
  deriving DecidableEq, Repr, Inhabited

namespace BackingType

def code : BackingType → String
  | existing => "EXISTING"
  | localDevices => "LOCAL_DEVICES"
  | external => "EXTERNAL"

def all : List BackingType := [existing, localDevices, external]

def label : BackingType → String
  | existing => "Use an existing StorageClass"
  | localDevices => "Create a new StorageClass using local storage devices"
  | external => "Connect an external storage platform"

def next : BackingType → BackingType
  | existing => localDevices
  | localDevices => external
  | external => existing

end BackingType

/-- Which services the storage system provides. -/
inductive Deployment where
  /-- Block, file and object services. -/
  | full
  /-- The multicloud object gateway only. -/
  | mcg
  deriving DecidableEq, Repr, Inhabited

namespace Deployment

def code : Deployment → String
  | full => "FULL"
  | mcg => "MCG"

def all : List Deployment := [full, mcg]

def label : Deployment → String
  | full => "Full deployment"
  | mcg => "MultiCloud Object Gateway"

def next : Deployment → Deployment
  | full => mcg
  | mcg => full

end Deployment

/-- How much the storage daemons may use. -/
inductive ResourceProfile where
  | lean
  | balanced
  | performance
  deriving DecidableEq, Repr

instance : Inhabited ResourceProfile := ⟨.balanced⟩

namespace ResourceProfile

def code : ResourceProfile → String
  | lean => "lean"
  | balanced => "balanced"
  | performance => "performance"

def all : List ResourceProfile := [lean, balanced, performance]

def next : ResourceProfile → ResourceProfile
  | lean => balanced
  | balanced => performance
  | performance => lean

/-- The CPUs the selected nodes must have together. -/
def minCpu : ResourceProfile → Float
  | lean => 24.0
  | balanced => 30.0
  | performance => 45.0

/-- The memory in GiB the selected nodes must have together. -/
def minMemoryGib : ResourceProfile → Float
  | lean => 72.0
  | balanced => 72.0
  | performance => 96.0

end ResourceProfile

/-- The network of the cluster. -/
inductive NetworkType where
  /-- The network of the pods. -/
  | pods
  /-- Additional networks attached to the pods. -/
  | multus
  deriving DecidableEq, Repr, Inhabited

namespace NetworkType

def code : NetworkType → String
  | pods => "DEFAULT"
  | multus => "MULTUS"

def all : List NetworkType := [pods, multus]

def next : NetworkType → NetworkType
  | pods => multus
  | multus => pods

end NetworkType

/-- The mechanical property asked of local disks. -/
inductive DiskType where
  | any
  | solidState
  | rotating
  deriving DecidableEq, Repr, Inhabited

namespace DiskType

def code : DiskType → String
  | any => "All"
  | solidState => "SSD / NVMe"
  | rotating => "HDD"

/-- The name in forms. -/
def label : DiskType → String
  | any => "All"
  | solidState => "Ssd"
  | rotating => "Hdd"

def all : List DiskType := [any, solidState, rotating]

def next : DiskType → DiskType
  | any => solidState
  | solidState => rotating
  | rotating => any

/-- The properties a volume set includes. -/
def properties : DiskType → List String
  | any => ["Rotational", "NonRotational"]
  | solidState => ["NonRotational"]
  | rotating => ["Rotational"]

/-- Whether a disk that rotates or does not is accepted. -/
def accepts : DiskType → Bool → Bool
  | any, _ => true
  | solidState, rotational => !rotational
  | rotating, rotational => rotational

end DiskType

/-- The kind of a block device. -/
inductive DeviceType where
  | disk
  | part
  | mpath
  deriving DecidableEq, Repr, Inhabited

namespace DeviceType

def code : DeviceType → String
  | disk => "disk"
  | part => "part"
  | mpath => "mpath"

def all : List DeviceType := [disk, part, mpath]

/-- The kind reported for a discovered device; other kinds are not supported. -/
def ofCode? (s : String) : Option DeviceType :=
  all.find? (·.code == s)

end DeviceType

/-- How local volumes are presented. -/
inductive DiskMode where
  | block
  deriving DecidableEq, Repr, Inhabited

namespace DiskMode

def code : DiskMode → String
  | block => "Block"

def all : List DiskMode := [block]

end DiskMode

/-- The unit of the sizes in the filter for local disks. -/
inductive SizeUnit where
  | gi
  | ti
  deriving DecidableEq, Repr, Inhabited

namespace SizeUnit

def code : SizeUnit → String
  | gi => "Gi"
  | ti => "Ti"

def all : List SizeUnit := [gi, ti]

def next : SizeUnit → SizeUnit
  | gi => ti
  | ti => gi

/-- The number of bytes of one unit. -/
def bytes : SizeUnit → Nat
  | gi => 1073741824
  | ti => 1099511627776

end SizeUnit

/-- The key management service. -/
inductive KmsProvider where
  | vault
  | kmip
  deriving DecidableEq, Repr, Inhabited

namespace KmsProvider

def code : KmsProvider → String
  | vault => "vault"
  | kmip => "kmip"

def all : List KmsProvider := [vault, kmip]

def label : KmsProvider → String
  | vault => "Vault"
  | kmip => "KMIP"

def next : KmsProvider → KmsProvider
  | vault => kmip
  | kmip => vault

end KmsProvider

/-- How the operators log in to Vault. -/
inductive VaultAuth where
  | token
  | kubernetes
  deriving DecidableEq, Repr, Inhabited

namespace VaultAuth

def code : VaultAuth → String
  | token => "token"
  | kubernetes => "kubernetes"

def all : List VaultAuth := [token, kubernetes]

def next : VaultAuth → VaultAuth
  | token => kubernetes
  | kubernetes => token

end VaultAuth

/-- The codes of all values of a choice with the values. -/
def coded {α : Type} (code : α → String) (all : List α) : List (String × α) :=
  all.map fun a => (code a, a)

def BackingType.decode : Decoder BackingType := Json.variant (coded code all)

def Deployment.decode : Decoder Deployment := Json.variant (coded code all)

def ResourceProfile.decode : Decoder ResourceProfile := Json.variant (coded code all)

def NetworkType.decode : Decoder NetworkType := Json.variant (coded code all)

def DiskType.decode : Decoder DiskType := Json.variant (coded code all)

def DeviceType.decode : Decoder DeviceType := Json.variant (coded code all)

def DiskMode.decode : Decoder DiskMode := Json.variant (coded code all)

def SizeUnit.decode : Decoder SizeUnit := Json.variant (coded code all)

def KmsProvider.decode : Decoder KmsProvider := Json.variant (coded code all)

def VaultAuth.decode : Decoder VaultAuth := Json.variant (coded code all)

/-- What the cluster runs on. -/
inductive Platform where
  | aws
  | azure
  | gcp
  | bareMetal
  | vSphere
  | openStack
  | unknown
  | other (name : String)
  deriving DecidableEq, Repr

instance : Inhabited Platform := ⟨.unknown⟩

namespace Platform

/-- The platform with the reported name; no name means none is known. -/
def ofName (name : String) : Platform :=
  match name with
  | "AWS" => aws
  | "Azure" => azure
  | "GCP" => gcp
  | "BareMetal" => bareMetal
  | "VSphere" => vSphere
  | "OpenStack" => openStack
  | "None" => unknown
  | "" => unknown
  | _ => other name

def name : Platform → String
  | aws => "AWS"
  | azure => "Azure"
  | gcp => "GCP"
  | bareMetal => "BareMetal"
  | vSphere => "VSphere"
  | openStack => "OpenStack"
  | unknown => "None"
  | other n => n

/-- Platforms whose storage classes provision cloud volumes. -/
def isCloud : Platform → Bool
  | aws => true
  | azure => true
  | gcp => true
  | _ => false

/-- The saved form: the name, wrapped where it is none of the known ones. -/
def toJson : Platform → Json
  | other n => Json.object [("Other", Json.str n)]
  | p => Json.str p.name

end Platform

end StorageSetup
