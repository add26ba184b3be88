import StorageSetup.Resource.Payload
import StorageSetup.Text.Digits
import StorageSetup.Wizard.State
/-!
# Local volume sets

The wizard matches the discovered disks against the filter of the form to show what a volume set
will cover, and hands the same filter to the operator that creates the volumes.

Key definitions:
- `Device`: a discovered disk
- `LocalVolumeForm.isValid`, `LocalVolumeForm.accepts`: the filter and what passes it
- `LocalVolumeForm.matchingNodes`, `LocalVolumeForm.matchingDevices`: the chosen nodes and disks
- `LocalVolumeForm.payload?`: the filter as the operator reads it
-/

namespace StorageSetup

open Json (Decoder required)

/-- A disk found on a node. -/
structure Device where
  node : String := ""
  path : String := ""
  deviceType : String := ""
  /-- Size in bytes. -/
  size : UInt64 := 0
  rotational : Bool := false
  /-- Only an available disk can back a volume. -/
  status : String := ""
  deriving DecidableEq, Repr, Inhabited

namespace Device

def toJson (d : Device) : Json :=
  .obj [
    ("deviceType", .str d.deviceType),
    ("node", .str d.node),
    ("path", .str d.path),
    ("rotational", .bool d.rotational),
    ("size", .nat d.size.toNat),
    ("status", .str d.status)]

def decode : Decoder Device := fun r v => do
  let (node, path, deviceType, size, rotational, status, ()) ← Json.record "DiscoveredDevice"
    (.cons (required "node" Json.text) <| .cons (required "path" Json.text) <|
      .cons (required "deviceType" Json.text) <| .cons (required "size" Json.word64) <|
      .cons (required "rotational" Json.boolean) <|
      .cons (required "status" Json.text) .nil) r v
  .ok ⟨node, path, deviceType, UInt64.ofNat size, rotational, status⟩

end Device

/-- A number of a form: blanks around it are ignored and it must be positive. -/
def readPositive? (s : String) : Option Nat :=
  (Text.parseWord (Text.trim s)).filter (0 < ·)

/-- A product of 64 bits; one that does not fit counts as the largest number that does. -/
def saturatingMul (a b : Nat) : Nat :=
  min (a * b) Text.maxWord

namespace LocalVolumeForm

/-- The upper bound is blank, or a positive number not below the lower bound. -/
def maxSizeIsValid (f : LocalVolumeForm) : Bool :=
  Text.isBlank f.maxDiskSize ||
    (readPositive? f.maxDiskSize).any (f.minDiskSize.toNat ≤ ·)

/-- The number of disks of a node is blank or positive. -/
def limitIsValid (f : LocalVolumeForm) : Bool :=
  Text.isBlank f.maxDiskLimit || (readPositive? f.maxDiskLimit).isSome

/-- The filter is in order: a positive lower bound, valid limits and a kind of device. -/
def isValid (f : LocalVolumeForm) : Bool :=
  1 ≤ f.minDiskSize && f.maxSizeIsValid && f.limitIsValid && !f.deviceTypes.isEmpty

/-- The disk is not smaller than the lower bound. -/
def reachesMinimum (f : LocalVolumeForm) (d : Device) : Bool :=
  saturatingMul f.minDiskSize.toNat f.sizeUnit.bytes ≤ d.size.toNat

/-- The disk is not larger than the upper bound, if there is one. -/
def withinMaximum (f : LocalVolumeForm) (d : Device) : Bool :=
  (readPositive? f.maxDiskSize).all fun n => d.size.toNat ≤ saturatingMul n f.sizeUnit.bytes

/-- The disk passes the filter. -/
def accepts (f : LocalVolumeForm) (d : Device) : Bool :=
  d.status == "Available" &&
    (DeviceType.ofCode? d.deviceType).any (fun t => f.deviceTypes.contains t) &&
    f.diskType.accepts d.rotational && f.reachesMinimum d && f.withinMaximum d

/-- The nodes the volume set may cover: the selected ones, or all. -/
def candidates (f : LocalVolumeForm) (allNodes : List String) : List String :=
  if f.selectNodes then f.selectedNodes else allNodes

/-- The candidates with at least one disk that passes the filter. -/
def matchingNodes (f : LocalVolumeForm) (allNodes : List String) (devices : List Device) :
    NameSet :=
  let candidates := f.candidates allNodes
  .ofList ((devices.filter fun d => candidates.contains d.node && f.accepts d).map (·.node))

/-- Keeps the first items of each key, up to the limit; `taken` lists the keys kept so far. -/
def firstOfEach {α : Type} (key : α → String) (limit : Nat) (taken : List String) :
    List α → List α
  | [] => []
  | a :: rest =>
    if taken.count (key a) < limit then a :: firstOfEach key limit (key a :: taken) rest
    else firstOfEach key limit taken rest

/-- The disks of the chart nodes that pass the filter, of each node as many as the limit allows,
the first ones counting. -/
def matchingDevices (f : LocalVolumeForm) (devices : List Device) : List Device :=
  let passing := devices.filter fun d => f.chartNodes.contains d.node && f.accepts d
  match readPositive? f.maxDiskLimit with
  | none => passing
  | some limit => firstOfEach (·.node) limit [] passing

/-- Which devices the operator includes. -/
def inclusion (f : LocalVolumeForm) : Json :=
  .obj ([
    ("deviceMechanicalProperties", .strings f.diskType.properties),
    ("deviceTypes", .strings (f.deviceTypes.map DeviceType.code))] ++
    ((readPositive? f.maxDiskSize).map fun n =>
      ("maxSize", Json.str (toString n ++ f.sizeUnit.code))).toList ++
    [("minSize", .str (toString f.minDiskSize.toNat ++ f.sizeUnit.code))])

/-- The nodes the operator includes, by their host names. -/
def selector (f : LocalVolumeForm) : Json :=
  .obj [("nodeSelectorTerms", .arr [.obj [("matchExpressions", .arr [.obj [
    ("key", .str hostnameLabel),
    ("operator", .str "In"),
    ("values", .strings f.chartNodes.names)]])]])]

/-- The volume set; its storage class carries its trimmed name. -/
def payload? (f : LocalVolumeForm) (namespaceName : String) : Except PayloadError Payload :=
  let name := Text.trim f.name
  if name.isEmpty then .error .emptyVolumeSetName
  else .ok <| .ofMembers .localVolumeSet (some namespaceName) [
    ("metadata", metadata name namespaceName),
    ("spec", .obj ([
      ("deviceInclusionSpec", f.inclusion)] ++
      ((readPositive? f.maxDiskLimit).map fun n => ("maxDeviceCount", Json.nat n)).toList ++
      [("nodeSelector", f.selector),
      ("storageClassName", .str name),
      ("volumeMode", .str f.diskMode.code)]))]

end LocalVolumeForm

end StorageSetup
