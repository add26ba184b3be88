import StorageSetup.Cluster.Taint
import StorageSetup.Quantity
import StorageSetup.Text.Search
/-!
# Snapshots of nodes

A node object carries its place, its roles and its capacity in labels and texts. The snapshot that
the wizard works with has them as fields.

Key definitions:
- `NodeObject`: the parts of a node object that matter
- `NodeObject.snapshot`: the node as the wizard sees it
-/

namespace StorageSetup

open Json (Decoder DecodeError)

def zoneLabel : String := "topology.kubernetes.io/zone"

/-- The label for zones on clusters of older versions. -/
def legacyZoneLabel : String := "failure-domain.beta.kubernetes.io/zone"

def rackLabel : String := "topology.rook.io/rack"

/-- The beginning of labels that name a role of a node. -/
def roleLabelStart : String := "node-role.kubernetes.io/"

/-- The parts of a node object that matter. -/
structure NodeObject where
  name : String := ""
  uid : String := ""
  labels : Dict String := ∅
  taints : List NodeTaint := []
  /-- Quantities by the name of the resource. -/
  capacity : Dict String := ∅
  deriving Inhabited

namespace NodeObject

/-- The part of an object under a name, or the given one where it is missing or null. -/
def part {α : Type} (name : String) (d : Decoder α) (absent : α) (v : Json) :
    Except DecodeError α :=
  match v.member? name with
  | none | some .null => .ok absent
  | some w => d .direct w

/-- An object read by the parts it has. -/
def section? (expected : String) : Decoder Json := fun _ v =>
  match v with
  | .obj _ => .ok v
  | _ => Json.mismatch expected v

def decode : Decoder NodeObject := fun r v => do
  let v ← section? "Node" r v
  Json.checkKind "v1" "Node" v
  let metadata ← part "metadata" Json.objectMeta (.obj []) v
  let spec ← part "spec" (section? "NodeSpec") (.obj []) v
  let status ← part "status" (section? "NodeStatus") (.obj []) v
  let labels ← part "labels" (Json.dict Json.text) ∅ metadata
  let taints ← part "taints" (Json.list NodeTaint.decode) [] spec
  let capacity ← part "capacity" (Json.dict Json.text) ∅ status
  let text (name : String) := ((metadata.member? name).bind Json.string?).getD ""
  .ok { name := text "name", uid := text "uid", labels, taints, capacity }

/-- The zone: the label of today, else the one of older versions. -/
def zone (o : NodeObject) : String :=
  ((o.labels.get? zoneLabel).or (o.labels.get? legacyZoneLabel)).getD ""

/-- The roles that labels name, in the order of the labels. -/
def roles (o : NodeObject) : List String :=
  o.labels.keys.filterMap fun k =>
    match Text.withoutBeginning? roleLabelStart.toList k.toList with
    | some [] | none => none
    | some role => some (String.ofList role)

/-- A quantity of the capacity, zero where it is missing or no number. -/
def quantity (o : NodeObject) (resource : String) : Float :=
  ((o.capacity.get? resource).bind readQuantity?).getD 0

/-- The node as the wizard sees it. -/
def snapshot (o : NodeObject) : Node where
  name := o.name
  hostName := (o.labels.get? hostnameLabel).getD ""
  cpu := o.quantity "cpu"
  memory := (o.quantity "memory").toUInt64
  zone := o.zone
  rack := (o.labels.get? rackLabel).getD ""
  uid := o.uid
  roles := o.roles
  labels := o.labels
  taints := o.taints.map NodeTaint.toTaint

end NodeObject

end StorageSetup
