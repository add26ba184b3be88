import StorageSetup.Json.Decode
import StorageSetup.Data.NameSet
/-!
# Cluster nodes

A node is a snapshot of a cluster node taken when the inventory is loaded. A selection of nodes is
judged by its totals and by the zones it spans.

Key definitions:
- `Taint`, `Node`: the snapshot and its JSON form
- `totalCpu`, `totalMemory`, `zones`: what a selection amounts to
- `isFlexibleScaling`: whether placement is spread by host rather than by zone
-/

namespace StorageSetup

open Json (Decoder required defaulted)

/-- The least number of nodes of a cluster. -/
def minimumNodes : Nat := 3

/-- The least number of nodes of a cluster with an arbiter. -/
def arbiterMinimumNodes : Nat := 4

/-- The label of nodes that run storage. -/
def storageNodeLabel : String := "cluster.ocs.openshift.io/openshift-storage"

/-- The label with the host name of a node. -/
def hostnameLabel : String := "kubernetes.io/hostname"

/-- A mark on a node that keeps workloads away which do not tolerate it. -/
structure Taint where
  key : String
  value : String
  effect : String
  deriving DecidableEq, Repr, Inhabited

namespace Taint

/-- The taint that reserves a node for storage. -/
def storage : Taint :=
  ⟨"node.ocs.openshift.io/storage", "true", "NoSchedule"⟩

/-- The taint in one word, without an empty value. -/
def text (t : Taint) : String :=
  if t.value.isEmpty then t.key ++ ":" ++ t.effect
  else t.key ++ "=" ++ t.value ++ ":" ++ t.effect

/-- The members in their order, an empty value left out. -/
def toJson (t : Taint) : Json :=
  .obj (("effect", .str t.effect) :: ("key", .str t.key) ::
    if t.value.isEmpty then [] else [("value", .str t.value)])

def decode : Decoder Taint := fun r v => do
  let (key, value, effect, ()) ← Json.record "NodeTaint"
    (.cons (required "key" Json.text) <| .cons (defaulted "value" Json.text "") <|
      .cons (required "effect" Json.text) .nil) r v
  .ok ⟨key, value, effect⟩

end Taint

/-- A snapshot of a cluster node. -/
structure Node where
  name : String := ""
  hostName : String := ""
  /-- Capacity in cores. -/
  cpu : Float := 0
  /-- Capacity in bytes. -/
  memory : UInt64 := 0
  zone : String := ""
  rack : String := ""
  uid : String := ""
  roles : List String := []
  labels : Dict String := ∅
  taints : List Taint := []
  deriving Inhabited

namespace Node

def toJson (n : Node) : Json :=
  .obj [
    ("cpu", .real n.cpu),
    ("hostName", .str n.hostName),
    ("labels", .texts n.labels),
    ("memory", .nat n.memory.toNat),
    ("name", .str n.name),
    ("rack", .str n.rack),
    ("roles", .strings n.roles),
    ("taints", .arr (n.taints.map Taint.toJson)),
    ("uid", .str n.uid),
    ("zone", .str n.zone)]

def decode : Decoder Node := fun r v => do
  let (name, hostName, cpu, memory, zone, rack, uid, roles, labels, taints, ()) ←
    Json.record "WizardNode"
      (.cons (required "name" Json.text) <| .cons (required "hostName" Json.text) <|
        .cons (required "cpu" Json.float) <| .cons (required "memory" Json.word64) <|
        .cons (required "zone" Json.text) <| .cons (required "rack" Json.text) <|
        .cons (required "uid" Json.text) <| .cons (required "roles" (Json.list Json.text)) <|
        .cons (required "labels" (Json.dict Json.text)) <|
        .cons (required "taints" (Json.list Taint.decode)) .nil) r v
  .ok { name, hostName, cpu, memory := UInt64.ofNat memory, zone, rack, uid, roles, labels,
        taints }

end Node

/-- The cores of the nodes together, added in order. No nodes have minus zero of them. -/
def totalCpu (nodes : List Node) : Float :=
  nodes.foldl (fun sum n => sum + n.cpu) (-0.0)

/-- The memory of the nodes together, in bytes. -/
def totalMemory (nodes : List Node) : Nat :=
  nodes.foldl (fun total n => total + n.memory.toNat) 0

/-- The zones the nodes name. -/
def zones (nodes : List Node) : NameSet :=
  NameSet.ofList ((nodes.map (·.zone)).filter (· ≠ ""))

/-- Placement is spread by host when at least three nodes without an arbiter span fewer than three
zones. -/
def isFlexibleScaling (nodes : List Node) (stretch : Bool) : Bool :=
  !stretch && minimumNodes ≤ nodes.length && (zones nodes).size < 3

end StorageSetup
