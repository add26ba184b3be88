import StorageSetup.Cluster.Inventory
import StorageSetup.Decimal.Shortest
import StorageSetup.Form.Row
/-!
# The forms for capacity, nodes and local volumes

Nodes are chosen one by one. Whatever was chosen before, a choice leaves nodes of the inventory in
its order.

Key definitions:
- `toggledNodes`: the chosen nodes with one more or one less
- `capacityRows`, `localVolumeRows`: the rows of the two steps
-/

namespace StorageSetup.Form

/-- The capacities offered for volumes that are provisioned on demand. -/
def capacityOptions : List String :=
  ["0.5Ti", "2Ti", "4Ti"]

/-- A text with blanks behind it. -/
def padRight (width : Nat) (s : String) : String :=
  s ++ Text.fill (width - s.length) ' '

/-- A text with blanks before it. -/
def padLeft (width : Nat) (s : String) : String :=
  Text.fill (width - s.length) ' ' ++ s

/-- A node in one line. -/
def nodeSummary (n : Node) : String :=
  padRight 28 n.name ++ " " ++ padLeft 5 (Decimal.plain n.cpu) ++ " CPU " ++
    padLeft 10 (formatBytes n.memory) ++ "  " ++ (if n.zone.isEmpty then "-" else n.zone)

/-- The nodes of the inventory that were chosen, with the given one chosen where it was not and
left out where it was. -/
def toggledNodes (chosen : List Node) (n : Node) (i : Inventory) : List Node :=
  let wasChosen (name : String) : Bool := chosen.any (·.name == name)
  i.nodes.filter fun m =>
    if m.name == n.name then !wasChosen n.name else wasChosen m.name

/-- The nodes that can be chosen: all of them, or those with local disks. -/
def candidateNodes (s : State) (i : Inventory) : List Node :=
  i.nodes.filter fun n =>
    !s.storageClass.isNoProvisioner || s.localVolumes.chartNodes.contains n.name

/-- The zones to choose from for the arbiter. -/
def arbiterRow (c : Capacity) (i : Inventory) : Row :=
  let next := cycle (zones i.nodes).names c.arbiterLocation
  Row.choice "  Arbiter zone" (if c.arbiterLocation.isEmpty then "not set" else c.arbiterLocation)
    (next.map Action.setArbiterLocation).toList

/-- The size and layout of a cluster. -/
def sizeRows (s : State) (i : Inventory) : List Row :=
  let c := s.capacity
  (if s.storageClass.isNoProvisioner then Row.info "Local PVs" (toString c.pvCount.toNat)
    else Row.choice "Capacity" (c.capacity.getD "not set")
      [.setCapacity (match c.capacity with
        | some current => cycle capacityOptions current
        | none => capacityOptions.head?)]) ::
    [ Row.choice "Resource profile" c.resourceProfile.code
        [.setResourceProfile c.resourceProfile.next],
      Row.toggle "Stretch cluster with arbiter" c.enableArbiter
        (.enableArbiter !c.enableArbiter) ] ++
    (if c.enableArbiter then [arbiterRow c i] else [])

/-- The rows of the step for capacity and nodes. -/
def capacityRows (s : State) (i : Inventory) : List Row :=
  (if s.isMcg then [] else sizeRows s i) ++
    [Row.toggle "Taint nodes" s.capacity.enableTaint (.enableTaint !s.capacity.enableTaint)] ++
    ((candidateNodes s i).map fun n =>
      Row.option "Node" (s.nodes.any (·.name == n.name)) (nodeSummary n)
        (.setNodes (toggledNodes s.nodes n i))) ++
    [Row.info "Selected" (toString s.nodes.length ++ " nodes, " ++
      Decimal.plain (totalCpu s.nodes) ++ " CPU, " ++
      formatBytes (UInt64.ofNat (totalMemory s.nodes)))]

/-- A change of the local volume form. -/
def volumeChange (c : VolumeChange) : List Action :=
  [.setLocalVolumes c]

/-- The names with one more at the end, or without it where it was among them. -/
def toggledNames (names : List String) (name : String) : List String :=
  if names.contains name then names.filter (· ≠ name) else names ++ [name]

/-- The rows of the step for local volumes. -/
def localVolumeRows (s : State) (i : Inventory) : List Row :=
  let f := s.localVolumes
  [ Row.text "Volume set name" f.name fun v => volumeChange (.name (Text.trim v)),
    Row.choice "Disk type" f.diskType.label (volumeChange (.diskType f.diskType.next)),
    Row.checked "Minimum disk size" (toString f.minDiskSize.toNat) fun v =>
      (Text.parseWord (Text.trim v)).map fun n => volumeChange (.minDiskSize (UInt64.ofNat n)),
    Row.text "Maximum disk size" f.maxDiskSize fun v => volumeChange (.maxDiskSize (Text.trim v)),
    Row.choice "Size unit" f.sizeUnit.code (volumeChange (.sizeUnit f.sizeUnit.next)),
    Row.text "Disk limit per node" f.maxDiskLimit fun v =>
      volumeChange (.maxDiskLimit (Text.trim v)),
    Row.toggle "Filter nodes" f.selectNodes (.setLocalVolumes (.selectNodes !f.selectNodes)) ] ++
  (if !f.selectNodes then [] else i.nodes.map fun n =>
    Row.option "  Node" (f.selectedNodes.contains n.name) (nodeSummary n)
      (.setLocalVolumes (.selectedNodes (toggledNames f.selectedNodes n.name)))) ++
  [ Row.info "Nodes with matching disks" (toString f.chartNodes.size),
    Row.info "Matching disks" (toString s.capacity.pvCount.toNat) ]

end StorageSetup.Form
