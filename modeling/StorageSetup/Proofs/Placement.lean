import StorageSetup.Proofs.DeviceSet
/-!
# Placing a device set

The devices of a cluster can be placed when there is a disk and a failure domain for each of their
replicas. The replicas follow the arbiter and the zones of the nodes, the number of sets the disks
they have to fill. A cluster that is not spread by host has its three zones from the gate of the
nodes: the gate asks for three nodes, and three nodes in fewer zones are spread by host.

Key definitions: `Sizing`, `Payload.HasSizing`, `SpansZones`.
Key theorems: `spansZones_iff`, `isFlexibleScaling_eq_true_iff`, `hasSizing_of_payload`,
`storageCluster_placeable`.
-/

namespace StorageSetup

/-! ### Zones -/

/-- So many different zones have a node. The empty name is no zone. -/
def SpansZones (nodes : List Node) (k : Nat) : Prop :=
  ∃ spanned : List String, spanned.Nodup ∧ k ≤ spanned.length ∧
    ∀ zone ∈ spanned, zone ≠ "" ∧ ∃ n ∈ nodes, n.zone = zone

theorem mem_zones {nodes : List Node} {zone : String} :
    zone ∈ zones nodes ↔ zone ≠ "" ∧ ∃ n ∈ nodes, n.zone = zone := by
  unfold zones
  rw [NameSet.mem_ofList, List.mem_filter, List.mem_map, and_comm, decide_eq_true_eq]

theorem spansZones_iff {nodes : List Node} {k : Nat} :
    SpansZones nodes k ↔ k ≤ (zones nodes).size := by
  constructor
  · rintro ⟨spanned, hnodup, hk, hall⟩
    have hle : spanned.length ≤ (zones nodes).size :=
      NameSet.length_le_size hnodup fun zone hz => mem_zones.mpr (hall zone hz)
    exact Nat.le_trans hk hle
  · intro hk
    exact ⟨(zones nodes).names, (zones nodes).nodup, hk, fun _ hz => mem_zones.mp hz⟩

/-- Placement is spread by host where three nodes without an arbiter have too few zones. -/
theorem isFlexibleScaling_eq_true_iff {nodes : List Node} {stretch : Bool} :
    isFlexibleScaling nodes stretch = true ↔
      stretch = false ∧ minimumNodes ≤ nodes.length ∧ ¬ SpansZones nodes 3 := by
  unfold isFlexibleScaling
  rw [spansZones_iff, Nat.not_le]
  simp [and_assoc]

/-! ### What a resource shows -/

/-- The size of a device set, and what it is chosen by. -/
structure Sizing where
  replica : Nat
  count : Nat
  portable : Bool
  flexible : Bool
  stretched : Bool

/-- A member of the only device set of a cluster. -/
def Payload.deviceMember? (p : Payload) (name : String) : Option Json :=
  match p.body.at? ["spec", "storageDeviceSets"] with
  | some (.arr [set]) => set.at? [name]
  | _ => none

/-- The resource of a cluster has this sizing. A stretched one has both an arbiter and the place of
the arbiter, any other has neither. -/
structure Payload.HasSizing (p : Payload) (z : Sizing) : Prop where
  replica : p.deviceMember? "replica" = some (.nat z.replica)
  count : p.deviceMember? "count" = some (.nat z.count)
  portable : p.deviceMember? "portable" = some (.bool z.portable)
  flexible : p.body.at? ["spec", "flexibleScaling"] = some (.bool z.flexible)
  arbiter : (p.body.at? ["spec", "arbiter"]).isSome = z.stretched
  nodeTopologies : (p.body.at? ["spec", "nodeTopologies"]).isSome = z.stretched

/-- A resource has one sizing. -/
theorem Payload.HasSizing.unique {p : Payload} {y z : Sizing} (hy : p.HasSizing y)
    (hz : p.HasSizing z) : y = z := by
  have hreplica : y.replica = z.replica := by
    simpa [Json.nat, Int.natCast_inj] using hy.replica.symm.trans hz.replica
  have hcount : y.count = z.count := by
    simpa [Json.nat, Int.natCast_inj] using hy.count.symm.trans hz.count
  have hportable : y.portable = z.portable := by
    simpa using hy.portable.symm.trans hz.portable
  have hflexible : y.flexible = z.flexible := by
    simpa using hy.flexible.symm.trans hz.flexible
  have hstretched : y.stretched = z.stretched := hy.arbiter.symm.trans hz.arbiter
  cases y
  cases z
  congr

namespace ClusterSpec

section

variable {stretch : Option String} {profile : ResourceProfile}
  {flexible onHostPath rbdDefault : Bool} {encryption : Encryption} {network : ClusterNetwork}
  {nfs : Bool} {devices : DeviceSet} {database : Option GatewayDatabase}

theorem at?_flexibleScaling : (full stretch profile flexible onHostPath rbdDefault encryption
    network nfs devices database).toJson.at? ["flexibleScaling"] = some (.bool flexible) := by
  cases stretch <;> rfl

/-- The members of an arbiter stand where there is one. -/
theorem isSome_at?_stretched {name : String} (h : name = "arbiter" ∨ name = "nodeTopologies") :
    ((full stretch profile flexible onHostPath rbdDefault encryption network nfs devices
      database).toJson.at? [name]).isSome = stretch.isSome := by
  rcases h with rfl | rfl <;>
    cases stretch <;> cases onHostPath <;> cases database <;> cases nfs <;> rfl

end

end ClusterSpec

/-- The resource of a full cluster shows the size of its device set, and the stretch and the spread
that it was given. -/
theorem StorageCluster.hasSizing_payload {c : StorageCluster} {stretch : Option String}
    {profile : ResourceProfile} {flexible onHostPath rbdDefault : Bool} {encryption : Encryption}
    {network : ClusterNetwork} {nfs : Bool} {devices : DeviceSet}
    {database : Option GatewayDatabase}
    (h : c.spec = .full stretch profile flexible onHostPath rbdDefault encryption network nfs devices
      database) :
    c.payload.HasSizing ⟨devices.replica.toNat, devices.count.toNat, devices.portable, flexible,
      stretch.isSome⟩ := by
  have hspec : ∀ path, c.payload.body.at? ("spec" :: path) = c.spec.toJson.at? path :=
    Payload.at?_spec _ _ _ _
  have hset : ∀ name, c.payload.deviceMember? name = devices.toJson.at? [name] := by
    intro name
    unfold Payload.deviceMember?
    rw [hspec, h, ClusterSpec.at?_storageDeviceSets]
  constructor
  · rw [hset]
    rfl
  · rw [hset]
    rfl
  · rw [hset]
    rfl
  · rw [hspec, h, ClusterSpec.at?_flexibleScaling]
  · rw [hspec, h, ClusterSpec.isSome_at?_stretched (.inl rfl)]
  · rw [hspec, h, ClusterSpec.isSome_at?_stretched (.inr rfl)]

variable {s : State} {config : Config} {p : Payload}

/-- The sizing that the settings lead to. The size of a device plays no part in it. -/
def State.sizing (s : State) : Sizing where
  replica := (deviceSet s "").replica.toNat
  count := (deviceSet s "").count.toNat
  portable := (deviceSet s "").portable
  flexible := isFlexibleScaling s.nodes s.capacity.enableArbiter
  stretched := s.capacity.enableArbiter

/-- **The resource of a full cluster shows the sizing of its settings.** -/
theorem hasSizing_of_payload (h : storageClusterPayload s config = .ok p) (hm : s.isMcg = false) :
    p.HasSizing s.sizing := by
  obtain ⟨cluster, hc, rfl⟩ := storageCluster_of_payload h
  have hstretched : (if s.capacity.enableArbiter = true then some s.capacity.arbiterLocation
      else none).isSome = s.capacity.enableArbiter := by
    cases s.capacity.enableArbiter <;> rfl
  obtain ⟨-, -, ⟨hgateway, -⟩ | ⟨-, -, size, _, _, _, _, _, hspec⟩⟩ := storageCluster_cases hc
  · rw [hm] at hgateway
    cases hgateway
  · have hsizing := StorageCluster.hasSizing_payload hspec
    rw [hstretched] at hsizing
    exact hsizing

/-! ### Disks and zones for the replicas -/

/-- Whole sets leave less than one set of disks over, where they fill one. -/
theorem max_div_floor {n k : Nat} (hk : 0 < k) (hle : k ≤ n) :
    max (n / k) 1 * k ≤ n ∧ n < (max (n / k) 1 + 1) * k := by
  have h1 : 1 ≤ n / k := (Nat.one_le_div_iff hk).mpr hle
  have hlower := Nat.div_mul_le_self n k
  have hupper := Nat.lt_div_mul_add (a := n) hk
  rw [Nat.max_eq_left h1, Nat.add_mul, Nat.one_mul]
  exact ⟨hlower, hupper⟩

/-- With a provisioner one set has all replicas, or three sets have one each. -/
theorem DeviceSet.asked_provisioned (size : String)
    (h : s.storageClass.isNoProvisioner = false) :
    (deviceSet s size).asked = if s.capacity.enableArbiter then 4 else 3 := by
  have hflexible : s.capacity.enableArbiter = true →
      isFlexibleScaling s.nodes s.capacity.enableArbiter = false := by
    intro ha
    rw [ha]
    rfl
  unfold asked deviceSet
  rw [h]
  dsimp only
  generalize isFlexibleScaling s.nodes s.capacity.enableArbiter = flexible at hflexible ⊢
  cases ha : s.capacity.enableArbiter with
  | true =>
    rw [hflexible ha]
    rfl
  | false => cases flexible <;> rfl

/-- Behind the gate of the nodes a cluster without an arbiter is spread by host, or has its zones. -/
theorem spansZones_of_gate {r : Registry} (h : checkStep .capacityAndNodes s r = .ok ())
    (ha : s.capacity.enableArbiter = false)
    (hf : isFlexibleScaling s.nodes s.capacity.enableArbiter = false) :
    SpansZones s.nodes 3 := by
  have hnodes : minimumNodes ≤ s.nodes.length := (Gate.capacityAndNodes_eq_ok_iff.mp h).1
  by_contra hzones
  have hflexible := isFlexibleScaling_eq_true_iff.mpr ⟨ha, hnodes, hzones⟩
  rw [hf] at hflexible
  cases hflexible

/-- **The device set of a full cluster can be placed.** It has four replicas behind an arbiter, one
where the cluster is spread by host, and three else. On local devices whole sets fill the volumes
up to less than one set, as soon as there are enough for one; with a provisioner there are four
devices behind an arbiter and three else. Devices can move where they are provisioned and not tied
to hosts, and a cluster that is neither stretched nor spread by host has three zones behind its
gate. -/
theorem storageCluster_placeable (s : State) (config : Config) {p : Payload}
    (h : storageClusterPayload s config = .ok p) (hm : s.isMcg = false) :
    ∃ z : Sizing, p.HasSizing z ∧
      z.stretched = s.capacity.enableArbiter ∧
      z.replica = (if z.stretched then 4 else if z.flexible then 1 else 3) ∧
      (s.storageClass.isNoProvisioner = true →
        z.count = max 1 (s.capacity.pvCount.toNat / z.replica) ∧
        (z.replica ≤ s.capacity.pvCount.toNat →
          z.count * z.replica ≤ s.capacity.pvCount.toNat ∧
          s.capacity.pvCount.toNat < (z.count + 1) * z.replica)) ∧
      (s.storageClass.isNoProvisioner = false →
        z.count * z.replica = if z.stretched then 4 else 3) ∧
      (z.portable = true ↔ s.storageClass.isNoProvisioner = false ∧ z.flexible = false) ∧
      ∀ r : Registry, checkStep .capacityAndNodes s r = .ok () → z.stretched = false →
        z.flexible = false → SpansZones s.nodes 3 := by
  refine ⟨s.sizing, hasSizing_of_payload h hm, rfl, DeviceSet.toNat_replica s "", fun hl => ?_,
    fun hl => DeviceSet.asked_provisioned "" hl, ?_, fun r hgate ha hf => ?_⟩
  · have hcount : s.sizing.count = max (s.capacity.pvCount.toNat / s.sizing.replica) 1 :=
      DeviceSet.toNat_count_local "" hl
    refine ⟨by rw [hcount, Nat.max_comm], fun hle => ?_⟩
    rw [hcount]
    exact max_div_floor (DeviceSet.replica_pos s "") hle
  · show (!isFlexibleScaling s.nodes s.capacity.enableArbiter &&
      !s.storageClass.isNoProvisioner) = true ↔ _
    rw [Bool.and_eq_true, Bool.not_eq_true', Bool.not_eq_true', and_comm]
    rfl
  · exact spansZones_of_gate hgate ha hf

/-- Three nodes, each in a zone of its own. -/
def Node.inThreeZones : List Node :=
  [("n1", "z1"), ("n2", "z2"), ("n3", "z3")].map fun (name, zone) =>
    { name, cpu := 16, memory := 68719476736, zone }

/-- Seven local volumes on three nodes. -/
def State.sevenVolumes : State where
  nodes := Node.inThreeZones
  storageClass := ⟨"localblock", noProvisioner⟩
  capacity := { pvCount := 7 }

theorem storageCluster_placeable_sevenVolumes : ∃ p,
    storageClusterPayload .sevenVolumes {} = .ok p ∧ State.sevenVolumes.isMcg = false ∧
    checkStep .capacityAndNodes .sevenVolumes .builtins = .ok () ∧
    ∃ z : Sizing, p.HasSizing z ∧ z.count * z.replica ≤ 7 ∧ 7 < (z.count + 1) * z.replica ∧
      SpansZones State.sevenVolumes.nodes 3 := by
  have hm : State.sevenVolumes.isMcg = false := rfl
  have hgate : checkStep .capacityAndNodes .sevenVolumes .builtins = .ok () :=
    isOk_iff.mp (by decide +kernel)
  have hlocal : State.sevenVolumes.storageClass.isNoProvisioner = true := rfl
  obtain ⟨p, h⟩ : ∃ p, storageClusterPayload .sevenVolumes {} = .ok p := ⟨_, rfl⟩
  obtain ⟨z, hz, hstretched, hreplica, hcount, -, -, hzones⟩ :=
    storageCluster_placeable .sevenVolumes {} h hm
  have hflexible : z.flexible = false := by
    rw [hz.unique (hasSizing_of_payload h hm)]
    decide +kernel
  have hthree : z.replica = 3 := by
    rw [hreplica, hstretched, hflexible]
    rfl
  obtain ⟨hlower, hupper⟩ := (hcount hlocal).2 (by rw [hthree]; decide)
  exact ⟨p, h, hm, hgate, z, hz, hlower, hupper, hzones .builtins hgate hstretched hflexible⟩

end StorageSetup
