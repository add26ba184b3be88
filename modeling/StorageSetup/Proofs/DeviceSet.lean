import StorageSetup.Proofs.Answered
import StorageSetup.Proofs.Disks
import StorageSetup.Proofs.VolumeClass
/-!
# The size of a device set

A cluster on local devices asks for whole sets of replicas, as many as the matching disks fill, and
for one set where they fill none. The gate of the volume set lets no cluster through with fewer than
three disks, so the one set is more than the disks fill exactly where it has four replicas, for the
sake of an arbiter, and there are three disks.

Key definitions: `DeviceSet.asked`, `Payload.askedDisks?`.
Key theorems: `DeviceSet.asked_le_iff`, `minimumNodes_le_matching`, `replay_asks_for_disks`.
-/

namespace StorageSetup

/-- The number of disks that a device set asks for. -/
def DeviceSet.asked (d : DeviceSet) : Nat :=
  d.count.toNat * d.replica.toNat

/-- The number of disks that the first device set of a cluster asks for. -/
def Payload.askedDisks? (p : Payload) : Option Nat :=
  match p.body.at? ["spec", "storageDeviceSets"] with
  | some (.arr (set :: _)) =>
    ((set.at? ["count"]).bind Json.nat?).bind fun count =>
      ((set.at? ["replica"]).bind Json.nat?).map fun replica => count * replica
  | _ => none

/-- A full cluster asks for the disks of its device set. -/
theorem StorageCluster.askedDisks_payload (c : StorageCluster) {devices : DeviceSet}
    (h : ∃ stretch profile flexible onHostPath rbdDefault encryption network nfs database,
      c.spec = .full stretch profile flexible onHostPath rbdDefault encryption network nfs devices
        database) : c.payload.askedDisks? = some devices.asked := by
  obtain ⟨stretch, profile, flexible, onHostPath, rbdDefault, encryption, network, nfs, database,
    hspec⟩ := h
  unfold Payload.askedDisks? StorageCluster.payload
  rw [Payload.at?_spec, hspec, ClusterSpec.at?_storageDeviceSets]
  rfl

/-! ### Whole sets of replicas -/

theorem toNat_deviceSetCount_local (flexible : Bool) (pvCount replica : UInt32) :
    (deviceSetCount true flexible pvCount replica).toNat =
      max (pvCount.toNat / replica.toNat) 1 := by
  have hmax : ∀ a b : UInt32, (max a b).toNat = max a.toNat b.toNat := by
    intro a b
    show (if a ≤ b then b else a).toNat = _
    split_ifs with hab
    · exact (Nat.max_eq_right (UInt32.le_iff_toNat_le.mp hab)).symm
    · have hlt := mt UInt32.le_iff_toNat_le.mpr hab
      exact (Nat.max_eq_left (Nat.le_of_not_le hlt)).symm
  show (max (pvCount / replica) 1).toNat = _
  rw [hmax, UInt32.toNat_div]
  rfl

/-- Whole sets, and one at the least, fit where one set does. -/
theorem mul_max_div_le_iff {n k : Nat} (hk : 0 < k) : max (n / k) 1 * k ≤ n ↔ k ≤ n := by
  rcases Nat.lt_or_ge n k with hlt | hle
  · rw [Nat.div_eq_of_lt hlt, Nat.max_eq_right (Nat.zero_le 1), Nat.one_mul]
  · have h1 : 1 ≤ n / k := (Nat.one_le_div_iff hk).mpr hle
    rw [Nat.max_eq_left h1]
    exact iff_of_true (Nat.div_mul_le_self n k) hle

theorem toNat_deviceSetReplica (stretch flexible : Bool) :
    (deviceSetReplica stretch flexible).toNat =
      if stretch then 4 else if flexible then 1 else 3 := by
  cases stretch <;> cases flexible <;> rfl

variable {s : State} {config : Config}

namespace DeviceSet

theorem toNat_replica (s : State) (size : String) : (deviceSet s size).replica.toNat =
    if s.capacity.enableArbiter then 4
    else if isFlexibleScaling s.nodes s.capacity.enableArbiter then 1 else 3 :=
  toNat_deviceSetReplica _ _

theorem replica_pos (s : State) (size : String) : 0 < (deviceSet s size).replica.toNat := by
  rw [toNat_replica]
  split_ifs <;> decide

/-- On local devices there are as many sets as the volumes fill, and at least one. -/
theorem toNat_count_local (size : String) (h : s.storageClass.isNoProvisioner = true) :
    (deviceSet s size).count.toNat =
      max (s.capacity.pvCount.toNat / (deviceSet s size).replica.toNat) 1 := by
  unfold deviceSet
  rw [h]
  exact toNat_deviceSetCount_local (isFlexibleScaling s.nodes s.capacity.enableArbiter) _ _

theorem asked_eq (size : String) (h : s.storageClass.isNoProvisioner = true) :
    (deviceSet s size).asked =
      max (s.capacity.pvCount.toNat / (deviceSet s size).replica.toNat) 1 *
        (deviceSet s size).replica.toNat := by
  unfold asked
  rw [toNat_count_local size h]

/-- **On local devices the device set fits where its replicas do.** -/
theorem asked_le_iff (size : String) (h : s.storageClass.isNoProvisioner = true) :
    (deviceSet s size).asked ≤ s.capacity.pvCount.toNat ↔
      (deviceSet s size).replica.toNat ≤ s.capacity.pvCount.toNat := by
  rw [asked_eq size h]
  exact mul_max_div_le_iff (replica_pos s size)

end DeviceSet

/-- A full cluster has the device set of its settings. -/
theorem askedDisks_of_full {p : Payload} (h : storageClusterPayload s config = .ok p)
    (hm : s.isMcg = false) : p.model = .storageCluster ∧
      ∃ size, p.askedDisks? = some (deviceSet s size).asked := by
  obtain ⟨cluster, hc, rfl⟩ := storageCluster_of_payload h
  obtain ⟨-, -, ⟨hgateway, -⟩ | ⟨-, -, size, _, _, _, _, _, hspec⟩⟩ := storageCluster_cases hc
  · rw [hm] at hgateway
    cases hgateway
  · exact ⟨rfl, size, StorageCluster.askedDisks_payload _ ⟨_, _, _, _, _, _, _, _, _, hspec⟩⟩

/-! ### Disks behind the gate -/

variable {c : Context} {r : Registry} {a : Answers} {i : Inventory} {w : Session} {plan : Plan}

/-- The gate of the volume set lets no plan through with fewer than three disks. -/
theorem minimumNodes_le_matching (h : replay (.new c r) a i config = .ok (w, plan))
    (ht : w.state.backingStorage.type = .localDevices) :
    minimumNodes ≤ (w.state.localVolumes.matchingDevices i.devices).length := by
  obtain ⟨hp, hl, _, _, _⟩ := passed_of_replay h
  have hv : w.check .createLocalVolumeSet = .ok () :=
    hp.all_open hl _ (volumeSet_mem_stepNames _ _ ht)
  have hnodes := (Gate.localVolumeSet_eq_ok_iff.mp (checkBoth_eq_ok_iff.mp hv).1).2
  exact Nat.le_trans hnodes
    (LocalVolumeForm.size_le_length_matchingDevices (followsDisks_of_replay h ht).chartNodes)

/-- The number of volumes is that of the matching disks, where it fits into its word. -/
theorem pvCount_of_replay (h : replay (.new c r) a i config = .ok (w, plan))
    (ht : w.state.backingStorage.type = .localDevices) (hd : i.devices.length < UInt32.size) :
    w.state.capacity.pvCount.toNat =
      (w.state.localVolumes.matchingDevices i.devices).length := by
  rw [(followsDisks_of_replay h ht).pvCount]
  have hle := (LocalVolumeForm.matchingDevices_sublist w.state.localVolumes i.devices).length_le
  exact UInt32.toNat_ofNat_of_lt' (Nat.lt_of_le_of_lt hle hd)

/-- **A cluster on local devices asks for no more disks than were matched, but for an arbiter over
three disks.** There it asks for one set of four replicas. -/
theorem replay_asks_for_disks (c : Context) (r : Registry) (a : Answers) (i : Inventory)
    (config : Config) {w : Session} {plan : Plan}
    (h : replay (.new c r) a i config = .ok (w, plan)) (hd : i.devices.length < UInt32.size)
    (ht : w.state.backingStorage.type = .localDevices)
    (hf : w.state.backingStorage.deployment = .full) :
    let matched := (w.state.localVolumes.matchingDevices i.devices).length
    (∃ p ∈ plan.payloads, p.model = .storageCluster) ∧
    ∀ p ∈ plan.payloads, p.model = .storageCluster → ∃ asked, p.askedDisks? = some asked ∧
      (asked ≤ matched ↔ ¬(w.state.capacity.enableArbiter = true ∧ matched = 3)) ∧
      (w.state.capacity.enableArbiter = true → matched = 3 → asked = 4) := by
  intro matched
  obtain ⟨hp, hl, _, _, hplan⟩ := passed_of_replay h
  have hm : w.state.isMcg = false := by
    unfold State.isMcg
    rw [hf]
    rfl
  have hclass : w.state.storageClass.isNoProvisioner = true := by
    rw [hp.volumeClass_of_last hl ht]
    exact beq_self_eq_true noProvisioner
  have hmin : 3 ≤ matched := minimumNodes_le_matching h ht
  have hpv : w.state.capacity.pvCount.toNat = matched := pvCount_of_replay h ht hd
  obtain ⟨before, volumeSet, cluster, hset, hcluster, hbefore, hpayloads⟩ :=
    planSubmission_local ht hplan
  obtain ⟨hmodel, size, hasked⟩ := askedDisks_of_full hcluster hm
  have hreplica := DeviceSet.toNat_replica w.state size
  have hiff := DeviceSet.asked_le_iff size hclass
  have heq := DeviceSet.asked_eq size hclass
  rw [hpv] at hiff heq
  refine ⟨⟨cluster, ?_, hmodel⟩, fun p hmem hkind => ?_⟩
  · rw [hpayloads]
    simp
  · obtain rfl : p = cluster := by
      rw [hpayloads, List.mem_append] at hmem
      rcases hmem with hmem | hmem
      · rcases hbefore p hmem with hk | hk <;> exact absurd (hkind.symm.trans hk) (by decide)
      · rw [List.mem_cons, List.mem_cons, List.mem_singleton] at hmem
        rcases hmem with rfl | rfl | rfl
        · have hk := LocalVolumeForm.model_of_ok hset
          exact absurd (hkind.symm.trans hk) (by decide)
        · exact absurd (show ResourceModel.storageSystem = _ from hkind) (by decide)
        · rfl
    refine ⟨_, hasked, ?_, fun ha h3 => ?_⟩
    · rw [hiff]
      by_cases ha : w.state.capacity.enableArbiter = true
      · rw [hreplica, if_pos ha, and_iff_right ha]
        omega
      · have hle : (deviceSet w.state size).replica.toNat ≤ 3 := by
          rw [hreplica, if_neg ha]
          split_ifs <;> decide
        exact iff_of_true (Nat.le_trans hle hmin) fun hc => ha hc.1
    · rw [heq, hreplica, if_pos ha, h3]
      rfl

/-! ### An arbiter over three disks -/

/-- Four nodes in two zones, three of them with a disk. -/
def Inventory.twoZones : Inventory :=
  { Inventory.threeDisks with
    nodes := [("n1", "z1"), ("n2", "z1"), ("n3", "z2"), ("n4", "z2")].map fun (n, zone) =>
      { name := n, cpu := 16, memory := 68719476736, zone } }

/-- Answers for a full deployment on local devices over four nodes, with an arbiter in a third zone
or without one. -/
def Answers.acrossZones (arbiter : Bool) : Answers where
  nodes := ["n1", "n2", "n3", "n4"]
  actions := [Action.setBackingType .localDevices, .setLocalVolumes (.name "localblock"),
    .enableArbiter arbiter, .setArbiterLocation "z3"].map Action.toJson

/-- The run is on local devices with a full deployment; so many disks are matched and so many are
asked for. -/
def isRunWith (matched asked : Nat) (i : Inventory) :
    Except ReplayError (Session × Plan) → Bool
  | .ok (w, plan) =>
    w.state.backingStorage.type = .localDevices && w.state.backingStorage.deployment = .full &&
      (w.state.localVolumes.matchingDevices i.devices).length = matched &&
      plan.payloads.any fun p => p.model = .storageCluster && p.askedDisks? = some asked
  | .error _ => false

theorem exists_run_of_isRunWith {matched asked : Nat} {i : Inventory}
    {x : Except ReplayError (Session × Plan)} (h : isRunWith matched asked i x = true) :
    ∃ w plan, x = .ok (w, plan) ∧ w.state.backingStorage.type = .localDevices ∧
      w.state.backingStorage.deployment = .full ∧
      (w.state.localVolumes.matchingDevices i.devices).length = matched ∧
      ∃ p ∈ plan.payloads, p.model = .storageCluster ∧ p.askedDisks? = some asked := by
  unfold isRunWith at h
  split at h
  · next w plan =>
    simp only [Bool.and_eq_true, decide_eq_true_eq, List.any_eq_true] at h
    obtain ⟨⟨⟨ht, hf⟩, hm⟩, p, hp, hasked⟩ := h
    exact ⟨w, plan, rfl, ht, hf, hm, p, hp, hasked⟩
  · cases h

theorem replay_asks_for_disks_acrossZones : ∃ w plan,
    replay (.new {} .builtins) (.acrossZones false) .twoZones {} = .ok (w, plan) ∧
    Inventory.twoZones.devices.length < UInt32.size ∧
    w.state.backingStorage.type = .localDevices ∧ w.state.backingStorage.deployment = .full ∧
    ∀ p ∈ plan.payloads, p.model = .storageCluster → ∃ asked, p.askedDisks? = some asked ∧
      (asked ≤ (w.state.localVolumes.matchingDevices Inventory.twoZones.devices).length ↔
        ¬(w.state.capacity.enableArbiter = true ∧
          (w.state.localVolumes.matchingDevices Inventory.twoZones.devices).length = 3)) := by
  obtain ⟨w, plan, h, ht, hf, _, _⟩ := exists_run_of_isRunWith
    (show isRunWith 3 3 .twoZones
      (replay (.new {} .builtins) (.acrossZones false) .twoZones {}) = true by decide +kernel)
  have hd : Inventory.twoZones.devices.length < UInt32.size := by decide
  refine ⟨w, plan, h, hd, ht, hf, fun p hp hm => ?_⟩
  obtain ⟨asked, hasked, hiff, _⟩ :=
    (replay_asks_for_disks {} .builtins (.acrossZones false) .twoZones {} h hd ht hf).2 p hp hm
  exact ⟨asked, hasked, hiff⟩

/-- A cluster on local devices may ask for more disks than were matched. -/
theorem not_replay_asks_within_disks : ¬ ∀ (a : Answers) (i : Inventory) (config : Config)
    (w : Session) (plan : Plan), replay (.new {} .builtins) a i config = .ok (w, plan) →
      i.devices.length < UInt32.size → w.state.backingStorage.type = .localDevices →
      w.state.backingStorage.deployment = .full →
      ∀ p ∈ plan.payloads, p.model = .storageCluster → ∀ asked, p.askedDisks? = some asked →
        asked ≤ (w.state.localVolumes.matchingDevices i.devices).length := by
  intro hall
  obtain ⟨w, plan, h, ht, hf, h3, p, hp, hm, hasked⟩ := exists_run_of_isRunWith
    (show isRunWith 3 4 .twoZones
      (replay (.new {} .builtins) (.acrossZones true) .twoZones {}) = true by decide +kernel)
  have hle := hall _ _ _ w plan h (by decide) ht hf p hp hm 4 hasked
  rw [h3] at hle
  exact absurd hle (by decide)

end StorageSetup
