import StorageSetup.Proofs.PlanParts
import StorageSetup.Proofs.Replay
/-!
# The class of a local volume set

On local devices a plan creates one volume set, and behind it one storage cluster. The volume set
provides a class under its trimmed name; the cluster asks for the class under the name as it was
entered. Both names come from one text, so they are the same where it has no blanks at its ends.

Key definitions: `Payload.providedClass?`, `Payload.consumedClass?`.
Key theorems: `planSubmission_local`, `replay_class_agrees_iff`.
-/

namespace StorageSetup

/-! ### Classes in resources -/

namespace Payload

/-- The class that a volume set provides. -/
def providedClass? (p : Payload) : Option String :=
  (p.body.at? ["spec", "storageClassName"]).bind Json.string?

/-- The class that a storage cluster asks for: that of its first device set, or that of the database
where there is the object gateway alone. -/
def consumedClass? (p : Payload) : Option String :=
  match p.body.at? ["spec", "storageDeviceSets"] with
  | some (.arr (set :: _)) =>
    (set.at? ["dataPVCTemplate", "spec", "storageClassName"]).bind Json.string?
  | _ => (p.body.at? ["spec", "multiCloudGateway", "dbStorageClassName"]).bind Json.string?

end Payload

theorem LocalVolumeForm.payload_of_ok {f : LocalVolumeForm} {namespaceName : String} {p : Payload}
    (h : f.payload? namespaceName = .ok p) : p.model = .localVolumeSet ∧
      p.providedClass? = some (Text.trim f.name) := by
  unfold payload? at h
  dsimp only at h
  split_ifs at h
  cases h
  refine ⟨rfl, ?_⟩
  unfold Payload.providedClass?
  rw [Payload.at?_spec]
  cases readPositive? f.maxDiskLimit <;> rfl

/-- A full cluster has one device set. -/
theorem ClusterSpec.at?_storageDeviceSets {stretch : Option String} {profile : ResourceProfile}
    {flexible onHostPath rbdDefault : Bool} {encryption : Encryption} {network : ClusterNetwork}
    {nfs : Bool} {devices : DeviceSet} {database : Option GatewayDatabase} :
    (full stretch profile flexible onHostPath rbdDefault encryption network nfs devices
      database).toJson.at? ["storageDeviceSets"] = some (.arr [devices.toJson]) := by
  -- the optional members stand before the device sets
  cases stretch <;> cases onHostPath <;> cases database <;> cases nfs <;> rfl

/-- The cluster asks for the class that its specification names. -/
theorem StorageCluster.consumedClass_payload (c : StorageCluster) {className : String}
    (h : (∃ database, c.spec = .gateway (some className) database) ∨
      ∃ stretch profile flexible onHostPath rbdDefault encryption network nfs devices database,
        c.spec = .full stretch profile flexible onHostPath rbdDefault encryption network nfs devices
          database ∧ devices.storageClass = className) :
    c.payload.consumedClass? = some className := by
  unfold Payload.consumedClass? StorageCluster.payload
  rw [Payload.at?_spec, Payload.at?_spec]
  rcases h with ⟨database, hspec⟩ | ⟨stretch, profile, flexible, onHostPath, rbdDefault, encryption,
    network, nfs, devices, database, hspec, rfl⟩
  · rw [hspec]
    rfl
  · rw [hspec, ClusterSpec.at?_storageDeviceSets]
    rfl

theorem storageCluster_of_ok {s : State} {config : Config} {p : Payload}
    (h : storageClusterPayload s config = .ok p) (hn : s.storageClass.name ≠ "") :
    p.model = .storageCluster ∧ p.consumedClass? = some s.storageClass.name := by
  obtain ⟨cluster, hc, rfl⟩ := storageCluster_of_payload h
  refine ⟨rfl, StorageCluster.consumedClass_payload _ ?_⟩
  obtain ⟨-, -, ⟨-, hspec⟩ | ⟨-, -, _, _, _, _, _, _, hspec⟩⟩ := storageCluster_cases hc
  · rw [if_neg hn] at hspec
    exact .inl ⟨_, hspec⟩
  · exact .inr ⟨_, _, _, _, _, _, _, _, _, _, hspec, rfl⟩

/-! ### The plan on local devices -/

variable {s : State} {c : Context} {r : Registry} {config : Config}

/-- Secrets and config maps stand beside the cluster. -/
def Payload.Auxiliary (p : Payload) : Prop :=
  p.model = .secret ∨ p.model = .configMap

theorem Payload.auxiliary_of_kind {p : Payload} (h : p.IsKms ∨ p.IsDatabase) : p.Auxiliary := by
  rcases h with h | h
  · exact h.model.symm
  · exact .inl h.1

/-- **The plan on local devices.** One volume set is created, then the storage system, and last the
cluster. -/
theorem planSubmission_local {plan : Plan} (ht : s.backingStorage.type = .localDevices)
    (h : planSubmission s c r config = .ok plan) :
    ∃ before volumeSet cluster,
      s.localVolumes.payload? config.localStorageNamespace = .ok volumeSet ∧
      storageClusterPayload s config = .ok cluster ∧ (∀ p ∈ before, p.Auxiliary) ∧
      plan.payloads = before ++ [volumeSet, storageSystemPayload config.storageClusterName
        .storageCluster config.namespaceName, cluster] := by
  obtain ⟨parts, rfl⟩ := exists_planParts h
  have hv : parts.vendor = none := parts.vendor_of_internal (by rw [ht]; decide)
  obtain ⟨database, volumeSet, hdatabase, hset, hr⟩ := parts.volumeSet_of_local ht
  obtain ⟨cluster, hcluster, hl⟩ :=
    parts.cluster_of_creates (parts.creates_of_internal (by rw [ht]; decide))
  have hsystem : parts.system =
      storageSystemPayload config.storageClusterName .storageCluster config.namespaceName := by
    unfold PlanParts.system
    rw [hv]
    rfl
  refine ⟨kmsResources s config ++ database, volumeSet, cluster, hset, hcluster, ?_, ?_⟩
  · intro p hp
    rcases List.mem_append.mp hp with hp | hp
    · exact Payload.auxiliary_of_kind (.inl (isKms_kmsResources p hp))
    · exact Payload.auxiliary_of_kind (.inr (isDatabase_databaseResources hdatabase p hp))
  · rw [parts.payloads_eq, hr, hl, parts.ops_of_internal hv, hsystem, List.append_assoc,
      List.append_assoc]
    rfl

/-- **On local devices the cluster asks for the class that the volume set provides exactly where the
name of the set has no blanks at its ends.** -/
theorem replay_class_agrees_iff (c : Context) (r : Registry) (a : Answers) (i : Inventory)
    (config : Config) {w : Session} {plan : Plan}
    (h : replay (.new c r) a i config = .ok (w, plan))
    (ht : w.state.backingStorage.type = .localDevices) :
    ∃ before volumeSet system cluster, plan.payloads = before ++ [volumeSet, system, cluster] ∧
      volumeSet.model = .localVolumeSet ∧ cluster.model = .storageCluster ∧
      (∀ p ∈ system :: before, p.model ≠ .localVolumeSet ∧ p.model ≠ .storageCluster) ∧
      volumeSet.providedClass? = some (Text.trim w.state.localVolumes.name) ∧
      cluster.consumedClass? = some w.state.localVolumes.name ∧
      (cluster.consumedClass? = volumeSet.providedClass? ↔
        Text.trim w.state.localVolumes.name = w.state.localVolumes.name) := by
  obtain ⟨hp, hl, rfl, rfl, hplan⟩ := passed_of_replay h
  have hclass := hp.volumeClass_of_last hl ht
  obtain ⟨before, volumeSet, cluster, hset, hcluster, hbefore, hpayloads⟩ :=
    planSubmission_local ht hplan
  obtain ⟨hmodel, hprovided⟩ := LocalVolumeForm.payload_of_ok hset
  obtain ⟨hmodel', hconsumed⟩ := storageCluster_of_ok hcluster (hp.className_ne_empty hl ht)
  rw [hclass] at hconsumed
  refine ⟨before, volumeSet, _, cluster, hpayloads, hmodel, hmodel', ?_, hprovided, hconsumed, ?_⟩
  · intro p hmem
    rcases List.mem_cons.mp hmem with rfl | hmem
    · show ResourceModel.storageSystem ≠ _ ∧ ResourceModel.storageSystem ≠ _
      decide
    · rcases hbefore p hmem with hm | hm <;> rw [hm] <;> decide
  · rw [hconsumed, hprovided, Option.some.injEq, eq_comm]

/-! ### A name with blanks -/

theorem replay_class_agrees_iff_blanks : ∃ w plan,
    replay (.new {} .builtins) (.localGateway " localblock ") .threeDisks {} = .ok (w, plan) ∧
    w.state.backingStorage.type = .localDevices ∧
    ∃ before volumeSet system cluster, plan.payloads = before ++ [volumeSet, system, cluster] ∧
      (cluster.consumedClass? = volumeSet.providedClass? ↔
        Text.trim w.state.localVolumes.name = w.state.localVolumes.name) := by
  obtain ⟨w, plan, h, ht⟩ : ∃ w plan,
      replay (.new {} .builtins) (.localGateway " localblock ") .threeDisks {} = .ok (w, plan) ∧
      w.state.backingStorage.type = .localDevices := ⟨_, _, rfl, by decide⟩
  obtain ⟨before, volumeSet, system, cluster, hpayloads, _, _, _, _, _, hiff⟩ :=
    replay_class_agrees_iff {} .builtins (.localGateway " localblock ") .threeDisks {} h ht
  exact ⟨w, plan, h, ht, before, volumeSet, system, cluster, hpayloads, hiff⟩

/-- The two classes do not always agree. -/
theorem not_replay_class_agrees : ¬ ∀ (a : Answers) (i : Inventory) (config : Config) (w : Session)
    (plan : Plan), replay (.new {} .builtins) a i config = .ok (w, plan) →
      w.state.backingStorage.type = .localDevices →
      ∀ volumeSet ∈ plan.payloads, ∀ cluster ∈ plan.payloads, volumeSet.model = .localVolumeSet →
        cluster.model = .storageCluster → cluster.consumedClass? = volumeSet.providedClass? := by
  intro hall
  obtain ⟨w, plan, h, ht, volumeSet, hset, cluster, hcluster, hmodel, hmodel', hne⟩ :
      ∃ w plan, replay (.new {} .builtins) (.localGateway " localblock ") .threeDisks {} =
          .ok (w, plan) ∧ w.state.backingStorage.type = .localDevices ∧
        ∃ volumeSet ∈ plan.payloads, ∃ cluster ∈ plan.payloads,
          volumeSet.model = .localVolumeSet ∧ cluster.model = .storageCluster ∧
          cluster.consumedClass? ≠ volumeSet.providedClass? :=
    ⟨_, _, rfl, by decide, _, .head _, _, .tail _ (.tail _ (.head _)), by decide, by decide,
      by decide⟩
  exact hne (hall _ _ _ w plan h ht volumeSet hset cluster hcluster hmodel hmodel')

end StorageSetup
