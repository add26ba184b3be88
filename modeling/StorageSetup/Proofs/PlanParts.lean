import StorageSetup.Proofs.Resources
/-!
# The parts of a plan

A plan that was made is put together from four parts: the resources beside the storage cluster, the
storage system, the cluster, and what the vendor asks for. Each part creates resources of its own
kinds, so a resource of a plan tells from which part it comes.

Key definitions: `PlanParts`, `PlanParts.front`, `State.vendorRequest`.
Key theorems: `exists_planParts`, `PlanParts.kinds_of_resources`, `PlanParts.part_of_model`.
-/

namespace StorageSetup

/-! ### Resources in order -/

theorem payloads_append (a b : List Operation) :
    (Plan.mk (a ++ b)).payloads = (Plan.mk a).payloads ++ (Plan.mk b).payloads :=
  List.filterMap_append

theorem payloads_create : ∀ l : List Payload, (Plan.mk (l.map .create)).payloads = l
  | [] => rfl
  | p :: l => congrArg (p :: ·) (payloads_create l)

/-- The resources of a plan are those that it creates. -/
theorem mem_payloads {plan : Plan} {p : Payload} :
    p ∈ plan.payloads ↔ .create p ∈ plan.operations := by
  unfold Plan.payloads
  rw [List.mem_filterMap]
  constructor
  · rintro ⟨op, hop, h⟩
    split at h
    · cases h
      exact hop
    · cases h
  · exact fun h => ⟨_, h, rfl⟩

/-- Node operations create nothing. -/
theorem payloads_nodeOperations (s : State) : (Plan.mk (nodeOperations s)).payloads = [] := by
  unfold Plan.payloads nodeOperations
  rw [List.filterMap_eq_nil_iff]
  intro op hop
  rw [List.mem_append] at hop
  rcases hop with hop | hop
  · obtain ⟨n, _, rfl⟩ := List.mem_map.mp hop
    rfl
  · split_ifs at hop
    · obtain ⟨n, _, rfl⟩ := List.mem_map.mp hop
      rfl
    · cases hop

theorem singleton_of_ok {x : Except PayloadError Payload} {l : List Payload}
    (h : (orPayloadError x).map ([·]) = .ok l) : ∃ p, x = .ok p ∧ l = [p] := by
  cases x with
  | error e => cases h
  | ok p => exact ⟨p, rfl, (Except.ok.inj h).symm⟩

theorem ok_of_orPayloadError {α : Type} {x : Except PayloadError α} {a : α}
    (h : orPayloadError x = .ok a) : x = .ok a := by
  cases x with
  | error e => cases h
  | ok b => cases h; rfl

/-! ### The parts -/

variable {s : State} {c : Context} {r : Registry} {config : Config}

theorem isKms_kmsResources : ∀ p ∈ kmsResources s config, p.IsKms := by
  unfold kmsResources
  split_ifs
  · exact isKms_payloads _ _
  · exact fun p hp => nomatch hp

/-- The object gateway alone has no key management. -/
theorem isMcg_of_mem_kmsResources {p : Payload} (h : p ∈ kmsResources s config) :
    s.isMcg = false := by
  unfold kmsResources at h
  split_ifs at h with hk
  · rw [Bool.and_eq_true, Bool.not_eq_true'] at hk
    exact hk.2
  · cases h

theorem isDatabase_databaseResources {ps : List Payload} (h : databaseResources s config = .ok ps) :
    ∀ p ∈ ps, p.IsDatabase := by
  unfold databaseResources at h
  split_ifs at h
  · exact isDatabase_payloads (ok_of_orPayloadError h)
  · cases h
    exact fun p hp => nomatch hp

/-- What the resources of a vendor are built from. -/
def State.vendorRequest (s : State) (config : Config) (v : Vendor) : VendorRequest where
  systemName := v.systemName (s.formValues v.formStep) config
  namespaceName := config.namespaceName
  storageClassName := s.storageClass.name
  form := s.formValues v.formStep
  inTransitEncryption := s.security.encryption.inTransit

/-- A vendor is waited for before its resources are created. -/
theorem eq_of_vendorOperations {v : Vendor} {ops : List Operation}
    (h : vendorOperations s config v = .ok ops) : ∃ ps,
      v.payloads (s.vendorRequest config v) = .ok ps ∧
      ops = (if v.waits then [.waitForVendor v.kind] else []) ++ ps.map .create := by
  obtain ⟨ps, hps, h⟩ := bind_eq_ok_iff.mp h
  exact ⟨ps, ok_of_orPayloadError hps, (Except.ok.inj h).symm⟩

/-- The parts that a plan is put together from. -/
structure PlanParts (s : State) (c : Context) (r : Registry) (config : Config) where
  vendor : Option Vendor
  resources : List Payload
  cluster : List Payload
  ops : List Operation
  chosen : chosenVendor s r = .ok vendor
  resources_eq : plannedResources s config (createsStorageCluster vendor c) = .ok resources
  cluster_eq : plannedCluster s config (createsStorageCluster vendor c) = .ok cluster
  ops_eq : plannedVendor s config vendor = .ok ops

namespace PlanParts

/-- A storage cluster is among the parts. -/
def creates (parts : PlanParts s c r config) : Bool :=
  createsStorageCluster parts.vendor c

/-- The plan put together from the parts. -/
def plan (parts : PlanParts s c r config) : Plan :=
  assemblePlan s config parts.vendor parts.creates parts.resources parts.cluster parts.ops

/-- The storage system of the plan. -/
def system (parts : PlanParts s c r config) : Payload :=
  storageSystemPayload (systemOf s config parts.vendor).1 (systemOf s config parts.vendor).2
    config.namespaceName

end PlanParts

/-- **A plan that was made is put together from its parts.** -/
theorem exists_planParts {plan : Plan} (h : planSubmission s c r config = .ok plan) :
    ∃ parts : PlanParts s c r config, plan = parts.plan := by
  rw [planSubmission_eq] at h
  obtain ⟨_, _, h⟩ := bind_eq_ok_iff.mp h
  obtain ⟨vendor, hvendor, h⟩ := bind_eq_ok_iff.mp h
  obtain ⟨resources, hresources, h⟩ := bind_eq_ok_iff.mp h
  obtain ⟨cluster, hcluster, h⟩ := bind_eq_ok_iff.mp h
  obtain ⟨ops, hops, h⟩ := bind_eq_ok_iff.mp h
  exact ⟨⟨vendor, resources, cluster, ops, hvendor, hresources, hcluster, hops⟩,
    (Except.ok.inj h).symm⟩

/-- A plan has the vendor that is selected, and in external mode there is one. -/
theorem eq_selected_of_chosenVendor {vendor : Option Vendor} (h : chosenVendor s r = .ok vendor) :
    vendor = r.selected? s ∧ (s.backingStorage.type = .external → ∃ v, vendor = some v) := by
  unfold chosenVendor State.isExternal at h
  split_ifs at h with ht
  · rw [selected?_of_external (beq_iff_eq.mp ht)]
    split at h
    · next v hv =>
      cases h
      exact ⟨hv.symm, fun _ => ⟨v, rfl⟩⟩
    · cases h
  · rw [beq_iff_eq] at ht
    rw [selected?_of_internal ht]
    cases h
    exact ⟨rfl, fun h => absurd h ht⟩

namespace PlanParts

variable (parts : PlanParts s c r config)

theorem vendor_eq : parts.vendor = r.selected? s :=
  (eq_selected_of_chosenVendor parts.chosen).1

/-- Inside there is no vendor. -/
theorem internal_or_vendor : (parts.vendor = none ∧ s.backingStorage.type ≠ .external) ∨
    ∃ v, parts.vendor = some v ∧ s.backingStorage.type = .external := by
  obtain ⟨hv, he⟩ := eq_selected_of_chosenVendor parts.chosen
  by_cases ht : s.backingStorage.type = .external
  · obtain ⟨v, hv⟩ := he ht
    exact .inr ⟨v, hv, ht⟩
  · rw [selected?_of_internal ht] at hv
    exact .inl ⟨hv, ht⟩

theorem vendor_of_internal (h : s.backingStorage.type ≠ .external) : parts.vendor = none := by
  rw [parts.vendor_eq, selected?_of_internal h]

theorem creates_of_internal (h : s.backingStorage.type ≠ .external) : parts.creates = true := by
  unfold creates
  rw [parts.vendor_of_internal h]
  rfl

/-- The operations of the other parts come before those of a vendor. -/
def front : List Operation :=
  (.ensureNamespace config.namespaceName monitoringLabels ::
    if parts.creates then nodeOperations s else []) ++
  (parts.resources ++ parts.system :: parts.cluster).map .create

theorem operations_eq : parts.plan.operations = parts.front ++ parts.ops := by
  unfold plan assemblePlan front system
  simp only [List.map_append, List.map_cons, List.cons_append, List.append_assoc]

theorem payloads_front : (Plan.mk parts.front).payloads =
    parts.resources ++ parts.system :: parts.cluster := by
  have hnodes : (Plan.mk (if parts.creates then nodeOperations s else [])).payloads = [] := by
    split_ifs
    · exact payloads_nodeOperations s
    · rfl
  unfold front
  rw [payloads_append, payloads_create]
  change (Plan.mk (if parts.creates then nodeOperations s else [])).payloads ++ _ = _
  rw [hnodes, List.nil_append]

/-- The resources of a plan: those beside the cluster, the storage system, the cluster, and those of
the vendor. -/
theorem payloads_eq : parts.plan.payloads =
    parts.resources ++ parts.system :: parts.cluster ++ (Plan.mk parts.ops).payloads := by
  rw [show parts.plan = ⟨parts.front ++ parts.ops⟩ from congrArg Plan.mk parts.operations_eq,
    payloads_append, parts.payloads_front]

theorem mem_operations {p : Payload} : .create p ∈ parts.plan.operations ↔
    p ∈ parts.resources ∨ p = parts.system ∨ p ∈ parts.cluster ∨
      p ∈ (Plan.mk parts.ops).payloads := by
  rw [← mem_payloads, parts.payloads_eq, List.append_assoc, List.mem_append, List.cons_append,
    List.mem_cons, List.mem_append]

/-- Beside a cluster there are the resources of key management, database and local volumes. -/
theorem resources_of_creates (h : parts.creates = true) : ∃ database volumes,
    databaseResources s config = .ok database ∧ volumeResources s config = .ok volumes ∧
      parts.resources = kmsResources s config ++ database ++ volumes := by
  have hr := parts.resources_eq
  unfold plannedResources at hr
  rw [if_pos (show createsStorageCluster parts.vendor c = true from h), clusterResources_eq] at hr
  obtain ⟨database, hdatabase, hr⟩ := bind_eq_ok_iff.mp hr
  obtain ⟨volumes, hvolumes, hr⟩ := bind_eq_ok_iff.mp hr
  exact ⟨database, volumes, hdatabase, hvolumes, (Except.ok.inj hr).symm⟩

theorem cluster_of_creates (h : parts.creates = true) : ∃ p,
    storageClusterPayload s config = .ok p ∧ parts.cluster = [p] := by
  have hc := parts.cluster_eq
  unfold plannedCluster at hc
  rw [if_pos (show createsStorageCluster parts.vendor c = true from h)] at hc
  exact singleton_of_ok hc

/-- Without a cluster there is nothing beside it either. -/
theorem nothing_of_not_creates (h : parts.creates = false) :
    parts.resources = [] ∧ parts.cluster = [] := by
  have hr := parts.resources_eq
  have hc := parts.cluster_eq
  unfold plannedResources at hr
  unfold plannedCluster at hc
  rw [show createsStorageCluster parts.vendor c = false from h] at hr hc
  exact ⟨(Except.ok.inj hr).symm, (Except.ok.inj hc).symm⟩

theorem ops_of_internal (h : parts.vendor = none) : parts.ops = [] := by
  have ho := parts.ops_eq
  rw [h] at ho
  exact (Except.ok.inj ho).symm

theorem ops_of_vendor {v : Vendor} (h : parts.vendor = some v) : ∃ ps,
    v.payloads (s.vendorRequest config v) = .ok ps ∧
      parts.ops = (if v.waits then [.waitForVendor v.kind] else []) ++ ps.map .create := by
  have ho := parts.ops_eq
  rw [h] at ho
  exact eq_of_vendorOperations ho

theorem payloads_ops_of_vendor {v : Vendor} {ps : List Payload}
    (h : parts.ops = (if v.waits then [.waitForVendor v.kind] else []) ++ ps.map .create) :
    (Plan.mk parts.ops).payloads = ps := by
  rw [h, payloads_append, payloads_create]
  split_ifs <;> rfl

theorem creates_of_mem_resources {p : Payload} (h : p ∈ parts.resources) :
    parts.creates = true := by
  cases hcreates : parts.creates with
  | true => rfl
  | false =>
    rw [(parts.nothing_of_not_creates hcreates).1] at h
    cases h

theorem mem_resources {p : Payload} (h : p ∈ parts.resources) :
    p ∈ kmsResources s config ∨
      (∃ database, databaseResources s config = .ok database ∧ p ∈ database) ∨
      (s.backingStorage.type = .localDevices ∧
        s.localVolumes.payload? config.localStorageNamespace = .ok p) := by
  obtain ⟨database, volumes, hdatabase, hvolumes, hr⟩ :=
    parts.resources_of_creates (parts.creates_of_mem_resources h)
  rw [hr, List.mem_append, List.mem_append] at h
  rcases h with (h | h) | h
  · exact .inl h
  · exact .inr (.inl ⟨database, hdatabase, h⟩)
  · unfold volumeResources at hvolumes
    split_ifs at hvolumes with ht
    · obtain ⟨set, hset, rfl⟩ := singleton_of_ok hvolumes
      obtain rfl := List.mem_singleton.mp h
      exact .inr (.inr ⟨ht, hset⟩)
    · cases hvolumes
      cases h

/-- **The resources beside a cluster tell what they are for.** -/
theorem kinds_of_resources : ∀ p ∈ parts.resources,
    (p.IsKms ∧ s.isMcg = false) ∨ p.IsDatabase ∨
      (s.backingStorage.type = .localDevices ∧ p.model = .localVolumeSet) := by
  intro p hp
  rcases parts.mem_resources hp with h | ⟨database, hdatabase, h⟩ | ⟨ht, h⟩
  · exact .inl ⟨isKms_kmsResources p h, isMcg_of_mem_kmsResources h⟩
  · exact .inr (.inl (isDatabase_databaseResources hdatabase p h))
  · exact .inr (.inr ⟨ht, LocalVolumeForm.model_of_ok h⟩)

theorem creates_of_mem_cluster {p : Payload} (h : p ∈ parts.cluster) : parts.creates = true := by
  cases hcreates : parts.creates with
  | true => rfl
  | false =>
    rw [(parts.nothing_of_not_creates hcreates).2] at h
    cases h

theorem eq_payload_of_mem_cluster {p : Payload} (h : p ∈ parts.cluster) :
    ∃ cluster, storageCluster s config = .ok cluster ∧ p = cluster.payload := by
  obtain ⟨q, hq, hl⟩ := parts.cluster_of_creates (parts.creates_of_mem_cluster h)
  rw [hl] at h
  obtain rfl := List.mem_singleton.mp h
  exact storageCluster_of_payload hq

/-- On local devices the resources beside the cluster end with the volume set. -/
theorem volumeSet_of_local (ht : s.backingStorage.type = .localDevices) : ∃ database p,
    databaseResources s config = .ok database ∧
      s.localVolumes.payload? config.localStorageNamespace = .ok p ∧
      parts.resources = kmsResources s config ++ database ++ [p] := by
  obtain ⟨database, volumes, hdatabase, hvolumes, hr⟩ :=
    parts.resources_of_creates (parts.creates_of_internal (by rw [ht]; decide))
  unfold volumeResources at hvolumes
  rw [if_pos ht] at hvolumes
  obtain ⟨p, hp, rfl⟩ := singleton_of_ok hvolumes
  exact ⟨database, p, hdatabase, hp, hr⟩

/-- **What a vendor creates**: nothing where there is none, the exported text and the cluster
outside, or the credentials and the system. -/
theorem payloads_ops_cases (hr : r.BuiltIn) :
    (parts.vendor = none ∧ (Plan.mk parts.ops).payloads = []) ∨
    (parts.vendor = some .externalCeph ∧ ∃ data, (Plan.mk parts.ops).payloads =
      [dataSecret externalDetailsSecret config.namespaceName data,
        externalClusterPayload (s.vendorRequest config .externalCeph)]) ∨
    (parts.vendor = some .flashSystem ∧ (Plan.mk parts.ops).payloads =
      [FlashSystem.credentials (s.vendorRequest config .flashSystem),
        FlashSystem.cluster (s.vendorRequest config .flashSystem)]) := by
  rcases parts.internal_or_vendor with ⟨hv, _⟩ | ⟨v, hv, _⟩
  · exact .inl ⟨hv, by rw [parts.ops_of_internal hv]; rfl⟩
  · obtain ⟨ps, hps, ho⟩ := parts.ops_of_vendor hv
    rw [parts.payloads_ops_of_vendor ho]
    rcases hr.of_selected (parts.vendor_eq.symm.trans hv) with rfl | rfl
    · exact .inr (.inl ⟨hv, Vendor.payloads_externalCeph hps⟩)
    · exact .inr (.inr ⟨hv, Vendor.payloads_flashSystem hps⟩)

theorem isVendor_of_mem_ops (hr : r.BuiltIn) :
    ∀ p ∈ (Plan.mk parts.ops).payloads, p.IsVendor := by
  rcases parts.internal_or_vendor with ⟨hv, _⟩ | ⟨v, hv, _⟩
  · rw [parts.ops_of_internal hv]
    exact fun p hp => nomatch hp
  · obtain ⟨ps, hps, ho⟩ := parts.ops_of_vendor hv
    rw [parts.payloads_ops_of_vendor ho]
    exact hr.isVendor_payloads (parts.vendor_eq.symm.trans hv) hps

/-- No resource of a vendor is among those of the other parts. -/
theorem not_isVendor_of_mem_front {p : Payload} (hp : .create p ∈ parts.front) :
    ¬ p.IsVendor := by
  rw [← @mem_payloads ⟨parts.front⟩, parts.payloads_front, List.mem_append, List.mem_cons] at hp
  rcases hp with hp | rfl | hp
  · rcases parts.kinds_of_resources p hp with ⟨hk, _⟩ | hd | ⟨_, hset⟩
    · exact fun h => h.not_isKms hk
    · exact fun h => h.not_isDatabase hd
    · intro h
      have hm := h.model
      rw [hset] at hm
      exact absurd hm (by decide)
  · intro h
    have hm := h.model
    rw [show parts.system.model = .storageSystem from rfl] at hm
    exact absurd hm (by decide)
  · obtain ⟨cluster, _, rfl⟩ := parts.eq_payload_of_mem_cluster hp
    exact cluster.not_isVendor_payload

theorem model_of_mem_resources {p : Payload} (h : p ∈ parts.resources) :
    p.model ∈ [.configMap, .secret, .localVolumeSet] := by
  rcases parts.kinds_of_resources p h with ⟨hk, _⟩ | hd | ⟨_, hset⟩
  · rcases hk.model with hm | hm <;> rw [hm] <;> decide
  · rw [hd.1]
    decide
  · rw [hset]
    decide

theorem model_of_mem_cluster {p : Payload} (h : p ∈ parts.cluster) :
    p.model ∈ [.storageCluster] := by
  obtain ⟨cluster, _, rfl⟩ := parts.eq_payload_of_mem_cluster h
  exact .head _

theorem model_of_mem_ops (hr : r.BuiltIn) {p : Payload} (h : p ∈ (Plan.mk parts.ops).payloads) :
    p.model ∈ [.secret, .storageCluster, .flashSystemCluster] := by
  rcases (parts.isVendor_of_mem_ops hr p h).model with hm | hm | hm <;> rw [hm] <;> decide

/-- **Each part creates resources of its own kinds.** -/
theorem part_of_model (hr : r.BuiltIn) {p : Payload} (h : .create p ∈ parts.plan.operations) :
    (p ∈ parts.resources ∧ p.model ∈ [.configMap, .secret, .localVolumeSet]) ∨
      (p = parts.system ∧ p.model ∈ [.storageSystem]) ∨
      (p ∈ parts.cluster ∧ p.model ∈ [.storageCluster]) ∨
      (p ∈ (Plan.mk parts.ops).payloads ∧
        p.model ∈ [.secret, .storageCluster, .flashSystemCluster]) := by
  rcases parts.mem_operations.mp h with h | rfl | h | h
  · exact .inl ⟨h, parts.model_of_mem_resources h⟩
  · exact .inr (.inl ⟨rfl, .head _⟩)
  · exact .inr (.inr (.inl ⟨h, parts.model_of_mem_cluster h⟩))
  · exact .inr (.inr (.inr ⟨h, parts.model_of_mem_ops hr h⟩))

end PlanParts

/-! ### Settings for a plan -/

/-- Settings for a FlashSystem and a cluster on top of its class, with a key management service and
an external database beside the cluster. -/
def State.onFlashSystem (deployment : Deployment) (className : String) : State where
  storageClass := { name := className }
  nodes := ["n1", "n2", "n3"].map fun n => { name := n }
  backingStorage := {
    type := .external
    deployment
    externalStorage := "FlashSystemCluster"
    useExternalPostgres := true
    postgres := { tls := {
      enabled := true
      clientCerts := true
      keys := ⟨some "key", some "certificate"⟩ } } }
  capacity := { capacity := some "2Ti", enableTaint := true }
  createStorageClass := .ofList [("name", "flash")]
  security := {
    encryption := { clusterWide := true, advanced := true }
    kms := { vault := { caCert := some "authority" } } }

end StorageSetup
