import StorageSetup.Proofs.PlanParts
/-!
# Settings left over from another flow

Until the first step is left a change of the storage keeps the settings of the flow it turns away
from, so the settings often carry values that no step of their own flow shows. The planner reads
none of these: settings that differ in nothing but what their flow leaves over have the same plan,
and where there is no plan it is missing for the same reason.

Key definitions: `Setting.Same`, `Setting.LeftOver`, `State.ClusterAlike`.
Key theorems: `Setting.eq_of_same`, `clusterAlike_of_kept`, `planSubmission_congr`.
-/

namespace StorageSetup

attribute [ext] BackingStorage Capacity Security

/-- A setting, as far as the flows tell settings apart. -/
inductive Setting where
  | stepMark
  | backingType
  | deployment
  | externalStorage
  | enableNfs
  | rbdClassIsDefault
  | externalPostgres
  | storageClass
  | nodes
  | createStorageClass
  | connectionDetails
  | localVolumes
  | capacity
  | pvCount
  | enableArbiter
  | arbiterLocation
  | enableTaint
  | resourceProfile
  | encryption
  | kms
  | networks
  | dataProtection
  deriving DecidableEq, Repr

namespace Setting

/-- Two states agree on a setting. -/
def Same : Setting → State → State → Prop
  | stepMark, s, t => s.stepIdReached = t.stepIdReached
  | backingType, s, t => s.backingStorage.type = t.backingStorage.type
  | deployment, s, t => s.backingStorage.deployment = t.backingStorage.deployment
  | externalStorage, s, t => s.backingStorage.externalStorage = t.backingStorage.externalStorage
  | enableNfs, s, t => s.backingStorage.enableNfs = t.backingStorage.enableNfs
  | rbdClassIsDefault, s, t =>
    s.backingStorage.rbdClassIsDefault = t.backingStorage.rbdClassIsDefault
  | externalPostgres, s, t =>
    s.backingStorage.useExternalPostgres = t.backingStorage.useExternalPostgres ∧
      s.backingStorage.postgres = t.backingStorage.postgres
  | storageClass, s, t => s.storageClass = t.storageClass
  | nodes, s, t => s.nodes = t.nodes
  | createStorageClass, s, t => s.createStorageClass = t.createStorageClass
  | connectionDetails, s, t => s.connectionDetails = t.connectionDetails
  | localVolumes, s, t => s.localVolumes = t.localVolumes
  | capacity, s, t => s.capacity.capacity = t.capacity.capacity
  | pvCount, s, t => s.capacity.pvCount = t.capacity.pvCount
  | enableArbiter, s, t => s.capacity.enableArbiter = t.capacity.enableArbiter
  | arbiterLocation, s, t => s.capacity.arbiterLocation = t.capacity.arbiterLocation
  | enableTaint, s, t => s.capacity.enableTaint = t.capacity.enableTaint
  | resourceProfile, s, t => s.capacity.resourceProfile = t.capacity.resourceProfile
  | encryption, s, t => s.security.encryption = t.security.encryption
  | kms, s, t => s.security.kms = t.security.kms
  | networks, s, t =>
    s.security.networkType = t.security.networkType ∧
      s.security.publicNetwork = t.security.publicNetwork ∧
      s.security.clusterNetwork = t.security.clusterNetwork
  | dataProtection, s, t => s.dataProtection = t.dataProtection

theorem capacity_eq {s t : State} (hc : capacity.Same s t) (hp : pvCount.Same s t)
    (ha : enableArbiter.Same s t) (hl : arbiterLocation.Same s t) (ht : enableTaint.Same s t)
    (hr : resourceProfile.Same s t) : s.capacity = t.capacity :=
  Capacity.ext hc hp ha hl ht hr

theorem security_eq {s t : State} (he : encryption.Same s t) (hk : kms.Same s t)
    (hn : networks.Same s t) : s.security = t.security :=
  Security.ext he hk hn.1 hn.2.1 hn.2.2

/-- **The settings make up the state.** -/
theorem eq_of_same {s t : State} (h : ∀ x : Setting, x.Same s t) : s = t := by
  have hb : s.backingStorage = t.backingStorage :=
    BackingStorage.ext (h .backingType) (h .deployment) (h .externalStorage) (h .enableNfs)
      (h .rbdClassIsDefault) (h .externalPostgres).1 (h .externalPostgres).2
  have hc : s.capacity = t.capacity :=
    capacity_eq (h .capacity) (h .pvCount) (h .enableArbiter) (h .arbiterLocation) (h .enableTaint)
      (h .resourceProfile)
  have hs : s.security = t.security := security_eq (h .encryption) (h .kms) (h .networks)
  exact State.ext (h .stepMark) (h .storageClass) (h .nodes) hb hc (h .createStorageClass)
    (h .connectionDetails) (h .localVolumes) hs (h .dataProtection)

/-! ### What a flow leaves over -/

/-- The settings of a vendor outside. -/
def ofVendor : List Setting :=
  [externalStorage, createStorageClass, connectionDetails]

/-- The settings of block, file and object services together. -/
def ofFullDeployment : List Setting :=
  [capacity, pvCount, arbiterLocation, resourceProfile, enableNfs, rbdClassIsDefault, encryption,
    kms, networks, dataProtection]

/-- The settings of a storage cluster inside and of the class it stands on. -/
def ofCluster : List Setting :=
  [nodes, capacity, pvCount, enableArbiter, arbiterLocation, enableTaint, resourceProfile,
    storageClass, createStorageClass, localVolumes, kms, networks, deployment, externalPostgres,
    dataProtection]

/-- The settings that the flow of a state leaves over. -/
inductive LeftOver (s : State) (r : Registry) : Setting → Prop
  /-- How far the user came is no part of what is asked for. -/
  | mark : LeftOver s r stepMark
  | vendor {x : Setting} : s.backingStorage.type ≠ .external → x ∈ ofVendor → LeftOver s r x
  | volumes : s.backingStorage.type ≠ .localDevices → LeftOver s r localVolumes
  | gateway {x : Setting} : s.backingStorage.type ≠ .external → s.isMcg = true →
    x ∈ ofFullDeployment → LeftOver s r x
  /-- The default vendor brings a cluster of its own. -/
  | cluster {x : Setting} : r.selected? s = some .externalCeph → x ∈ ofCluster → LeftOver s r x
  | flashSystem {x : Setting} : r.selected? s = some .flashSystem →
    x ∈ [connectionDetails, localVolumes] → LeftOver s r x

variable {s t : State} {r : Registry} {x : Setting}

theorem type_of_selected {v : Vendor} (h : r.selected? s = some v) :
    s.backingStorage.type = .external := by
  refine Classical.byContradiction fun ht => ?_
  rw [selected?_of_internal ht] at h
  cases h

/-- Apart from the default vendor a flow leaves over only what belongs to a vendor, to local volumes
or to a full deployment. -/
theorem LeftOver.mem_of_ne_default (hv : r.selected? s ≠ some .externalCeph)
    (h : LeftOver s r x) : x ∈ stepMark :: localVolumes :: (ofVendor ++ ofFullDeployment) := by
  cases h with
  | mark => decide
  | vendor _ hx => exact .tail _ (.tail _ (List.mem_append_left _ hx))
  | volumes _ => decide
  | gateway _ _ hx => exact .tail _ (.tail _ (List.mem_append_right _ hx))
  | cluster hc _ => exact absurd hc hv
  | flashSystem _ hx => exact (by decide : ∀ y ∈ [connectionDetails, localVolumes],
      y ∈ stepMark :: localVolumes :: (ofVendor ++ ofFullDeployment)) x hx

/-- The default vendor leaves over what belongs to a cluster inside. -/
theorem LeftOver.mem_of_default (hv : r.selected? s = some .externalCeph) (h : LeftOver s r x) :
    x ∈ stepMark :: ofCluster := by
  have ht := type_of_selected hv
  cases h with
  | mark => decide
  | vendor hne _ => exact absurd ht hne
  | volumes _ => decide
  | gateway hne _ _ => exact absurd ht hne
  | cluster _ hx => exact .tail _ hx
  | flashSystem hf _ =>
    have hkind : Vendor.externalCeph.kind = Vendor.flashSystem.kind :=
      congrArg Vendor.kind (Option.some.inj (hv.symm.trans hf))
    exact absurd hkind (by decide)

theorem LeftOver.ne_local (h : LeftOver s r localVolumes) :
    s.backingStorage.type ≠ .localDevices := by
  cases h with
  | vendor _ hx => exact absurd hx (by decide)
  | volumes ht => exact ht
  | gateway _ _ hx => exact absurd hx (by decide)
  | cluster hc _ => rw [type_of_selected hc]; decide
  | flashSystem hf _ => rw [type_of_selected hf]; decide

/-- What belongs to a full deployment is left over by the object gateway alone. -/
theorem LeftOver.of_mem_full (hv : r.selected? s ≠ some .externalCeph) (h : LeftOver s r x)
    (hx : x ∈ ofFullDeployment) : s.isMcg = true ∧ s.backingStorage.type ≠ .external := by
  cases h with
  | mark => exact absurd hx (by decide)
  | vendor _ hx' => exact absurd hx ((by decide : ∀ y ∈ ofVendor, y ∉ ofFullDeployment) x hx')
  | volumes _ => exact absurd hx (by decide)
  | gateway ht hm _ => exact ⟨hm, ht⟩
  | cluster hc _ => exact absurd hc hv
  | flashSystem _ hx' => exact absurd hx ((by decide : ∀ y ∈ [connectionDetails, localVolumes],
      y ∉ ofFullDeployment) x hx')

/-- Outside, a vendor that is not the default one leaves over the export of the default one. -/
theorem LeftOver.of_mem_vendor (hv : r.selected? s ≠ some .externalCeph)
    (ht : s.backingStorage.type = .external) (h : LeftOver s r x) (hx : x ∈ ofVendor) :
    x = connectionDetails ∧ r.selected? s = some .flashSystem := by
  cases h with
  | mark => exact absurd hx (by decide)
  | vendor hne _ => exact absurd ht hne
  | volumes _ => exact absurd hx (by decide)
  | gateway hne _ _ => exact absurd ht hne
  | cluster hc _ => exact absurd hc hv
  | flashSystem hf hx' =>
    rw [List.mem_cons, List.mem_singleton] at hx'
    rcases hx' with rfl | rfl
    · exact ⟨rfl, hf⟩
    · exact absurd hx (by decide)

end Setting

/-! ### Flow and vendor -/

variable {s t : State} {c : Context} {r : Registry} {config : Config}

/-- The vendor is the one that is chosen, and inside the cluster none. -/
theorem Registry.selected?_eq (r : Registry) (ht : s.backingStorage.type = t.backingStorage.type)
    (he : s.backingStorage.type = .external →
      s.backingStorage.externalStorage = t.backingStorage.externalStorage) :
    r.selected? s = r.selected? t := by
  by_cases h : s.backingStorage.type = .external
  · rw [selected?_of_external h, selected?_of_external (ht.symm.trans h), he h]
  · rw [selected?_of_internal h, selected?_of_internal (by rwa [← ht])]

theorem chosenVendor_eq (ht : s.backingStorage.type = t.backingStorage.type)
    (he : s.backingStorage.type = .external →
      s.backingStorage.externalStorage = t.backingStorage.externalStorage) :
    chosenVendor s r = chosenVendor t r := by
  unfold chosenVendor State.isExternal
  rw [← ht]
  by_cases h : s.backingStorage.type = .external
  · rw [he h]
  · rw [if_neg (by simpa using h), if_neg (by simpa using h)]

/-- The flow asks for the deployment inside the cluster only. -/
theorem Flow.of_eq (c : Context) (ht : s.backingStorage.type = t.backingStorage.type)
    (hv : r.selected? s = r.selected? t) (hd : s.backingStorage.type ≠ .external →
      s.backingStorage.deployment = t.backingStorage.deployment) :
    Flow.of s c r = Flow.of t c r := by
  unfold Flow.of
  rw [← ht, ← hv]
  by_cases h : s.backingStorage.type = .external
  · rw [h]
  · rw [hd h]

/-- The first clash is looked for by the names of the steps. -/
theorem checkConflicts_eq : ∀ steps steps' : List Step, steps.map (·.name) = steps'.map (·.name) →
    (∀ n ∈ steps.map (·.name), checkCluster n s c r = checkCluster n t c r) →
    checkConflicts s c r steps = checkConflicts t c r steps'
  | [], [], _, _ => rfl
  | step :: steps, step' :: steps', hn, hc => by
    rw [List.map_cons, List.map_cons, List.cons.injEq] at hn
    rw [List.map_cons, List.forall_mem_cons] at hc
    have ih := checkConflicts_eq steps steps' hn.2 hc.2
    rw [checkConflicts, checkConflicts, ← hn.1, ← hc.1, ih]

theorem checkConflicts_computeSteps_eq (hn : stepNames s c r = stepNames t c r)
    (hc : ∀ n ∈ stepNames s c r, checkCluster n s c r = checkCluster n t c r) :
    checkConflicts s c r (computeSteps s c r) = checkConflicts t c r (computeSteps t c r) := by
  refine checkConflicts_eq _ _ ?_ ?_
  · rw [map_name_computeSteps, map_name_computeSteps, hn]
  · rwa [map_name_computeSteps]

/-- The cluster is asked for its type, its vendor and its arbiter. -/
theorem checkCluster_eq (ht : s.backingStorage.type = t.backingStorage.type)
    (hv : r.selected? s = r.selected? t) {n : StepName}
    (ha : n = .capacityAndNodes → s.capacity.enableArbiter = t.capacity.enableArbiter) :
    checkCluster n s c r = checkCluster n t c r := by
  cases n with
  | backingStorage =>
    unfold checkCluster State.isExternal
    rw [ht, hv]
  | capacityAndNodes =>
    unfold checkCluster
    rw [ha rfl]
  | _ => rfl

/-- The default vendor has no step for the nodes of a cluster. -/
theorem Flow.capacity_not_mem_default (b : Bool) :
    .capacityAndNodes ∉ defaultVendor.visible b := by
  cases b <;> decide

/-! ### The cluster inside -/

/-- Two states that ask for the same storage cluster and for the same resources beside it. -/
structure State.ClusterAlike (s t : State) : Prop where
  type : s.backingStorage.type = t.backingStorage.type
  deployment : s.backingStorage.deployment = t.backingStorage.deployment
  usesPostgres : s.backingStorage.useExternalPostgres = t.backingStorage.useExternalPostgres
  postgres : s.backingStorage.postgres = t.backingStorage.postgres
  storageClass : s.storageClass = t.storageClass
  nodes : s.nodes = t.nodes
  enableArbiter : s.capacity.enableArbiter = t.capacity.enableArbiter
  enableTaint : s.capacity.enableTaint = t.capacity.enableTaint
  volumes : s.backingStorage.type = .localDevices → s.localVolumes = t.localVolumes
  full : s.isMcg = false → s.capacity = t.capacity ∧ s.security = t.security ∧
    s.backingStorage.enableNfs = t.backingStorage.enableNfs ∧
    s.backingStorage.rbdClassIsDefault = t.backingStorage.rbdClassIsDefault ∧
    s.dataProtection = t.dataProtection

namespace State.ClusterAlike

theorem isMcg_congr (h : s.ClusterAlike t) : s.isMcg = t.isMcg := by
  unfold State.isMcg
  rw [h.deployment]

theorem nodeOperations_congr (h : s.ClusterAlike t) :
    nodeOperations s = nodeOperations t := by
  unfold nodeOperations
  rw [h.nodes, h.enableTaint]

theorem kmsResources_congr (h : s.ClusterAlike t) :
    kmsResources s config = kmsResources t config := by
  unfold kmsResources
  cases hm : s.isMcg with
  | true => rw [← h.isMcg_congr, hm, Bool.not_true, Bool.and_false, Bool.and_false]; rfl
  | false => rw [← h.isMcg_congr, hm, (h.full hm).2.1]

theorem clusterResources_congr (h : s.ClusterAlike t) :
    clusterResources s config = clusterResources t config := by
  have hdatabase : databaseResources s config = databaseResources t config := by
    unfold databaseResources
    rw [h.usesPostgres, h.postgres]
  have hvolumes : volumeResources s config = volumeResources t config := by
    unfold volumeResources
    rw [← h.type]
    split_ifs with ht
    · rw [h.volumes ht]
    · rfl
  rw [clusterResources_eq, clusterResources_eq, hdatabase, hvolumes, h.kmsResources_congr]

theorem storageClusterPayload_congr (h : s.ClusterAlike t) :
    storageClusterPayload s config = storageClusterPayload t config := by
  have hdatabase : GatewayDatabase.ofState s = GatewayDatabase.ofState t := by
    unfold GatewayDatabase.ofState
    rw [h.usesPostgres, h.postgres]
  unfold storageClusterPayload storageCluster
  rw [hdatabase, ← h.isMcg_congr, h.storageClass]
  cases hm : s.isMcg with
  | true => rfl
  | false =>
    obtain ⟨hcapacity, hsecurity, hnfs, hrbd, hprotection⟩ := h.full hm
    have hsize : deviceSize s = deviceSize t := by
      unfold deviceSize
      rw [h.storageClass, hcapacity]
    have hdevices : deviceSet s = deviceSet t := by
      funext size
      unfold deviceSet
      rw [h.storageClass, h.nodes, hcapacity]
    rw [hsize, hdevices, h.nodes, hcapacity, hsecurity, hnfs, hrbd, hprotection]

end State.ClusterAlike

/-! ### The vendor outside -/

theorem vendorOperations_eq {v : Vendor}
    (h : v.payloads (s.vendorRequest config v) = v.payloads (t.vendorRequest config v)) :
    vendorOperations s config v = vendorOperations t config v := by
  show (orPayloadError (v.payloads (s.vendorRequest config v)) >>= _) = _
  rw [h]
  rfl

theorem State.vendorRequest_eq {v : Vendor}
    (hf : s.formValues v.formStep = t.formValues v.formStep)
    (he : s.security.encryption = t.security.encryption) : t.vendorRequest config v =
      { s.vendorRequest config v with storageClassName := t.storageClass.name } := by
  unfold State.vendorRequest
  rw [hf, he]

/-- The default vendor stands on no class. -/
theorem Vendor.payloads_externalCeph_class (q : VendorRequest) (name : String) :
    Vendor.externalCeph.payloads { q with storageClassName := name } =
      Vendor.externalCeph.payloads q :=
  rfl

theorem systemOf_eq {vendor : Option Vendor}
    (h : ∀ v, vendor = some v → s.formValues v.formStep = t.formValues v.formStep) :
    systemOf s config vendor = systemOf t config vendor := by
  cases vendor with
  | none => rfl
  | some v => simp only [systemOf, h v rfl]

/-! ### The plan -/

section Kept

variable (h : ∀ x : Setting, ¬ x.LeftOver s r → x.Same s t)
include h

/-- Where there is a cluster inside, what it is asked for is kept. -/
theorem clusterAlike_of_kept (hv : r.selected? s ≠ some .externalCeph) : s.ClusterAlike t := by
  have keep : ∀ x ∉ Setting.stepMark :: Setting.localVolumes ::
      (Setting.ofVendor ++ Setting.ofFullDeployment), x.Same s t :=
    fun x hx => h x fun hl => hx (hl.mem_of_ne_default hv)
  have harbiter : Setting.enableArbiter.Same s t := keep _ (by decide)
  have htaint : Setting.enableTaint.Same s t := keep _ (by decide)
  refine {
    type := keep .backingType (by decide)
    deployment := keep .deployment (by decide)
    usesPostgres := (keep .externalPostgres (by decide)).1
    postgres := (keep .externalPostgres (by decide)).2
    storageClass := keep .storageClass (by decide)
    nodes := keep .nodes (by decide)
    enableArbiter := harbiter
    enableTaint := htaint
    volumes := fun ht => h .localVolumes fun hl => hl.ne_local ht
    full := fun hm => ?_ }
  have full : ∀ x ∈ Setting.ofFullDeployment, x.Same s t := fun x hx => h x fun hl => by
    rw [(hl.of_mem_full hv hx).1] at hm
    cases hm
  have hcapacity : s.capacity = t.capacity :=
    Setting.capacity_eq (full .capacity (by decide)) (full .pvCount (by decide)) harbiter
      (full .arbiterLocation (by decide)) htaint (full .resourceProfile (by decide))
  have hsecurity : s.security = t.security :=
    Setting.security_eq (full .encryption (by decide)) (full .kms (by decide))
      (full .networks (by decide))
  exact ⟨hcapacity, hsecurity, full .enableNfs (by decide), full .rbdClassIsDefault (by decide),
    full .dataProtection (by decide)⟩

theorem clusterAlike_of_internal (ht : s.backingStorage.type ≠ .external) : s.ClusterAlike t :=
  clusterAlike_of_kept h (by rw [selected?_of_internal ht]; nofun)

theorem kept_of_default (hv : r.selected? s = some .externalCeph) :
    ∀ x ∉ Setting.stepMark :: Setting.ofCluster, x.Same s t :=
  fun x hx => h x fun hl => hx (hl.mem_of_default hv)

/-- Outside, the vendor and the encryption of the traffic are kept. -/
theorem kept_of_external (ht : s.backingStorage.type = .external) :
    s.backingStorage.type = t.backingStorage.type ∧
      s.backingStorage.externalStorage = t.backingStorage.externalStorage ∧
      s.security.encryption = t.security.encryption := by
  by_cases hv : r.selected? s = some .externalCeph
  · have keep := kept_of_default h hv
    exact ⟨keep .backingType (by decide), keep .externalStorage (by decide),
      keep .encryption (by decide)⟩
  · refine ⟨(clusterAlike_of_kept h hv).type, h .externalStorage fun hl => ?_,
      h .encryption fun hl => ?_⟩
    · cases (hl.of_mem_vendor hv ht (by decide)).1
    · exact (hl.of_mem_full hv (by decide)).2 ht

theorem type_of_kept : s.backingStorage.type = t.backingStorage.type := by
  by_cases ht : s.backingStorage.type = .external
  · exact (kept_of_external h ht).1
  · exact (clusterAlike_of_internal h ht).type

theorem selected?_of_kept : r.selected? s = r.selected? t :=
  r.selected?_eq (type_of_kept h) fun ht => (kept_of_external h ht).2.1

/-- The vendor that is chosen keeps its form. -/
theorem formValues_of_kept {v : Vendor} (hv : r.selected? s = some v) :
    s.formValues v.formStep = t.formValues v.formStep := by
  have ht := Setting.type_of_selected hv
  by_cases hd : r.selected? s = some .externalCeph
  · obtain rfl : v = .externalCeph := Option.some.inj (hv.symm.trans hd)
    exact kept_of_default h hd .connectionDetails (by decide)
  · cases hf : v.formStep with
    | createStorageClass =>
      refine h .createStorageClass fun hl => ?_
      cases (hl.of_mem_vendor hd ht (by decide)).1
    | connectionDetails =>
      refine h .connectionDetails fun hl => ?_
      have hflash := (hl.of_mem_vendor hd ht (by decide)).2
      obtain rfl : v = .flashSystem := Option.some.inj (hv.symm.trans hflash)
      cases hf

/-- The vendor that is chosen gets the same request, but for a class that it does not stand on. -/
theorem vendorOperations_of_kept (config : Config) {v : Vendor} (hv : r.selected? s = some v) :
    vendorOperations s config v = vendorOperations t config v := by
  have hencryption := (kept_of_external h (Setting.type_of_selected hv)).2.2
  apply vendorOperations_eq
  rw [State.vendorRequest_eq (formValues_of_kept h hv) hencryption]
  by_cases hd : r.selected? s = some .externalCeph
  · obtain rfl : v = .externalCeph := Option.some.inj (hv.symm.trans hd)
    exact (Vendor.payloads_externalCeph_class _ _).symm
  · rw [← (clusterAlike_of_kept h hd).storageClass]
    rfl

/-- The conflicts that are looked for are the same. -/
theorem checkConflicts_of_kept (c : Context) :
    checkConflicts s c r (computeSteps s c r) = checkConflicts t c r (computeSteps t c r) := by
  have htype := type_of_kept h
  have hvendor := selected?_of_kept h
  refine checkConflicts_computeSteps_eq ?_ fun n hn => checkCluster_eq htype hvendor fun he => ?_
  · unfold stepNames
    rw [Flow.of_eq c htype hvendor fun ht => (clusterAlike_of_internal h ht).deployment]
  · by_cases hd : r.selected? s = some .externalCeph
    · subst he
      unfold stepNames at hn
      rw [Flow.of_selected hd, if_pos (by decide)] at hn
      exact absurd hn (Flow.capacity_not_mem_default _)
    · exact (clusterAlike_of_kept h hd).enableArbiter

/-- **Left-over settings do not reach the plan.** Two states that agree on all settings but those
that the flow of the one leaves over have the same plan or fail for the same reason. -/
theorem planSubmission_congr (c : Context) (config : Config) :
    planSubmission s c r config = planSubmission t c r config := by
  rw [planSubmission_eq, planSubmission_eq, checkConflicts_of_kept h c,
    ← chosenVendor_eq (type_of_kept h) fun ht => (kept_of_external h ht).2.1]
  congr 1
  funext _
  cases hchosen : chosenVendor s r with
  | error e => rfl
  | ok vendor =>
    have hv : vendor = r.selected? s := (eq_selected_of_chosenVendor hchosen).1
    have hcreates : createsStorageCluster vendor c = true → s.ClusterAlike t := by
      intro hc
      refine clusterAlike_of_kept h fun hd => ?_
      rw [hv, hd] at hc
      cases hc
    have hresources : plannedResources s config (createsStorageCluster vendor c) =
        plannedResources t config (createsStorageCluster vendor c) := by
      unfold plannedResources
      split_ifs with hc
      · exact (hcreates hc).clusterResources_congr
      · rfl
    have hcluster : plannedCluster s config (createsStorageCluster vendor c) =
        plannedCluster t config (createsStorageCluster vendor c) := by
      unfold plannedCluster
      split_ifs with hc
      · rw [(hcreates hc).storageClusterPayload_congr]
      · rfl
    have hops : plannedVendor s config vendor = plannedVendor t config vendor := by
      cases vendor with
      | none => rfl
      | some v => exact vendorOperations_of_kept h config hv.symm
    have hassemble : assemblePlan s config vendor (createsStorageCluster vendor c) =
        assemblePlan t config vendor (createsStorageCluster vendor c) := by
      have hsystem : systemOf s config vendor = systemOf t config vendor :=
        systemOf_eq fun v he => formValues_of_kept h (hv.symm.trans he)
      unfold assemblePlan
      rw [hsystem]
      split_ifs with hc
      · rw [(hcreates hc).nodeOperations_congr]
      · rfl
    show (plannedResources s config _ >>= _) = plannedResources t config _ >>= _
    rw [hresources, hcluster, hops, hassemble]

end Kept

/-- Settings of a FlashSystem with a cluster on its class do not depend on a pasted export or on a
volume set that were entered before. -/
theorem planSubmission_congr_flashSystem :
    (∀ x : Setting, ¬ x.LeftOver (.onFlashSystem .full "gold") .builtins →
      x.Same (.onFlashSystem .full "gold")
        { State.onFlashSystem .full "gold" with
          stepIdReached := 4
          connectionDetails := .ofList [(clusterDetailsField, "[]")]
          localVolumes := { name := "localblock", selectNodes := true } }) ∧
      planSubmission (.onFlashSystem .full "gold") {} .builtins {} =
        planSubmission { State.onFlashSystem .full "gold" with
          stepIdReached := 4
          connectionDetails := .ofList [(clusterDetailsField, "[]")]
          localVolumes := { name := "localblock", selectNodes := true } } {} .builtins {} := by
  have h : ∀ x : Setting, ¬ x.LeftOver (.onFlashSystem .full "gold") .builtins →
      x.Same (.onFlashSystem .full "gold")
        { State.onFlashSystem .full "gold" with
          stepIdReached := 4
          connectionDetails := .ofList [(clusterDetailsField, "[]")]
          localVolumes := { name := "localblock", selectNodes := true } } := by
    intro x hx
    cases x with
    | stepMark => exact absurd .mark hx
    | connectionDetails => exact absurd (.flashSystem rfl (.head _)) hx
    | localVolumes => exact absurd (.volumes (by decide)) hx
    | externalPostgres => exact ⟨rfl, rfl⟩
    | networks => exact ⟨rfl, rfl, rfl⟩
    | _ => rfl
  exact ⟨h, planSubmission_congr h {} {}⟩

end StorageSetup
