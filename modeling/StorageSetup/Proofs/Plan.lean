import StorageSetup.Proofs.Session
import StorageSetup.Submission.Plan
/-!
# Planning behind open gates

Where the gates of all steps are open the planner has everything it asks for: every way in which it
can fail is ruled out by the gate of a step, provided that the vendors judge their forms by what
they build from them. The vendors that are always there do.

Key definitions: `Vendor.Sound`, `Registry.Sound`.
Key theorems: `Registry.builtins_sound`, `checkConflicts_eq_ok_iff`, `planSubmission_of_open`.
-/

namespace StorageSetup

/-! ### The planner as a chain

Each part of a plan has a name of its own, and the planner asks for them in order. -/

variable {s : State} {c : Context} {r : Registry}

def kmsResources (s : State) (config : Config) : List Payload :=
  if s.security.encryption.usesKms && !s.isMcg then s.security.kms.payloads config.namespaceName
  else []

def databaseResources (s : State) (config : Config) : Except PlanError (List Payload) :=
  if s.backingStorage.useExternalPostgres then
    orPayloadError (s.backingStorage.postgres.payloads config.namespaceName)
  else .ok []

def volumeResources (s : State) (config : Config) : Except PlanError (List Payload) :=
  if s.backingStorage.type = .localDevices then
    (orPayloadError (s.localVolumes.payload? config.localStorageNamespace)).map ([·])
  else .ok []

theorem clusterResources_eq (s : State) (config : Config) : clusterResources s config =
    databaseResources s config >>= fun database =>
      volumeResources s config >>= fun volumes =>
        .ok (kmsResources s config ++ database ++ volumes) := by
  unfold clusterResources databaseResources volumeResources kmsResources
  split_ifs <;> rfl

def plannedResources (s : State) (config : Config) (creates : Bool) :
    Except PlanError (List Payload) :=
  if creates then clusterResources s config else .ok []

def plannedCluster (s : State) (config : Config) (creates : Bool) :
    Except PlanError (List Payload) :=
  if creates then (orPayloadError (storageClusterPayload s config)).map ([·]) else .ok []

def plannedVendor (s : State) (config : Config) : Option Vendor → Except PlanError (List Operation)
  | some v => vendorOperations s config v
  | none => .ok []

/-- The parts of a plan put together. -/
def assemblePlan (s : State) (config : Config) (vendor : Option Vendor) (creates : Bool)
    (resources cluster : List Payload) (ops : List Operation) : Plan :=
  ⟨.ensureNamespace config.namespaceName monitoringLabels ::
    (if creates then nodeOperations s else []) ++
    resources.map .create ++
    .create (storageSystemPayload (systemOf s config vendor).1 (systemOf s config vendor).2
      config.namespaceName) ::
    cluster.map .create ++ ops⟩

theorem planSubmission_eq (s : State) (c : Context) (r : Registry) (config : Config) :
    planSubmission s c r config =
      checkConflicts s c r (computeSteps s c r) >>= fun _ =>
      chosenVendor s r >>= fun vendor =>
      plannedResources s config (createsStorageCluster vendor c) >>= fun resources =>
      plannedCluster s config (createsStorageCluster vendor c) >>= fun cluster =>
      plannedVendor s config vendor >>= fun ops =>
      .ok (assemblePlan s config vendor (createsStorageCluster vendor c) resources cluster
        ops) := by
  unfold planSubmission plannedResources plannedCluster plannedVendor assemblePlan
  congr 1
  funext _
  congr 1
  funext vendor
  cases createsStorageCluster vendor c <;> cases vendor <;> rfl

/-! ### Vendors -/

/-- A vendor builds its resources from every complete form, and takes a form for complete only where
the storage class it stands on has a name. -/
structure Vendor.Sound (v : Vendor) : Prop where
  payloads : ∀ q : VendorRequest, v.isComplete q.form q.storageClassName = true →
    ∃ ps, v.payloads q = .ok ps
  className : v.isDefault = false → ∀ form name, v.isComplete form name = true → name ≠ ""

/-- Every vendor of the registry is sound. -/
def Registry.Sound (r : Registry) : Prop :=
  ∀ v ∈ r.vendors, v.Sound

/-- The secret with the details of an external cluster. -/
def detailsSecret (namespaceName raw : String) : Payload :=
  dataSecret externalDetailsSecret namespaceName (.ofList [("external_cluster_details", raw)])

/-- The form takes the details exactly where they can be read. -/
theorem Vendor.isComplete_externalCeph_iff {form : FormValues} {className : String} :
    externalCeph.isComplete form className = true ↔
      ∃ raw, form.get? clusterDetailsField = some raw ∧ (readClusterDetails raw).isOk = true :=
  Option.any_eq_true _ _

/-- The details are read and then stored as they are. -/
theorem Vendor.payloads_of_details {q : VendorRequest} {raw : String}
    (hraw : q.form.get? clusterDetailsField = some raw)
    (hread : (readClusterDetails raw).isOk = true) : externalCeph.payloads q =
      .ok [detailsSecret q.namespaceName raw, externalClusterPayload q] := by
  obtain ⟨details, hdetails⟩ := exists_of_isOk hread
  simp only [externalCeph, hraw, Option.getD_some, hdetails]
  rfl

theorem Vendor.externalCeph_sound : Vendor.externalCeph.Sound where
  payloads _ h := by
    obtain ⟨_, hraw, hread⟩ := isComplete_externalCeph_iff.mp h
    exact ⟨_, payloads_of_details hraw hread⟩
  className h := by cases h

theorem Vendor.flashSystem_sound : Vendor.flashSystem.Sound where
  payloads _ _ := ⟨_, rfl⟩
  className _ form name h := by
    simp only [flashSystem, Bool.and_eq_true, Bool.not_eq_true'] at h
    rintro rfl
    exact absurd h.2 (by decide)

/-- **The vendors that are always there are sound.** -/
theorem Registry.builtins_sound : Registry.builtins.Sound := by
  have hv : builtins.vendors = [.externalCeph, .flashSystem] := rfl
  intro v hmem
  rw [hv, List.mem_cons, List.mem_singleton] at hmem
  rcases hmem with rfl | rfl
  · exact Vendor.externalCeph_sound
  · exact Vendor.flashSystem_sound

theorem Registry.empty_sound : Registry.empty.Sound := by
  intro v hmem
  cases hmem

theorem Registry.sound_of_get? {r : Registry} (hr : r.Sound) {kind : String} {v : Vendor}
    (h : r.get? kind = some v) : v.Sound :=
  hr v (List.mem_of_find?_eq_some h)

/-! ### The parts of a plan -/

theorem checkConflicts_eq_ok_iff (s : State) (c : Context) (r : Registry) : ∀ steps : List Step,
    checkConflicts s c r steps = .ok () ↔
      ∀ n ∈ steps.map (·.name), checkCluster n s c r = .ok ()
  | [] => by simp [checkConflicts]
  | step :: steps => by
    rw [checkConflicts, List.map_cons, List.forall_mem_cons]
    split
    · next e h => simp [h]
    · next h => rw [h, checkConflicts_eq_ok_iff s c r steps]; simp

/-- A vendor is chosen in external mode only. -/
theorem selected?_of_internal (h : s.backingStorage.type ≠ .external) : r.selected? s = none := by
  unfold Registry.selected? State.isExternal
  rw [if_neg (by simpa using h)]

theorem selected?_of_external (h : s.backingStorage.type = .external) :
    r.selected? s = r.get? s.backingStorage.externalStorage := by
  unfold Registry.selected? State.isExternal
  rw [if_pos (by simpa using h)]

theorem selected?_sound (hr : r.Sound) {v : Vendor} (h : r.selected? s = some v) : v.Sound := by
  unfold Registry.selected? at h
  split_ifs at h
  exact r.sound_of_get? hr h

/-- The gate of the first step finds the vendor that the planner asks for. -/
theorem chosenVendor_of_open (h : Gate.backingStorage s r = .ok ()) :
    chosenVendor s r = .ok (r.selected? s) := by
  unfold chosenVendor Registry.selected?
  cases he : s.isExternal
  · rfl
  · obtain ⟨v, hv⟩ := Gate.vendor_of_backingType (Gate.backingStorage_eq_ok_iff.mp h).1
      (beq_iff_eq.mp he)
    simp only [hv, if_true]

/-- The volume set has a name to be created under. -/
theorem volumeSet_of_open (f : LocalVolumeForm) (namespaceName : String)
    (h : Text.isBlank f.name = false) : ∃ p, f.payload? namespaceName = .ok p := by
  have hname : (Text.trim f.name).isEmpty = false := by
    rw [Bool.eq_false_iff, Ne, String.isEmpty_iff, Text.trim_eq_empty_iff, h]
    exact Bool.false_ne_true
  unfold LocalVolumeForm.payload?
  rw [if_neg (by rw [hname]; exact Bool.false_ne_true)]
  exact ⟨_, rfl⟩

/-- The database has the key files that its secret holds. -/
theorem postgres_of_open (p : Postgres) (namespaceName : String) (h : Gate.postgres p = .ok ()) :
    ∃ ps, p.payloads namespaceName = .ok ps := by
  unfold Postgres.payloads
  split_ifs with hc
  · obtain ⟨key, certificate, hk, hp⟩ := Gate.keys_of_postgres h hc
    simp only [hk, hp]
    exact ⟨_, rfl⟩
  · exact ⟨_, rfl⟩

theorem clusterResources_of_open (config : Config) (hb : Gate.backingStorage s r = .ok ())
    (hl : s.backingStorage.type = .localDevices → Gate.volumeSettings s = .ok ()) :
    ∃ ps, clusterResources s config = .ok ps := by
  rw [clusterResources_eq]
  refine exists_ok_bind ?_ fun database _ => exists_ok_bind ?_ fun volumes _ => ⟨_, rfl⟩
  · unfold databaseResources
    split_ifs with hp
    · obtain ⟨ps, hps⟩ :=
        postgres_of_open _ config.namespaceName ((Gate.backingStorage_eq_ok_iff.mp hb).2 hp)
      exact ⟨ps, by rw [hps]; rfl⟩
    · exact ⟨_, rfl⟩
  · unfold volumeResources
    split_ifs with ht
    · obtain ⟨p, hp⟩ := volumeSet_of_open _ config.localStorageNamespace
        (Gate.volumeSettings_eq_ok_iff.mp (hl ht)).1
      exact ⟨[p], by rw [hp]; rfl⟩
    · exact ⟨_, rfl⟩

/-- The cluster has a class and a size to ask for. -/
theorem storageCluster_of_open (config : Config) (hc : Gate.capacityAndNodes s = .ok ())
    (hn : s.isMcg = false → s.storageClass.name ≠ "") :
    ∃ p, storageClusterPayload s config = .ok p := by
  unfold storageClusterPayload storageCluster
  split_ifs with hm he
  · exact ⟨_, rfl⟩
  · exact absurd (String.isEmpty_iff.mp he) (hn (Bool.eq_false_iff.mpr hm))
  · have hsize : ∃ size, deviceSize s = .ok size := by
      obtain ⟨hp | hp, _⟩ := (Gate.capacityAndNodes_eq_ok_iff.mp hc).2.1 (Bool.eq_false_iff.mpr hm)
      · exact ⟨"1", by unfold deviceSize; rw [if_pos hp]⟩
      · obtain ⟨size, hs⟩ := Option.isSome_iff_exists.mp hp
        unfold deviceSize
        split_ifs
        · exact ⟨_, rfl⟩
        · exact ⟨size, by simp only [hs]⟩
    obtain ⟨size, hs⟩ := hsize
    simp only [hs]
    exact ⟨_, rfl⟩

theorem vendorOperations_of_open (config : Config) {v : Vendor} (hr : r.Sound)
    (hv : r.selected? s = some v) (h : Gate.vendorForm s r = .ok ()) :
    ∃ ops, vendorOperations s config v = .ok ops := by
  obtain ⟨v', hv', hcomplete⟩ := Gate.vendorForm_eq_ok_iff.mp h
  obtain rfl : v = v' := Option.some.inj (hv.symm.trans hv')
  unfold vendorOperations
  refine exists_ok_bind ?_ fun payloads _ => ⟨_, rfl⟩
  obtain ⟨ps, hps⟩ := (selected?_sound hr hv).payloads
    ⟨v.systemName (s.formValues v.formStep) config, config.namespaceName, s.storageClass.name,
      s.formValues v.formStep, s.security.encryption.inTransit⟩ hcomplete
  exact ⟨ps, by rw [hps]; rfl⟩

/-! ### Which steps guard the plan -/

namespace Flow

theorem of_internal (h : s.backingStorage.type ≠ .external) : ∃ l, Flow.of s c r =
    internal l s.backingStorage.deployment := by
  unfold Flow.of
  split
  · exact ⟨_, rfl⟩
  · exact ⟨_, rfl⟩
  · next ht => exact absurd ht h

theorem of_selected {v : Vendor} (h : r.selected? s = some v) : Flow.of s c r =
    if v.isDefault then defaultVendor
    else if c.hasStorageCluster then thirdPartyAttached else thirdParty := by
  have ht : s.backingStorage.type = .external := by
    refine Classical.byContradiction fun ht => ?_
    rw [selected?_of_internal ht] at h
    cases h
  unfold Flow.of
  rw [ht, h]

theorem backing_mem (f : Flow) (b : Bool) : .backingStorage ∈ f.visible b := by
  rcases f with ⟨_ | _, _ | _⟩ | _ | _ | _ | _ <;> cases b <;> decide

theorem capacity_mem_internal (l : Bool) (d : Deployment) (b : Bool) :
    .capacityAndNodes ∈ (internal l d).visible b := by
  cases l <;> cases d <;> cases b <;> decide

theorem volumeSet_mem_local (d : Deployment) (b : Bool) :
    .createLocalVolumeSet ∈ (internal true d).visible b := by
  cases d <;> cases b <;> decide

end Flow

theorem backing_mem_stepNames (s : State) (c : Context) (r : Registry) :
    .backingStorage ∈ stepNames s c r :=
  Flow.backing_mem _ _

theorem volumeSet_mem_stepNames (c : Context) (r : Registry)
    (h : s.backingStorage.type = .localDevices) : .createLocalVolumeSet ∈ stepNames s c r := by
  unfold stepNames
  rw [Flow.of_local c r h]
  exact Flow.volumeSet_mem_local _ _

/-- A chosen vendor has a step for its form. -/
theorem vendorForm_of_open {v : Vendor} (hv : r.selected? s = some v)
    (h : ∀ n ∈ stepNames s c r, checkStep n s r = .ok ()) : Gate.vendorForm s r = .ok () := by
  have hf : .connectionDetails ∈ stepNames s c r ∨ .createStorageClass ∈ stepNames s c r := by
    unfold stepNames
    rw [Flow.of_selected hv, Flow.steps_eq_visible]
    split_ifs
    · exact .inl (by cases c.hasMultipleClusters <;> decide)
    · exact .inr (by cases c.hasMultipleClusters <;> decide)
    · exact .inr (by cases c.hasMultipleClusters <;> decide)
  rcases hf with hf | hf
  · exact h _ hf
  · exact h _ hf

/-- Where a storage cluster is created there is a step for its nodes. -/
theorem capacity_mem_of_creates (hb : Gate.backingStorage s r = .ok ())
    (h : createsStorageCluster (r.selected? s) c = true) :
    .capacityAndNodes ∈ stepNames s c r := by
  unfold stepNames
  by_cases ht : s.backingStorage.type = .external
  · obtain ⟨v, hv⟩ := Gate.vendor_of_backingType (Gate.backingStorage_eq_ok_iff.mp hb).1 ht
    rw [← selected?_of_external ht] at hv
    simp only [hv, createsStorageCluster, Bool.and_eq_true, Bool.not_eq_true'] at h
    rw [Flow.of_selected hv, if_neg (by simp [h.1]), if_neg (by simp [h.2]), Flow.steps_eq_visible]
    cases c.hasMultipleClusters <;> decide
  · obtain ⟨l, hl⟩ := Flow.of_internal (c := c) (r := r) ht
    rw [hl]
    exact Flow.capacity_mem_internal _ _ _

/-- The class under a new cluster has a name, whichever gate asked for it. -/
theorem className_of_open (hr : r.Sound) (h : ∀ n ∈ stepNames s c r, checkStep n s r = .ok ())
    (hcreates : createsStorageCluster (r.selected? s) c = true)
    (hl : s.backingStorage.type = .localDevices → s.storageClass.name ≠ "") :
    s.storageClass.name ≠ "" := by
  have hb : Gate.backingStorage s r = .ok () := h _ (backing_mem_stepNames s c r)
  have htype := (Gate.backingStorage_eq_ok_iff.mp hb).1
  cases ht : s.backingStorage.type with
  | localDevices => exact hl ht
  | existing =>
    have hn := Gate.name_of_backingType htype ht
    rintro he
    rw [he] at hn
    exact absurd hn (by decide)
  | external =>
    obtain ⟨v, hv⟩ := Gate.vendor_of_backingType htype ht
    rw [← selected?_of_external ht] at hv
    obtain ⟨v', hv', hcomplete⟩ := Gate.vendorForm_eq_ok_iff.mp (vendorForm_of_open hv h)
    obtain rfl : v = v' := Option.some.inj (hv.symm.trans hv')
    simp only [hv, createsStorageCluster, Bool.and_eq_true, Bool.not_eq_true'] at hcreates
    exact (selected?_sound hr hv).className hcreates.1 _ _ hcomplete

/-- **Behind open gates the planner cannot fail.** On local devices the class must have been taken
from the volume set. -/
theorem planSubmission_of_open (config : Config) (hr : r.Sound)
    (h : ∀ n ∈ stepNames s c r, checkBoth n s c r = .ok ())
    (hl : s.backingStorage.type = .localDevices → s.storageClass.name ≠ "") :
    ∃ p, planSubmission s c r config = .ok p := by
  have hstep : ∀ n ∈ stepNames s c r, checkStep n s r = .ok () :=
    fun n hn => (checkBoth_eq_ok_iff.mp (h n hn)).1
  have hb : Gate.backingStorage s r = .ok () := hstep _ (backing_mem_stepNames s c r)
  have hconflicts : checkConflicts s c r (computeSteps s c r) = .ok () := by
    rw [checkConflicts_eq_ok_iff, map_name_computeSteps]
    exact fun n hn => (checkBoth_eq_ok_iff.mp (h n hn)).2
  have hvolumes : s.backingStorage.type = .localDevices → Gate.volumeSettings s = .ok () :=
    fun ht => (Gate.localVolumeSet_eq_ok_iff.mp (hstep _ (volumeSet_mem_stepNames c r ht))).1
  rw [planSubmission_eq]
  refine exists_ok_bind ⟨_, hconflicts⟩ fun _ _ => ?_
  refine exists_ok_bind ⟨_, chosenVendor_of_open hb⟩ fun vendor hvendor => ?_
  obtain rfl : r.selected? s = vendor :=
    Except.ok.inj ((chosenVendor_of_open hb).symm.trans hvendor)
  refine exists_ok_bind ?_ fun resources _ => exists_ok_bind ?_ fun cluster _ =>
    exists_ok_bind ?_ fun ops _ => ⟨_, rfl⟩
  · unfold plannedResources
    split_ifs
    · exact clusterResources_of_open config hb hvolumes
    · exact ⟨_, rfl⟩
  · unfold plannedCluster
    split_ifs with hcreates
    · obtain ⟨p, hp⟩ := storageCluster_of_open config
        (hstep _ (capacity_mem_of_creates hb hcreates))
        fun _ => className_of_open hr hstep hcreates hl
      exact ⟨[p], by rw [hp]; rfl⟩
    · exact ⟨_, rfl⟩
  · unfold plannedVendor
    split
    · next v hv => exact vendorOperations_of_open config hr hv (vendorForm_of_open hv hstep)
    · exact ⟨_, rfl⟩

end StorageSetup
