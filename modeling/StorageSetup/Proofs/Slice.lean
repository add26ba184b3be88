import StorageSetup.Proofs.Flow
/-!
# Slices of the settings

The settings are a record of slices. An action writes the slices it names and leaves all others as
they were, and the gate of a step reads few of them, so a gate stays what it is under an action that
writes none of its slices. The forms are laid out along the flow: no step edits a slice that the
gate of an earlier step reads.

Key definitions: `Slice.Same`, `Action.writes`, `StepName.reads`, `StepName.edits`.
Key theorems: `Slice.eq_of_same`, `reduce_same`, `checkStep_congr`, `checkStep_reduce`,
`Flow.not_mem_reads_of_edits`.
-/

namespace StorageSetup

attribute [ext] State

/-- A slice of the settings. -/
inductive Slice where
  | stepMark
  | storageClass
  | nodes
  | createStorageClass
  | connectionDetails
  | localVolumes
  | backingStorage
  | capacity
  | security
  | dataProtection
  deriving DecidableEq, Repr

namespace Slice

/-- Every slice but the mark of the steps reached. -/
def topics : List Slice :=
  [storageClass, nodes, createStorageClass, connectionDetails, localVolumes, backingStorage,
    capacity, security, dataProtection]

@[simp] theorem mem_topics {x : Slice} : x ∈ topics ↔ x ≠ stepMark := by
  cases x <;> decide

/-- Two settings agree on a slice. -/
def Same : Slice → State → State → Prop
  | stepMark, s, t => s.stepIdReached = t.stepIdReached
  | storageClass, s, t => s.storageClass = t.storageClass
  | nodes, s, t => s.nodes = t.nodes
  | createStorageClass, s, t => s.createStorageClass = t.createStorageClass
  | connectionDetails, s, t => s.connectionDetails = t.connectionDetails
  | localVolumes, s, t => s.localVolumes = t.localVolumes
  | backingStorage, s, t => s.backingStorage = t.backingStorage
  | capacity, s, t => s.capacity = t.capacity
  | security, s, t => s.security = t.security
  | dataProtection, s, t => s.dataProtection = t.dataProtection

theorem Same.refl (x : Slice) (s : State) : x.Same s s := by
  cases x <;> rfl

theorem Same.symm {x : Slice} {s t : State} (h : x.Same s t) : x.Same t s := by
  cases x <;> exact Eq.symm h

theorem Same.trans {x : Slice} {s t u : State} (h : x.Same s t) (h' : x.Same t u) : x.Same s u := by
  cases x <;> exact Eq.trans h h'

/-- The slices make up the settings. -/
theorem eq_of_same {s t : State} (h : ∀ x : Slice, x.Same s t) : s = t :=
  State.ext (h stepMark) (h storageClass) (h nodes) (h backingStorage) (h capacity)
    (h createStorageClass) (h connectionDetails) (h localVolumes) (h security) (h dataProtection)

end Slice

/-! ### What an action writes -/

/-- The slices an action may write. A mode change may reset every topic. -/
def Action.writes : Action → List Slice
  | setStepIdReached _ => [.stepMark]
  | setStorageClass _ => [.storageClass]
  | setNodes _ => [.nodes]
  | setCreateStorageClass _ => [.createStorageClass]
  | setConnectionDetails _ => [.connectionDetails]
  | setLocalVolumes _ => [.localVolumes]
  | setBackingType _ => Slice.topics
  | setDeployment _ => Slice.topics
  | enableNfs _ => [.backingStorage]
  | setRbdClassDefault _ => [.backingStorage]
  | setExternalStorage _ => [.backingStorage]
  | useExternalPostgres _ => [.backingStorage]
  | setPostgresUsername _ => [.backingStorage]
  | setPostgresPassword _ => [.backingStorage]
  | setPostgresServerName _ => [.backingStorage]
  | setPostgresPort _ => [.backingStorage]
  | setPostgresDatabaseName _ => [.backingStorage]
  | setPostgresTls _ => [.backingStorage]
  | setPostgresAllowSelfSigned _ => [.backingStorage]
  | setPostgresClientCerts _ => [.backingStorage]
  | setPostgresKeys _ => [.backingStorage]
  | setCapacity _ => [.capacity]
  | setPvCount _ => [.capacity]
  | enableArbiter _ => [.capacity]
  | setArbiterLocation _ => [.capacity]
  | enableTaint _ => [.capacity]
  | setResourceProfile _ => [.capacity]
  | setEncryption _ => [.security]
  | setKms _ => [.security]
  | setNetworkType _ => [.security]
  | setPublicNetwork _ => [.security]
  | setClusterNetwork _ => [.security]
  | enableRdrPreparation _ => [.dataProtection]

theorem stepIdReached_switchMode (s : State) (m : ModeChange) :
    (s.switchMode m).stepIdReached = s.stepIdReached := by
  unfold State.switchMode
  cases m <;> dsimp only [State.setMode] <;> split <;> (try split) <;> rfl

/-- The consistency rules write these slices and no others. -/
theorem normalizers_same (s : State) {x : Slice}
    (hx : x ∉ [Slice.backingStorage, .storageClass, .capacity, .security]) :
    x.Same s (State.normalizers.foldl (fun s rule => rule s) s) := by
  have h1 : ∀ t : State, x.Same t t.clearExternalStorage := by
    intro t
    unfold State.clearExternalStorage
    split_ifs <;> cases x <;> first | rfl | simp at hx
  have h2 : ∀ t : State, x.Same t t.normalizeStorageClass := by
    intro t
    unfold State.normalizeStorageClass
    split <;> split_ifs <;> cases x <;> first | rfl | simp at hx
  have h3 : ∀ t : State, x.Same t t.clearMcgIncompatible := by
    intro t
    unfold State.clearMcgIncompatible
    split_ifs <;> cases x <;> first | rfl | simp at hx
  exact ((h1 s).trans (h2 _)).trans (h3 _)

/-- A mode change keeps the mark of the steps reached. -/
theorem stepIdReached_applyModeChange (s : State) (m : ModeChange) :
    (s.applyModeChange m).stepIdReached = s.stepIdReached :=
  (normalizers_same (s.switchMode m) (x := .stepMark) (by decide)).symm.trans
    (stepIdReached_switchMode s m)

/-- **An action leaves the slices it does not write.** -/
theorem reduce_same (s : State) (a : Action) {x : Slice} (hx : x ∉ a.writes) :
    x.Same s (reduce s a) := by
  cases a with
  | setBackingType v =>
    obtain rfl : x = .stepMark := Classical.not_not.mp (mt Slice.mem_topics.mpr hx)
    exact (stepIdReached_applyModeChange s _).symm
  | setDeployment v =>
    obtain rfl : x = .stepMark := Classical.not_not.mp (mt Slice.mem_topics.mpr hx)
    exact (stepIdReached_applyModeChange s _).symm
  | _ => cases x <;> first | rfl | exact absurd (List.mem_singleton.mpr rfl) hx

theorem reduceAll_same {x : Slice} : ∀ (actions : List Action) (s : State),
    (∀ a ∈ actions, x ∉ a.writes) → x.Same s (reduceAll s actions)
  | [], s, _ => Slice.Same.refl x s
  | a :: actions, s, h => by
    have ha : x.Same s (reduce s a) := reduce_same s a (h a List.mem_cons_self)
    exact ha.trans (reduceAll_same actions _ fun b hb => h b (List.mem_cons_of_mem _ hb))

/-! ### What a gate reads -/

/-- The slices the gate of a step reads. -/
def StepName.reads : StepName → List Slice
  | backingStorage => [.backingStorage, .storageClass]
  | capacityAndNodes => [.backingStorage, .storageClass, .nodes, .capacity]
  | createLocalVolumeSet => [.localVolumes]
  | securityAndNetwork => [.security]
  | security => [.security]
  | createStorageClass =>
    [.backingStorage, .storageClass, .createStorageClass, .connectionDetails]
  | connectionDetails =>
    [.backingStorage, .storageClass, .createStorageClass, .connectionDetails]
  | dataProtection => []
  | reviewAndCreate => []

theorem vendorForm_congr {s t : State} (r : Registry) (hb : s.backingStorage = t.backingStorage)
    (hc : s.storageClass = t.storageClass) (hf : s.createStorageClass = t.createStorageClass)
    (hd : s.connectionDetails = t.connectionDetails) :
    Gate.vendorForm s r = Gate.vendorForm t r := by
  have hv : ∀ p, s.formValues p = t.formValues p := by
    intro p; cases p
    · exact hf
    · exact hd
  unfold Gate.vendorForm
  rw [r.selected?_congr hb, hc]
  simp only [hv]

/-- A gate depends on the slices it reads. -/
theorem checkStep_congr {n : StepName} {s t : State} (r : Registry)
    (h : ∀ x ∈ n.reads, x.Same s t) : checkStep n s r = checkStep n t r := by
  cases n with
  | backingStorage =>
    have hb : s.backingStorage = t.backingStorage := h .backingStorage (by decide)
    have hc : s.storageClass = t.storageClass := h .storageClass (by decide)
    simp only [checkStep, Gate.backingStorage, Gate.backingType, hb, hc]
  | capacityAndNodes =>
    have hb : s.backingStorage = t.backingStorage := h .backingStorage (by decide)
    have hc : s.storageClass = t.storageClass := h .storageClass (by decide)
    have hn : s.nodes = t.nodes := h .nodes (by decide)
    have hp : s.capacity = t.capacity := h .capacity (by decide)
    have hr : Gate.resources s = Gate.resources t := by unfold Gate.resources; rw [hn, hp]
    have ha : Gate.arbiter s = Gate.arbiter t := by
      unfold Gate.arbiter Gate.dataZones; rw [hn, hp]
    unfold checkStep Gate.capacityAndNodes State.isMcg
    rw [hb, hc, hn, hp, hr, ha]
  | createLocalVolumeSet =>
    have hl : s.localVolumes = t.localVolumes := h .localVolumes (by decide)
    simp only [checkStep, Gate.localVolumeSet, hl]
  | securityAndNetwork =>
    have hs : s.security = t.security := h .security (by decide)
    simp only [checkStep, Gate.securityAndNetwork, Gate.security, hs]
  | security =>
    have hs : s.security = t.security := h .security (by decide)
    simp only [checkStep, Gate.security, hs]
  | createStorageClass =>
    exact vendorForm_congr r (h .backingStorage (by decide)) (h .storageClass (by decide))
      (h .createStorageClass (by decide)) (h .connectionDetails (by decide))
  | connectionDetails =>
    exact vendorForm_congr r (h .backingStorage (by decide)) (h .storageClass (by decide))
      (h .createStorageClass (by decide)) (h .connectionDetails (by decide))
  | dataProtection => rfl
  | reviewAndCreate => rfl

theorem checkCluster_congr {n : StepName} {s t : State} (c : Context) (r : Registry)
    (h : ∀ x ∈ n.reads, x.Same s t) : checkCluster n s c r = checkCluster n t c r := by
  cases n with
  | backingStorage =>
    have hb : s.backingStorage = t.backingStorage := h .backingStorage (by decide)
    unfold checkCluster State.isExternal
    rw [r.selected?_congr hb, hb]
  | capacityAndNodes =>
    have hp : s.capacity = t.capacity := h .capacity (by decide)
    unfold checkCluster
    rw [hp]
  | _ => rfl

/-- An action that writes nothing a gate reads leaves the gate as it is. -/
theorem checkStep_reduce {n : StepName} {a : Action} (s : State) (r : Registry)
    (h : ∀ x ∈ n.reads, x ∉ a.writes) : checkStep n (reduce s a) r = checkStep n s r :=
  (checkStep_congr r fun x hx => reduce_same s a (h x hx)).symm

theorem checkCluster_reduce {n : StepName} {a : Action} (s : State) (c : Context) (r : Registry)
    (h : ∀ x ∈ n.reads, x ∉ a.writes) : checkCluster n (reduce s a) c r = checkCluster n s c r :=
  (checkCluster_congr c r fun x hx => reduce_same s a (h x hx)).symm

/-- The mark of the steps reached is read by no gate. -/
theorem StepName.not_mem_writes_setStepIdReached (n : StepName) (id : UInt32) :
    ∀ x ∈ n.reads, x ∉ (Action.setStepIdReached id).writes := by
  cases n <;> simp [StepName.reads, Action.writes]

/-! ### What a form edits -/

/-- The slices the form of a step edits. -/
def StepName.edits : StepName → List Slice
  | backingStorage => Slice.topics
  | capacityAndNodes => [.nodes, .capacity]
  | createLocalVolumeSet => [.localVolumes]
  | securityAndNetwork => [.security]
  | security => [.security]
  | createStorageClass => [.createStorageClass]
  | connectionDetails => [.connectionDetails]
  | dataProtection => [.dataProtection]
  | reviewAndCreate => []

/-- **No form edits what an earlier gate reads.** -/
theorem Flow.not_mem_reads_of_edits (f : Flow) (b : Bool) : ∀ i < (f.visible b).length,
    ∀ n ∈ (f.visible b)[i]?, ∀ m ∈ (f.visible b).take i, ∀ x ∈ n.edits, x ∉ m.reads := by
  rcases f with ⟨_ | _, _ | _⟩ | _ | _ | _ | _ <;> cases b <;> decide

end StorageSetup
