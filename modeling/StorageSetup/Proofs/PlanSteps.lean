import StorageSetup.Proofs.PlanParts
/-!
# The steps and the plan

The steps that the user is led through and the operations of the plan are decided apart, the steps
by a table of flows and the plan by the vendor and the cluster that is there. They agree: a plan
does what a step was shown for and nothing else.

Key definitions: `Operation.onNode`, `Plan.Follows`.
Key theorems: `PlanParts.capacity_mem_iff`, `vendorForm_mem_iff`, `planSubmission_follows`.
-/

namespace StorageSetup

/-- The operation labels or taints a node. -/
def Operation.onNode : Operation → Bool
  | labelNode _ _ | taintNode _ _ => true
  | _ => false

/-- A plan does what the steps were shown for and nothing else. -/
structure Plan.Follows (plan : Plan) (steps : List StepName) (s : State) (r : Registry)
    (config : Config) : Prop where
  /-- The cluster of the settings is created where there is a step for it. -/
  cluster : .capacityAndNodes ∈ steps ↔
    ∃ p, storageClusterPayload s config = .ok p ∧ .create p ∈ plan.operations
  /-- With it the chosen nodes are labelled in order, and tainted where that was asked for. -/
  nodes : plan.operations.filter Operation.onNode =
    if .capacityAndNodes ∈ steps then
      s.nodes.map (fun n => .labelNode n.name storageLabels) ++
        if s.capacity.enableTaint then s.nodes.map fun n => .taintNode n.name .storage else []
    else []
  volumeSet : .createLocalVolumeSet ∈ steps ↔
    ∃ p, p.model = .localVolumeSet ∧ .create p ∈ plan.operations
  /-- The resources of the vendor are created where its form was shown. -/
  vendor : (.createStorageClass ∈ steps ∨ .connectionDetails ∈ steps) ↔
    ∃ v ps, r.selected? s = some v ∧ v.payloads (s.vendorRequest config v) = .ok ps ∧ ps ≠ [] ∧
      ∀ p ∈ ps, .create p ∈ plan.operations
  /-- They are created last, and where the vendor must be waited for, right behind the waiting. -/
  waiting : ∀ v ps, r.selected? s = some v → v.payloads (s.vendorRequest config v) = .ok ps →
    ∃ before, plan.operations =
        before ++ (if v.waits then [.waitForVendor v.kind] else []) ++ ps.map .create ∧
      ∀ p ∈ ps, .create p ∉ before
  /-- Resources of the key management are created only where it could be set up. -/
  keyManagement : (∃ p, p.IsKms ∧ .create p ∈ plan.operations) → .securityAndNetwork ∈ steps

variable {s : State} {c : Context} {r : Registry} {config : Config}

/-! ### Steps of a flow -/

theorem volumeSet_mem_iff (s : State) (c : Context) (r : Registry) :
    .createLocalVolumeSet ∈ stepNames s c r ↔ s.backingStorage.type = .localDevices := by
  refine ⟨fun h => ?_, volumeSet_mem_stepNames c r⟩
  obtain ⟨i, hi⟩ := List.mem_iff_getElem?.mp h
  obtain ⟨⟨d, hd⟩, _⟩ :=
    (Flow.volumeSet_iff_second _ _ i (List.getElem?_eq_some_iff.mp hi).1).mp hi
  exact Flow.type_of_local hd

/-- The form of a vendor is shown where there is one. -/
theorem vendorForm_mem_iff (s : State) (c : Context) (r : Registry) :
    (.createStorageClass ∈ stepNames s c r ∨ .connectionDetails ∈ stepNames s c r) ↔
      ∃ v, r.selected? s = some v := by
  cases hv : r.selected? s with
  | some v =>
    refine iff_of_true ?_ ⟨v, rfl⟩
    unfold stepNames
    rw [Flow.of_selected hv, Flow.steps_eq_visible]
    split_ifs <;> cases c.hasMultipleClusters <;> decide
  | none =>
    refine iff_of_false ?_ (by simp)
    unfold stepNames
    by_cases ht : s.backingStorage.type = .external
    · have hf : Flow.of s c r = .unselected := by
        unfold Flow.of
        rw [ht, hv]
      rw [hf, Flow.steps_eq_visible]
      cases c.hasMultipleClusters <;> decide
    · obtain ⟨l, hf⟩ := Flow.of_internal (c := c) (r := r) ht
      rw [hf, Flow.steps_eq_visible]
      cases l <;> cases s.backingStorage.deployment <;> cases c.hasMultipleClusters <;> decide

namespace PlanParts

variable (parts : PlanParts s c r config)

/-- **The step for capacity and nodes is shown exactly where a cluster is created.** -/
theorem capacity_mem_iff : .capacityAndNodes ∈ stepNames s c r ↔ parts.creates = true := by
  unfold stepNames creates
  rcases parts.internal_or_vendor with ⟨hv, ht⟩ | ⟨v, hv, _⟩
  · obtain ⟨l, hf⟩ := Flow.of_internal (c := c) (r := r) ht
    rw [hv, hf]
    exact iff_of_true (Flow.capacity_mem_internal _ _ _) rfl
  · rw [hv, Flow.of_selected (parts.vendor_eq.symm.trans hv), Flow.steps_eq_visible]
    simp only [createsStorageCluster]
    cases v.isDefault <;> cases c.hasStorageCluster <;> cases c.hasMultipleClusters <;> decide

/-- A full cluster comes with a step for key management. -/
theorem security_mem_of_creates (h : parts.creates = true) (hm : s.isMcg = false) :
    .securityAndNetwork ∈ stepNames s c r := by
  unfold stepNames
  rcases parts.internal_or_vendor with ⟨_, ht⟩ | ⟨v, hv, _⟩
  · obtain ⟨l, hf⟩ := Flow.of_internal (c := c) (r := r) ht
    have hd : s.backingStorage.deployment = .full := by
      cases hd : s.backingStorage.deployment with
      | full => rfl
      | mcg =>
        unfold State.isMcg at hm
        rw [hd] at hm
        exact absurd hm (by decide)
    rw [hf, hd, Flow.steps_eq_visible]
    cases l <;> cases c.hasMultipleClusters <;> decide
  · unfold creates at h
    rw [hv] at h
    simp only [createsStorageCluster, Bool.and_eq_true, Bool.not_eq_true'] at h
    rw [Flow.of_selected (parts.vendor_eq.symm.trans hv), h.1, h.2, Flow.steps_eq_visible]
    cases c.hasMultipleClusters <;> decide

end PlanParts

/-! ### Operations of a plan -/

theorem filter_onNode_create (l : List Payload) :
    (l.map Operation.create).filter Operation.onNode = [] := by
  rw [List.filter_eq_nil_iff]
  intro op hop
  obtain ⟨p, _, rfl⟩ := List.mem_map.mp hop
  exact Bool.false_ne_true

theorem filter_onNode_nodeOperations (s : State) :
    (nodeOperations s).filter Operation.onNode = nodeOperations s := by
  rw [List.filter_eq_self]
  unfold nodeOperations
  intro op hop
  rw [List.mem_append] at hop
  rcases hop with hop | hop
  · obtain ⟨n, _, rfl⟩ := List.mem_map.mp hop
    rfl
  · split_ifs at hop
    · obtain ⟨n, _, rfl⟩ := List.mem_map.mp hop
      rfl
    · cases hop

namespace PlanParts

variable (parts : PlanParts s c r config)

/-- A vendor leaves the nodes alone. -/
theorem filter_onNode_ops : parts.ops.filter Operation.onNode = [] := by
  rcases parts.internal_or_vendor with ⟨hv, _⟩ | ⟨v, hv, _⟩
  · rw [parts.ops_of_internal hv]
    rfl
  · obtain ⟨ps, _, ho⟩ := parts.ops_of_vendor hv
    rw [ho, List.filter_append, filter_onNode_create]
    split_ifs <;> rfl

theorem filter_onNode_operations : parts.plan.operations.filter Operation.onNode =
    if parts.creates then nodeOperations s else [] := by
  rw [parts.operations_eq, front, List.filter_append, List.filter_append, filter_onNode_create,
    parts.filter_onNode_ops, List.append_nil, List.append_nil,
    List.filter_cons_of_neg Bool.false_ne_true]
  split_ifs
  · exact filter_onNode_nodeOperations s
  · rfl

/-- The cluster of the settings is created exactly where the plan has one. -/
theorem creates_iff (hr : r.BuiltIn) : parts.creates = true ↔
    ∃ p, storageClusterPayload s config = .ok p ∧ .create p ∈ parts.plan.operations := by
  refine ⟨fun h => ?_, ?_⟩
  · obtain ⟨p, hp, hl⟩ := parts.cluster_of_creates h
    exact ⟨p, hp, parts.mem_operations.mpr (.inr (.inr (.inl (hl ▸ List.mem_singleton_self p))))⟩
  · rintro ⟨p, hp, hmem⟩
    obtain ⟨cluster, _, rfl⟩ := storageCluster_of_payload hp
    have hm : cluster.payload.model = .storageCluster := rfl
    rcases parts.part_of_model hr hmem with ⟨_, h⟩ | ⟨_, h⟩ | ⟨hmem, _⟩ | ⟨hmem, _⟩
    · rw [hm] at h
      exact absurd h (by decide)
    · rw [hm] at h
      exact absurd h (by decide)
    · exact parts.creates_of_mem_cluster hmem
    · -- the cluster that a vendor creates is another one
      exact absurd (parts.isVendor_of_mem_ops hr _ hmem) cluster.not_isVendor_payload

theorem volumeSet_iff (hr : r.BuiltIn) : s.backingStorage.type = .localDevices ↔
    ∃ p, p.model = .localVolumeSet ∧ .create p ∈ parts.plan.operations := by
  refine ⟨fun ht => ?_, ?_⟩
  · obtain ⟨database, p, _, hp, hl⟩ := parts.volumeSet_of_local ht
    exact ⟨p, LocalVolumeForm.model_of_ok hp, parts.mem_operations.mpr (.inl (by simp [hl]))⟩
  · rintro ⟨p, hm, hmem⟩
    rcases parts.part_of_model hr hmem with ⟨hmem, _⟩ | ⟨_, h⟩ | ⟨_, h⟩ | ⟨_, h⟩
    · rcases parts.kinds_of_resources p hmem with ⟨hk, _⟩ | hd | ⟨ht, _⟩
      · rcases hk.model with hk | hk <;> exact absurd (hm.symm.trans hk) (by decide)
      · exact absurd (hm.symm.trans hd.1) (by decide)
      · exact ht
    all_goals
      rw [hm] at h
      exact absurd h (by decide)

/-- Key management is a matter of a full cluster. -/
theorem creates_of_kms (hr : r.BuiltIn) {p : Payload} (hk : p.IsKms)
    (h : .create p ∈ parts.plan.operations) : parts.creates = true ∧ s.isMcg = false := by
  rcases parts.part_of_model hr h with ⟨h, _⟩ | ⟨_, h⟩ | ⟨_, h⟩ | ⟨h, _⟩
  · rcases parts.kinds_of_resources p h with ⟨_, hm⟩ | hd | ⟨_, hset⟩
    · exact ⟨parts.creates_of_mem_resources h, hm⟩
    · exact absurd hk hd.not_isKms
    · rcases hk.model with hm | hm <;> exact absurd (hset.symm.trans hm) (by decide)
  · rcases hk.model with hm | hm <;> rw [hm] at h <;> exact absurd h (by decide)
  · rcases hk.model with hm | hm <;> rw [hm] at h <;> exact absurd h (by decide)
  · exact absurd hk (parts.isVendor_of_mem_ops hr p h).not_isKms

end PlanParts

/-! ### Agreement -/

/-- **A plan does what the steps were shown for and nothing else.** -/
theorem planSubmission_follows (hr : r.BuiltIn) {plan : Plan}
    (h : planSubmission s c r config = .ok plan) :
    plan.Follows ((computeSteps s c r).map (·.name)) s r config := by
  obtain ⟨parts, rfl⟩ := exists_planParts h
  rw [map_name_computeSteps]
  exact {
    cluster := parts.capacity_mem_iff.trans (parts.creates_iff hr)
    nodes := by
      rw [parts.filter_onNode_operations]
      simp only [parts.capacity_mem_iff]
      rfl
    volumeSet := (volumeSet_mem_iff s c r).trans (parts.volumeSet_iff hr)
    vendor := by
      rw [vendorForm_mem_iff]
      refine ⟨?_, fun ⟨v, _, hv, _⟩ => ⟨v, hv⟩⟩
      rintro ⟨v, hv⟩
      obtain ⟨ps, hps, ho⟩ := parts.ops_of_vendor (parts.vendor_eq.trans hv)
      refine ⟨v, ps, hv, hps, ?_, fun p hp => parts.mem_operations.mpr ?_⟩
      · exact hr.payloads_ne_nil hv hps
      · rw [parts.payloads_ops_of_vendor ho]
        exact .inr (.inr (.inr hp))
    waiting := by
      intro v ps hv hps
      obtain ⟨ps', hps', ho⟩ := parts.ops_of_vendor (parts.vendor_eq.trans hv)
      obtain rfl : ps = ps' := Except.ok.inj (hps.symm.trans hps')
      refine ⟨parts.front, ?_, fun p hp hmem => ?_⟩
      · rw [parts.operations_eq, ho, List.append_assoc]
      · exact parts.not_isVendor_of_mem_front hmem (hr.isVendor_payloads hv hps p hp)
    keyManagement := by
      rintro ⟨p, hk, hmem⟩
      obtain ⟨hcreates, hm⟩ := parts.creates_of_kms hr hk hmem
      exact parts.security_mem_of_creates hcreates hm }

theorem planSubmission_follows_onFlashSystem : ∃ plan,
    Registry.builtins.BuiltIn ∧
    planSubmission (.onFlashSystem .full "gold") {} .builtins {} = .ok plan ∧
    plan.Follows ((computeSteps (.onFlashSystem .full "gold") {} .builtins).map (·.name))
      (.onFlashSystem .full "gold") .builtins {} :=
  ⟨_, Registry.builtIn_builtins, rfl, planSubmission_follows Registry.builtIn_builtins rfl⟩

end StorageSetup
