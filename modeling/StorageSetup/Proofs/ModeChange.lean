import StorageSetup.Proofs.Jump
import StorageSetup.Proofs.Normalization
import StorageSetup.Proofs.SwitchedClass
/-!
# Changes of the mode

Past the first step a change of the mode starts over: it forgets all settings but the mark of the
steps reached, the modes and the class of existing storage. Made twice it is the change made once, on
both sides of the first step, and so is any other action.

Key definitions: `ModeChange.deploymentAfterReset`, `State.startedOver`.
Key theorems: `State.applyModeChange_of_progressed`, `State.applyModeChange_eq_iff`,
`State.reset_forgets`, `State.applyModeChange_applyModeChange`, `reduce_idempotent`.
-/

namespace StorageSetup

/-! ### What a reset keeps -/

/-- The deployment that a reset leaves: the chosen one, and the initial one where another type was
chosen. -/
def ModeChange.deploymentAfterReset : ModeChange → Deployment
  | backingType _ => State.initial.backingStorage.deployment
  | deployment d => d

namespace State

variable {s t : State}

/-- The initial settings with a mark of the steps reached, the modes and a class. -/
def startedOver (mark : UInt32) (type : BackingType) (deployment : Deployment)
    (c : StorageClass) : State :=
  { initial with
    stepIdReached := mark
    storageClass := c
    backingStorage := { initial.backingStorage with type, deployment } }

theorem exists_switchMode_of_progressed (h : s.hasProgressed = true) (m : ModeChange) :
    ∃ c, s.switchMode m = startedOver s.stepIdReached (s.setMode m).backingStorage.type
      m.deploymentAfterReset c := by
  unfold switchMode
  rw [if_pos h]
  cases m <;> dsimp only [setMode] <;> split_ifs <;> exact ⟨_, rfl⟩

/-- In settings that start over there is no vendor to clear and nothing that the object gateway
lacks, so the rules see to the class alone. -/
theorem exists_normalized_startedOver (mark : UInt32) (type : BackingType)
    (deployment : Deployment) (c : StorageClass) : ∃ c',
      normalizers.foldl (fun s rule => rule s) (startedOver mark type deployment c) =
        startedOver mark type deployment c' := by
  let start := startedOver mark type deployment
  have hvendor : (start c).clearExternalStorage = start c :=
    clearExternalStorage_eq_iff.mpr fun _ => rfl
  have hclass : (start c).normalizeStorageClass =
      start (start c).normalizeStorageClass.storageClass := normalizeStorageClass_eq _
  have hgateway (c' : StorageClass) : (start c').clearMcgIncompatible = start c' := by
    refine clearMcgIncompatible_eq_iff.mpr fun _ x => ?_
    cases x <;> simp [ClusterSetting.off, start, startedOver, initial]
  refine ⟨(start c).normalizeStorageClass.storageClass, ?_⟩
  show (start c).clearExternalStorage.normalizeStorageClass.clearMcgIncompatible = _
  rw [hvendor, hclass]
  exact hgateway _

/-- **Past the first step a change of the mode starts over.** -/
theorem applyModeChange_of_progressed (h : s.hasProgressed = true) (m : ModeChange) :
    s.applyModeChange m = startedOver s.stepIdReached (s.setMode m).backingStorage.type
      m.deploymentAfterReset (s.classOn (s.setMode m).backingStorage.type) := by
  obtain ⟨c, hc⟩ : ∃ c, s.applyModeChange m = startedOver s.stepIdReached
      (s.setMode m).backingStorage.type m.deploymentAfterReset c := by
    obtain ⟨c, hc⟩ := exists_switchMode_of_progressed h m
    unfold applyModeChange
    rw [hc]
    exact exists_normalized_startedOver _ _ _ _
  have hclass : s.classOn (s.setMode m).backingStorage.type = c := by
    rw [← storageClass_applyModeChange, hc]
    rfl
  rw [hc, hclass]

/-- **What survives a reset** is the mark of the steps reached, the resulting type and the class
that is left there, and nothing else. -/
theorem applyModeChange_eq_iff (hs : s.hasProgressed = true) (ht : t.hasProgressed = true)
    (m : ModeChange) : s.applyModeChange m = t.applyModeChange m ↔
      s.stepIdReached = t.stepIdReached ∧
      (s.setMode m).backingStorage.type = (t.setMode m).backingStorage.type ∧
      s.classOn (s.setMode m).backingStorage.type = t.classOn (t.setMode m).backingStorage.type := by
  constructor
  · intro h
    refine ⟨?_, ?_, ?_⟩
    · rw [← stepIdReached_applyModeChange s m, h, stepIdReached_applyModeChange]
    · rw [← type_applyModeChange, h, type_applyModeChange]
    · rw [← storageClass_applyModeChange, h, storageClass_applyModeChange]
  · rintro ⟨hmark, htype, hclass⟩
    rw [applyModeChange_of_progressed hs, applyModeChange_of_progressed ht, hmark, hclass, htype]

/-- The class that a reset leaves depends on the class there was on existing storage only. -/
theorem classOn_eq_of_progressed (hs : s.hasProgressed = true) (ht : t.hasProgressed = true)
    {type : BackingType} (h : type = .existing → s.storageClass = t.storageClass) :
    s.classOn type = t.classOn type := by
  unfold classOn
  by_cases htype : type = .existing
  · rw [if_pos htype, if_pos htype, h htype]
  · simp [htype, hs, ht]

/-- **A reset forgets everything else.** Two states past the first step with the same mark, on which
a change of the mode leaves the same type and which have the same class where that is the type for
existing classes, are made equal. What they are made are the initial settings but for the mark, the
modes and the class, so no node, capacity, form value, credential, key, encryption or network
setting of theirs is left. -/
theorem reset_forgets (m : ModeChange) (hs : s.hasProgressed = true) (ht : t.hasProgressed = true)
    (hmark : s.stepIdReached = t.stepIdReached)
    (htype : (s.applyModeChange m).backingStorage.type = (t.applyModeChange m).backingStorage.type)
    (hclass : (s.applyModeChange m).backingStorage.type = .existing →
      s.storageClass = t.storageClass) :
    s.applyModeChange m = t.applyModeChange m ∧
      s.applyModeChange m = startedOver s.stepIdReached (s.applyModeChange m).backingStorage.type
        m.deploymentAfterReset (s.applyModeChange m).storageClass := by
  constructor
  · rw [type_applyModeChange, type_applyModeChange] at htype
    rw [type_applyModeChange] at hclass
    refine (applyModeChange_eq_iff hs ht m).mpr ⟨hmark, htype, ?_⟩
    rw [← htype]
    exact classOn_eq_of_progressed hs ht hclass
  · rw [type_applyModeChange, storageClass_applyModeChange]
    exact applyModeChange_of_progressed hs m

/-- Settings of a gateway with a database outside: a node, a password and keys are filled in. -/
def withDatabase : State :=
  { initial with
    stepIdReached := 3
    storageClass := ⟨"gp3", "ebs.csi.aws.com"⟩
    nodes := [{ name := "n1", cpu := 16.0 }]
    backingStorage := { initial.backingStorage with
      deployment := .mcg
      useExternalPostgres := true
      postgres := { password := "hunter2", tls := { keys := { privateKey := some "key" } } } } }

/-- Settings of a vendor outside: other fields are filled in. -/
def withVendor : State :=
  { initial with
    stepIdReached := 3
    storageClass := ⟨"gp3", "ebs.csi.aws.com"⟩
    backingStorage := { initial.backingStorage with
      type := .external, externalStorage := "FlashSystemCluster" }
    createStorageClass := Dict.empty.insert "password" "hunter3" }

/-- Where both turn to existing classes only their class is left. -/
theorem reset_forgets_existing :
    let change : ModeChange := .backingType .existing
    withDatabase.hasProgressed = true ∧ withVendor.hasProgressed = true ∧
      withDatabase.stepIdReached = withVendor.stepIdReached ∧
      withDatabase.storageClass = withVendor.storageClass ∧
      withDatabase.applyModeChange change = withVendor.applyModeChange change ∧
      withDatabase.applyModeChange change =
        startedOver 3 .existing .full ⟨"gp3", "ebs.csi.aws.com"⟩ := by
  intro change
  have hdatabase : withDatabase.hasProgressed = true := rfl
  have hvendor : withVendor.hasProgressed = true := rfl
  obtain ⟨heq, hforgets⟩ := reset_forgets change hdatabase hvendor rfl rfl fun _ => rfl
  exact ⟨hdatabase, hvendor, rfl, rfl, heq, hforgets⟩

/-! ### A change made twice -/

theorem deployment_applyModeChange (s : State) (d : Deployment) :
    (s.applyModeChange (.deployment d)).backingStorage.deployment = d := by
  unfold applyModeChange
  rw [backingStorage_normalized]
  show (s.switchMode (.deployment d)).backingStorage.deployment = d
  unfold switchMode
  dsimp only [setMode]
  split_ifs <;> rfl

/-- A change of the mode has been made. -/
theorem setMode_applyModeChange (s : State) (m : ModeChange) :
    (s.applyModeChange m).setMode m = s.applyModeChange m := by
  have htype {t : State} {v : BackingType} (h : t.backingStorage.type = v) :
      t.setMode (.backingType v) = t := by
    subst h
    rfl
  have hdeployment {t : State} {d : Deployment} (h : t.backingStorage.deployment = d) :
      t.setMode (.deployment d) = t := by
    subst h
    rfl
  cases m with
  | backingType v => exact htype (type_applyModeChange s _)
  | deployment d => exact hdeployment (deployment_applyModeChange s d)

/-- The class that a change of the mode leaves is the class that the same change leaves again. -/
theorem classOn_applyModeChange (s : State) (m : ModeChange) :
    (s.applyModeChange m).classOn (s.setMode m).backingStorage.type =
      s.classOn (s.setMode m).backingStorage.type := by
  have hrule : (s.applyModeChange m).normalizeStorageClass = s.applyModeChange m :=
    rule_applyModeChange (by simp [normalizers]) s m
  have hclass : (s.applyModeChange m).storageClass.isNoProvisioner = true ↔
      (s.setMode m).backingStorage.type ≠ .existing := by
    rw [← type_applyModeChange]
    exact normalizeStorageClass_eq_iff.mp hrule
  by_cases ht : (s.setMode m).backingStorage.type = .existing
  · have hn : (s.applyModeChange m).storageClass.isNoProvisioner = false :=
      Bool.eq_false_iff.mpr fun h => hclass.mp h ht
    rw [← storageClass_applyModeChange, ht]
    exact classOn_existing_of_provisioned hn
  · cases hp : s.hasProgressed with
    | true =>
      exact classOn_eq_of_progressed ((s.hasProgressed_applyModeChange m).trans hp) hp
        fun h => absurd h ht
    | false =>
      have hp' := (s.hasProgressed_applyModeChange m).trans hp
      rw [← storageClass_applyModeChange]
      unfold classOn
      simp only [if_neg ht, hclass.mpr ht, hp', Bool.not_false, Bool.and_self, if_true]

/-- **A change of the mode made twice is the change made once.** Before the first step is left the
second change finds the mode set and every rule in order, and past it both changes start over with
the same settings. -/
theorem applyModeChange_applyModeChange (s : State) (m : ModeChange) :
    (s.applyModeChange m).applyModeChange m = s.applyModeChange m := by
  have hprogressed := s.hasProgressed_applyModeChange m
  by_cases hp : s.hasProgressed = true
  · refine (applyModeChange_eq_iff (hprogressed.trans hp) hp m).mpr
      ⟨stepIdReached_applyModeChange s m, ?_, ?_⟩
    · rw [setMode_applyModeChange, type_applyModeChange]
    · rw [setMode_applyModeChange, type_applyModeChange]
      exact classOn_applyModeChange s m
  · have hswitch : (s.applyModeChange m).switchMode m = s.applyModeChange m := by
      rw [switchMode, if_neg (hprogressed ▸ hp), setMode_applyModeChange]
    rw [applyModeChange, hswitch]
    exact foldl_eq_of_fixed normalizers fun _ hrule => rule_applyModeChange hrule s m

end State

/-! ### Actions made twice -/

theorem LocalVolumeForm.apply_apply (f : LocalVolumeForm) (c : VolumeChange) :
    (f.apply c).apply c = f.apply c := by
  cases c <;> rfl

theorem reduce_reduce (s : State) (a : Action) : reduce (reduce s a) a = reduce s a := by
  cases a with
  | setStepIdReached id =>
    refine Session.reduce_setStepIdReached_of_le (UInt32.le_iff_toNat_le.mpr ?_)
    show id.toNat ≤ (max s.stepIdReached id).toNat
    rw [UInt32.toNat_max]
    exact Nat.le_max_right _ _
  | setBackingType v => exact s.applyModeChange_applyModeChange _
  | setDeployment v => exact s.applyModeChange_applyModeChange _
  | setCreateStorageClass c => simp only [reduce, Dict.insert_insert]
  | setConnectionDetails c => simp only [reduce, Dict.insert_insert]
  | setLocalVolumes c => simp only [reduce, LocalVolumeForm.apply_apply]
  | enableArbiter v => cases v <;> rfl
  | _ => rfl

/-- **Every action is idempotent**, and the consistency rules of a change of the mode lead to one
result. An action done twice leaves the settings it leaves when it is done once, whatever they were;
and whatever order the rules are run in, a change of the mode gives the same settings, which none of
the rules changes any more. -/
theorem reduce_idempotent :
    (∀ (s : State) (a : Action), reduce (reduce s a) a = reduce s a) ∧
    ∀ (s : State) (m : ModeChange) (rules : List (State → State)), rules.Perm State.normalizers →
      let result := rules.foldl (fun s rule => rule s) (s.switchMode m)
      result = s.applyModeChange m ∧ ∀ rule ∈ State.normalizers, rule result = result := by
  refine ⟨reduce_reduce, fun s m rules h => ?_⟩
  have hresult : rules.foldl (fun s rule => rule s) (s.switchMode m) = s.applyModeChange m :=
    State.foldl_eq_of_perm h _
  refine ⟨hresult, fun rule hrule => ?_⟩
  rw [hresult]
  exact State.rule_applyModeChange hrule s m

/-- Before the first step is left a change to local disks clears the vendor and the class, the rules
in their order or backwards, once or twice. -/
theorem reduce_idempotent_backwards :
    let s : State := { State.withVendor with stepIdReached := 1 }
    let change : ModeChange := .backingType .localDevices
    State.normalizers.reverse.Perm State.normalizers ∧
      State.normalizers.reverse.foldl (fun s rule => rule s) (s.switchMode change) =
        s.applyModeChange change ∧
      reduce (reduce s (.setBackingType .localDevices)) (.setBackingType .localDevices) =
        reduce s (.setBackingType .localDevices) := by
  intro s change
  have hperm := State.normalizers.reverse_perm
  obtain ⟨htwice, hrules⟩ := reduce_idempotent
  exact ⟨hperm, (hrules s change _ hperm).1, htwice s _⟩

end StorageSetup
