import Mathlib.Data.List.DropRight
import Mathlib.Data.List.TakeWhile
import StorageSetup.Proofs.Slice
/-!
# Open gates

A gate runs its conditions in order, so it is open where all of them hold. What an open gate says
about the settings is stated here once. On local devices the class that the volume set provides may
take the place of any other class without closing a gate.

Key definitions: `Gate.volumeSettings`, `State.withVolumeClass`.
Key theorems: `Text.trim_eq_empty_iff`, `Gate.localVolumeSet_eq_ok_iff`,
`Gate.capacityAndNodes_eq_ok_iff`, `checkStep_withVolumeClass`.
-/

namespace StorageSetup

/-! ### Blank texts -/

namespace Text

theorem trimChars_eq_nil_iff {cs : List Char} : trimChars cs = [] ↔ cs.all isSpace = true := by
  have hends : trimChars cs = (cs.dropWhile isSpace).rdropWhile isSpace := rfl
  rw [hends, List.rdropWhile_eq_nil_iff, List.all_eq_true]
  constructor
  · intro hall
    rw [← List.dropWhile_eq_nil_iff]
    by_contra hne
    -- the first character that is left in front would be blank and not be blank
    have hfirst := List.head_dropWhile_not isSpace hne
    rw [hall _ (List.head_mem hne)] at hfirst
    cases hfirst
  · intro hall c hc
    exact hall c ((List.dropWhile_sublist isSpace).mem hc)

/-- **Trimming leaves nothing exactly for blank texts.** -/
theorem trim_eq_empty_iff {s : String} : trim s = "" ↔ isBlank s = true := by
  unfold trim isBlank
  rw [← trimChars_eq_nil_iff, ← String.toList_inj, String.toList_ofList]
  rfl

end Text

/-! ### Conditions in order -/

theorem bind_eq_ok_iff {ε α β : Type} {x : Except ε α} {f : α → Except ε β} {b : β} :
    (x >>= f) = .ok b ↔ ∃ a, x = .ok a ∧ f a = .ok b := by
  cases x <;> simp [bind, Except.bind]

theorem map_eq_ok_iff {ε α β : Type} {x : Except ε α} {f : α → β} {b : β} :
    x.map f = .ok b ↔ ∃ a, x = .ok a ∧ f a = b := by
  cases x <;> simp [Except.map]

theorem exists_ok_bind {ε α β : Type} {x : Except ε α} {f : α → Except ε β}
    (hx : ∃ a, x = .ok a) (hf : ∀ a, x = .ok a → ∃ b, f a = .ok b) : ∃ b, (x >>= f) = .ok b := by
  obtain ⟨a, ha⟩ := hx
  obtain ⟨b, hb⟩ := hf a ha
  exact ⟨b, bind_eq_ok_iff.mpr ⟨a, ha, hb⟩⟩

theorem ok_of_mapError {ε ε' α : Type} {x : Except ε α} {f : ε → ε'} {a : α}
    (h : x.mapError f = .ok a) : x = .ok a := by
  cases x with
  | error e => cases h
  | ok b => cases h; rfl

theorem require_eq_ok_iff {b : Bool} {reason : Refusal} : require b reason = .ok () ↔ b = true := by
  cases b <;> simp [require]

/-- A check after another is passed where both are. -/
theorem check_bind_eq_ok_iff {x y : Check} :
    (x >>= fun _ => y) = .ok () ↔ x = .ok () ∧ y = .ok () := by
  cases x <;> simp [bind, Except.bind]

theorem exists_of_isOk {ε α : Type} {x : Except ε α} (h : x.isOk = true) : ∃ a, x = .ok a := by
  cases x with
  | error e => cases h
  | ok a => exact ⟨a, rfl⟩

theorem isOk_iff {x : Check} : x.isOk = true ↔ x = .ok () := by
  cases x <;> simp [Except.isOk, Except.toBool]

/-- A check that is made in one case only. -/
theorem check_ite_eq_ok_iff {p : Prop} [Decidable p] {x : Check} :
    (if p then x else .ok ()) = .ok () ↔ (p → x = .ok ()) := by
  split_ifs with h <;> simp [h]

theorem checkBoth_eq_ok_iff {n : StepName} {s : State} {c : Context} {r : Registry} :
    checkBoth n s c r = .ok () ↔ checkStep n s r = .ok () ∧ checkCluster n s c r = .ok () :=
  check_bind_eq_ok_iff

/-! ### What an open gate says -/

namespace Gate

/-- The gate of the local volume set but for the number of nodes with matching disks. -/
def volumeSettings (s : State) : Check := do
  require (!Text.isBlank s.localVolumes.name) .noVolumeSetName
  require s.localVolumes.isValid .invalidDiskFilter

theorem volumeSettings_eq_ok_iff {s : State} : volumeSettings s = .ok () ↔
    Text.isBlank s.localVolumes.name = false ∧ s.localVolumes.isValid = true := by
  unfold volumeSettings
  rw [check_bind_eq_ok_iff, require_eq_ok_iff, require_eq_ok_iff, Bool.not_eq_true']

theorem localVolumeSet_eq_ok_iff {s : State} : localVolumeSet s = .ok () ↔
    volumeSettings s = .ok () ∧ minimumNodes ≤ s.localVolumes.chartNodes.size := by
  unfold localVolumeSet volumeSettings
  simp only [check_bind_eq_ok_iff, require_eq_ok_iff, decide_eq_true_eq, and_assoc]

theorem backingStorage_eq_ok_iff {s : State} {r : Registry} : backingStorage s r = .ok () ↔
    backingType s r = .ok () ∧ (s.backingStorage.useExternalPostgres = true →
      postgres s.backingStorage.postgres = .ok ()) := by
  unfold backingStorage
  rw [check_bind_eq_ok_iff, check_ite_eq_ok_iff]

theorem name_of_backingType {s : State} {r : Registry} (h : backingType s r = .ok ())
    (ht : s.backingStorage.type = .existing) : s.storageClass.name.isEmpty = false := by
  simpa only [backingType, ht, require_eq_ok_iff, Bool.not_eq_true'] using h

theorem vendor_of_backingType {s : State} {r : Registry} (h : backingType s r = .ok ())
    (ht : s.backingStorage.type = .external) :
    ∃ v, r.get? s.backingStorage.externalStorage = some v := by
  simp only [backingType, ht, check_bind_eq_ok_iff, require_eq_ok_iff] at h
  exact Option.isSome_iff_exists.mp h.1

theorem filledIn_eq_ok_iff : ∀ texts : List (String × String),
    filledIn texts = .ok () ↔ ∀ text ∈ texts, Text.isBlank text.2 = false
  | [] => by simp [filledIn]
  | (label, value) :: rest => by
    rw [filledIn, check_bind_eq_ok_iff, require_eq_ok_iff, filledIn_eq_ok_iff rest,
      List.forall_mem_cons, Bool.not_eq_true']

theorem postgres_eq_ok_iff {p : Postgres} : postgres p = .ok () ↔
    (∀ text ∈ postgresTexts p, Text.isBlank text.2 = false) ∧
      (p.usesClientCerts = true → clientKeys p.tls.keys = .ok ()) := by
  unfold postgres
  rw [check_bind_eq_ok_iff, filledIn_eq_ok_iff, check_ite_eq_ok_iff]

/-- Client certificates come with both key files. -/
theorem keys_of_postgres {p : Postgres} (h : postgres p = .ok ()) (hc : p.usesClientCerts = true) :
    ∃ key certificate, p.tls.keys.privateKey = some key ∧
      p.tls.keys.certificate = some certificate := by
  have hk := (postgres_eq_ok_iff.mp h).2 hc
  unfold clientKeys at hk
  split at hk
  · exact ⟨_, _, ‹_›, ‹_›⟩
  · cases hk

theorem capacityAndNodes_eq_ok_iff {s : State} : capacityAndNodes s = .ok () ↔
    minimumNodes ≤ s.nodes.length ∧
      (s.isMcg = false →
        (s.storageClass.isNoProvisioner = true ∨ s.capacity.capacity.isSome = true) ∧
        resources s = .ok ()) ∧
      (s.capacity.enableArbiter = true → arbiter s = .ok ()) := by
  unfold capacityAndNodes
  rw [check_bind_eq_ok_iff, require_eq_ok_iff, decide_eq_true_eq]
  cases hm : s.isMcg
  · rw [if_pos (by rfl), check_bind_eq_ok_iff, check_bind_eq_ok_iff, require_eq_ok_iff,
      Bool.or_eq_true, check_ite_eq_ok_iff]
    simp only [forall_const, and_assoc]
  · rw [if_neg (by decide), check_ite_eq_ok_iff]
    simp only [Bool.true_eq_false, false_implies, true_and]

theorem vendorForm_eq_ok_iff {s : State} {r : Registry} : vendorForm s r = .ok () ↔
    ∃ v, r.selected? s = some v ∧
      v.isComplete (s.formValues v.formStep) s.storageClass.name = true := by
  unfold vendorForm
  split
  · next h => simp [h]
  · next v h => simp [h, require_eq_ok_iff]

end Gate

/-! ### The class of the volume set -/

/-- The settings with the class that the volume set provides. -/
def State.withVolumeClass (s : State) : State :=
  { s with storageClass := ⟨s.localVolumes.name, noProvisioner⟩ }

/-- The settings have the class of their volume set already. -/
theorem State.eq_withVolumeClass_iff {s : State} : s = s.withVolumeClass ↔
    s.storageClass = ⟨s.localVolumes.name, noProvisioner⟩ := by
  constructor
  · intro h
    exact congrArg State.storageClass h
  · intro h
    unfold withVolumeClass
    rw [← h]

/-- The gates of a vendor's form are none of a flow inside the cluster. -/
theorem Flow.vendor_not_mem_internal (l : Bool) (d : Deployment) (b : Bool) :
    ∀ n ∈ (internal l d).visible b, n ≠ .createStorageClass ∧ n ≠ .connectionDetails := by
  cases l <;> cases d <;> cases b <;> decide

/-- **On local devices the class of the volume set closes no gate.** -/
theorem checkStep_withVolumeClass {n : StepName} {s : State} {r : Registry}
    (ht : s.backingStorage.type = .localDevices)
    (hn : n ≠ .createStorageClass ∧ n ≠ .connectionDetails) (h : checkStep n s r = .ok ()) :
    checkStep n s.withVolumeClass r = .ok () := by
  cases n with
  | backingStorage =>
    have hb : Gate.backingType s.withVolumeClass r = .ok () := by
      simp only [Gate.backingType, State.withVolumeClass, ht]
    exact Gate.backingStorage_eq_ok_iff.mpr ⟨hb, (Gate.backingStorage_eq_ok_iff.mp h).2⟩
  | capacityAndNodes =>
    obtain ⟨hnodes, hfull, harbiter⟩ := Gate.capacityAndNodes_eq_ok_iff.mp h
    have hclass : s.withVolumeClass.storageClass.isNoProvisioner = true :=
      beq_self_eq_true noProvisioner
    exact Gate.capacityAndNodes_eq_ok_iff.mpr
      ⟨hnodes, fun hm => ⟨.inl hclass, (hfull hm).2⟩, harbiter⟩
  | createStorageClass => exact absurd rfl hn.1
  | connectionDetails => exact absurd rfl hn.2
  | _ => exact h

theorem checkCluster_withVolumeClass (n : StepName) (s : State) (c : Context) (r : Registry) :
    checkCluster n s.withVolumeClass c r = checkCluster n s c r := by
  cases n <;> rfl

end StorageSetup
