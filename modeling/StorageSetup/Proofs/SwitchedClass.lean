import StorageSetup.Proofs.LeftOn
/-!
# The class after a change of the type

The rule for storage classes looks at the provisioner of the class and not at the type it was chosen
under. A change to local devices or external storage leaves the placeholder, unless the first step
has not been left and a class of the placeholder's provisioner has a name; a change to existing
storage takes away a class of that provisioner and no other. In a run of the screen such a class gets
a name only when a step is left, so local devices and external storage always start from the
placeholder, and existing storage never has the class of a volume set. A class that was named for a
vendor is what existing storage starts with.

Key definitions: `State.classOn`, `Registry.Provides`, `State.ClassInPlace`.
Key theorems: `State.storageClass_applyModeChange`, `State.ClassInPlace.reduce`,
`Screen.classInPlace_handle`, `Screen.classInPlace_after`, `class_after_switch`.
-/

namespace StorageSetup

theorem StorageClass.eq_placeholder_iff {c : StorageClass} :
    c = .placeholder ↔ c.isNoProvisioner = true ∧ c.name = "" := by
  obtain ⟨name, provisioner⟩ := c
  simp [placeholder, isNoProvisioner, and_comm]

/-! ### Changes of the mode -/

namespace State

variable {s t : State}

/-- The class that a change of the mode leaves, with the type as it is then. -/
def classOn (s : State) (type : BackingType) : StorageClass :=
  if type = .existing then
    if s.storageClass.isNoProvisioner then {} else s.storageClass
  else
    if s.storageClass.isNoProvisioner && !s.hasProgressed then s.storageClass else .placeholder

/-- Of the consistency rules only the one for the class writes it. -/
theorem storageClass_normalizers (s : State) :
    (normalizers.foldl (fun s rule => rule s) s).storageClass =
      s.normalizeStorageClass.storageClass := by
  have hgateway (t : State) : t.clearMcgIncompatible.storageClass = t.storageClass := by
    unfold clearMcgIncompatible
    split_ifs <;> rfl
  have hvendor : s.clearExternalStorage.normalizeStorageClass.storageClass =
      s.normalizeStorageClass.storageClass := by
    rw [storageClass_normalizeStorageClass, storageClass_normalizeStorageClass]
    unfold clearExternalStorage
    split_ifs <;> rfl
  exact (hgateway _).trans hvendor

/-- Only existing storage takes its class along when dependent settings are reset. -/
theorem storageClass_switchMode (s : State) (m : ModeChange) : (s.switchMode m).storageClass =
    if s.hasProgressed = true ∧ (s.setMode m).backingStorage.type ≠ .existing then {}
    else s.storageClass := by
  unfold switchMode
  by_cases hp : s.hasProgressed = true
  · rw [if_pos hp]
    cases m <;> dsimp only [setMode] <;> split_ifs <;> simp_all [initial]
  · rw [if_neg hp, if_neg fun h => hp h.1]
    cases m <;> rfl

/-- **The class after a change of the mode**, whichever mode was changed. -/
theorem storageClass_applyModeChange (s : State) (m : ModeChange) :
    (s.applyModeChange m).storageClass = s.classOn (s.setMode m).backingStorage.type := by
  unfold applyModeChange classOn
  rw [storageClass_normalizers, storageClass_normalizeStorageClass, type_switchMode,
    storageClass_switchMode]
  by_cases ht : (s.setMode m).backingStorage.type = .existing
  · simp only [ht, ne_eq, not_true_eq_false, and_false, if_true, if_false]
  · cases s.hasProgressed with
    | true =>
      simp only [ht, ne_eq, not_false_eq_true, and_self, if_true, if_false, Bool.not_true,
        Bool.and_false]
      rfl
    | false => simp [ht]

/-- Local devices and external storage are left a class other than the placeholder exactly where
the first step has not been left and a class of its provisioner has a name. -/
theorem classOn_eq_placeholder_iff {type : BackingType} (ht : type ≠ .existing) :
    s.classOn type = .placeholder ↔ ¬ (s.hasProgressed = false ∧
      s.storageClass.isNoProvisioner = true ∧ s.storageClass.name ≠ "") := by
  unfold classOn
  rw [if_neg ht]
  split_ifs with h
  · simp only [Bool.and_eq_true, Bool.not_eq_true'] at h
    rw [StorageClass.eq_placeholder_iff]
    simp [h.1, h.2]
  · simp only [Bool.and_eq_true, Bool.not_eq_true', not_and] at h
    exact iff_of_true rfl fun hs => h hs.2.1 hs.1

theorem classOn_eq_of_ne_placeholder {type : BackingType} (ht : type ≠ .existing)
    (h : s.classOn type ≠ .placeholder) : s.classOn type = s.storageClass := by
  unfold classOn at h ⊢
  rw [if_neg ht] at h ⊢
  split_ifs at h ⊢
  · rfl
  · exact absurd rfl h

/-- Existing storage is left no class exactly where the class is of the placeholder's provisioner,
or there was none. -/
theorem classOn_existing_eq_empty_iff : s.classOn .existing = {} ↔
    s.storageClass.isNoProvisioner = true ∨ s.storageClass = {} := by
  unfold classOn
  rw [if_pos rfl]
  split_ifs with h <;> simp [h]

theorem classOn_existing_of_provisioned (h : s.storageClass.isNoProvisioner = false) :
    s.classOn .existing = s.storageClass := by
  unfold classOn
  simp [h]

end State

/-! ### Classes between changes -/

/-- Some vendor provisions the class. -/
def Registry.Provides (r : Registry) (c : StorageClass) : Prop :=
  ∃ v ∈ r.vendors, v.provisioner = some c.provisioner

theorem Registry.BuiltIn.isNoProvisioner_of_provides {r : Registry} (hr : r.BuiltIn)
    {c : StorageClass} (h : r.Provides c) : c.isNoProvisioner = false := by
  obtain ⟨v, hv, hprovisioner⟩ := h
  rcases hr v hv with rfl | rfl
  · cases hprovisioner
  · unfold StorageClass.isNoProvisioner
    rw [← Option.some.inj hprovisioner]
    decide

theorem Registry.BuiltIn.ne_empty_of_provides {r : Registry} (hr : r.BuiltIn) {c : StorageClass}
    (h : r.Provides c) : c ≠ {} := by
  rintro rfl
  obtain ⟨v, hv, hprovisioner⟩ := h
  rcases hr v hv with rfl | rfl
  · cases hprovisioner
  · exact absurd (Option.some.inj hprovisioner) (by decide)

/-- What keys and inventories keep of the class. -/
structure State.ClassInPlace (r : Registry) (s : State) : Prop where
  onExisting : s.backingStorage.type = .existing → s.storageClass.isNoProvisioner = false
  onOther : s.backingStorage.type ≠ .existing → s.storageClass.isNoProvisioner = true ∨
    (s.backingStorage.type = .external ∧ r.Provides s.storageClass)
  unnamed : s.hasProgressed = false → s.storageClass.isNoProvisioner = true →
    s.storageClass.name = ""

/-- A class is chosen on existing storage, or named for a vendor on external storage. -/
def Action.ChoosesClass (r : Registry) (s : State) : Action → Prop
  | setStorageClass c =>
    (s.backingStorage.type = .existing ∧ c.isNoProvisioner = false) ∨
      (s.backingStorage.type = .external ∧ r.Provides c)
  | _ => True

/-- One action, which chooses a class as the first form does or none. -/
def State.ClassEdit (r : Registry) (s : State) (actions : List Action) : Prop :=
  ∃ a, actions = [a] ∧ a.ChoosesClass r s

namespace State

variable {r : Registry} {s t : State}

theorem classInPlace_initial : initial.ClassInPlace r where
  onExisting _ := by decide
  onOther h := absurd rfl h
  unnamed _ _ := rfl

theorem ClassInPlace.of_same (h : s.ClassInPlace r) (hb : Slice.backingStorage.Same s t)
    (hc : Slice.storageClass.Same s t) (hm : Slice.stepMark.Same s t) : t.ClassInPlace r := by
  have hb' : s.backingStorage = t.backingStorage := hb
  have hc' : s.storageClass = t.storageClass := hc
  have hm' : s.stepIdReached = t.stepIdReached := hm
  obtain ⟨h1, h2, h3⟩ := h
  refine ⟨?_, ?_, ?_⟩
  · rwa [← hb', ← hc']
  · rwa [← hb', ← hc']
  · unfold hasProgressed at h3 ⊢
    rwa [← hm', ← hc']

theorem hasProgressed_applyModeChange (s : State) (m : ModeChange) :
    (s.applyModeChange m).hasProgressed = s.hasProgressed := by
  unfold hasProgressed
  rw [stepIdReached_applyModeChange]

theorem ClassInPlace.applyModeChange (h : s.ClassInPlace r) (m : ModeChange) :
    (s.applyModeChange m).ClassInPlace r := by
  refine ⟨fun ht => ?_, fun ht => .inl ?_, fun hp hc => ?_⟩
  · rw [type_applyModeChange] at ht
    rw [storageClass_applyModeChange, ht]
    cases hn : s.storageClass.isNoProvisioner with
    | true =>
      rw [classOn_existing_eq_empty_iff.mpr (.inl hn)]
      decide
    | false => rwa [classOn_existing_of_provisioned hn]
  · rw [type_applyModeChange] at ht
    rw [storageClass_applyModeChange]
    unfold classOn
    rw [if_neg ht]
    split_ifs with hn
    · exact (Bool.and_eq_true_iff.mp hn).1
    · rfl
  · rw [hasProgressed_applyModeChange] at hp
    rw [storageClass_applyModeChange] at hc ⊢
    unfold classOn at hc ⊢
    split_ifs at hc ⊢ with ht hn hn
    · rfl
    · exact absurd hc hn
    · exact h.unnamed hp hc
    · rfl

theorem hasProgressed_mark (s : State) (id : UInt32) :
    (reduce s (.setStepIdReached id)).hasProgressed = (s.hasProgressed || decide (1 < id)) := by
  show decide (1 < if s.stepIdReached ≤ id then id else s.stepIdReached) =
    (decide (1 < s.stepIdReached) || decide (1 < id))
  rw [← Bool.decide_or]
  refine decide_eq_decide.mpr ?_
  simp only [UInt32.lt_iff_toNat_lt, UInt32.le_iff_toNat_le]
  split_ifs <;> omega

/-- **What the first form offers keeps the class in its place.** -/
theorem ClassInPlace.reduce (hr : r.BuiltIn) (h : s.ClassInPlace r) {a : Action}
    (ha : a.ChoosesClass r s) : (reduce s a).ClassInPlace r := by
  cases a with
  | setBackingType v => exact h.applyModeChange _
  | setDeployment v => exact h.applyModeChange _
  | setStorageClass c =>
    obtain ⟨ht, hc⟩ | ⟨ht, hc⟩ := ha
    · exact ⟨fun _ => hc, fun hne => absurd ht hne,
        fun _ hn => absurd (hc.symm.trans hn) Bool.false_ne_true⟩
    · have hn := hr.isNoProvisioner_of_provides hc
      exact ⟨fun _ => hn, fun _ => .inr ⟨ht, hc⟩,
        fun _ hn' => absurd (hn.symm.trans hn') Bool.false_ne_true⟩
  | setStepIdReached id =>
    refine ⟨h.onExisting, h.onOther, fun hp => h.unnamed ?_⟩
    rw [hasProgressed_mark] at hp
    exact (Bool.or_eq_false_iff.mp hp).1
  | _ => exact ⟨h.onExisting, h.onOther, h.unnamed⟩

/-- The class of a volume set is on local devices, behind the first step. -/
theorem classInPlace_withVolumeClass
    (ht : s.backingStorage.type = .localDevices) {id : UInt32} (hid : 1 < id) :
    (StorageSetup.reduce s.withVolumeClass (.setStepIdReached id)).ClassInPlace r where
  onExisting he := absurd (ht.symm.trans he) (by decide)
  onOther _ := .inl rfl
  unnamed hp := by
    rw [hasProgressed_mark] at hp
    exact absurd hid (decide_eq_false_iff_not.mp (Bool.or_eq_false_iff.mp hp).2)

end State

/-! ### Rows -/

namespace Form

theorem storageClassRows_classEdit {s : State} {r : Registry}
    (ht : s.backingStorage.type = .existing) (i : Inventory) :
    Offers (s.ClassEdit r) (storageClassRows s i) := by
  have hclasses : ∀ c ∈ i.usableStorageClasses,
      (StorageClass.mk c.name c.provisioner).isNoProvisioner = false := by
    intro c hc
    unfold Inventory.usableStorageClasses at hc
    have hprovisioner := (List.mem_filter.mp (List.mem_mergeSort.mp hc)).2
    simpa [StorageClass.isNoProvisioner] using hprovisioner
  unfold storageClassRows
  split
  · simp
  · rw [offers_map]
    intro c hc
    exact Row.offers_option.mpr ⟨_, rfl, .inl ⟨ht, hclasses c hc⟩⟩

theorem vendorChoiceRows_classEdit {s : State} {r : Registry} (he : s.isExternal = true) :
    Offers (s.ClassEdit r) (vendorChoiceRows s r) := by
  have ht : s.backingStorage.type = .external := beq_iff_eq.mp he
  unfold vendorChoiceRows
  split
  · next provisioner hp =>
    obtain ⟨v, hv, hp⟩ := Option.bind_eq_some_iff.mp hp
    unfold Registry.selected? at hv
    rw [if_pos he] at hv
    have hvendor : v ∈ r.vendors := List.mem_of_find?_eq_some hv
    have hprovides (name : String) : r.Provides ⟨name, provisioner⟩ := ⟨v, hvendor, hp⟩
    simp [State.ClassEdit, Action.ChoosesClass, ht, hprovides]
  · simp [State.ClassEdit, Action.ChoosesClass]

/-- **The first form offers a class on existing storage and the name of one for a vendor.** -/
theorem backingStorageRows_classEdit (w : Session) (i : Inventory) :
    Offers (w.state.ClassEdit w.registry) (backingStorageRows w i) := by
  have hpostgres : Offers (w.state.ClassEdit w.registry) (postgresRows w.state.backingStorage) := by
    simp [postgresRows, State.ClassEdit, Action.ChoosesClass]
  unfold backingStorageRows
  cases ht : w.state.backingStorage.type with
  | existing =>
    have hclasses := storageClassRows_classEdit (r := w.registry) ht i
    simp [ht, hclasses, hpostgres, State.ClassEdit, Action.ChoosesClass]
  | localDevices => simp [ht, hpostgres, State.ClassEdit, Action.ChoosesClass]
  | external =>
    have he : w.state.isExternal = true := by rw [State.isExternal, ht]; rfl
    have hvendors := vendorChoiceRows_classEdit (r := w.registry) he
    simp [ht, he, hvendors, State.ClassEdit, Action.ChoosesClass]

end Form

/-! ### One event -/

namespace Session

variable {w : Session}

theorem registry_dispatchAll : ∀ (actions : List Action) (w : Session),
    (w.dispatchAll actions).registry = w.registry
  | [], _ => rfl
  | a :: actions, w => registry_dispatchAll actions (w.dispatch a)

theorem registry_followDisks (w : Session) (i : Inventory) :
    (w.followDisks i).registry = w.registry := by
  unfold followDisks
  split_ifs <;> rfl

theorem registry_following (w : Session) (i : Option Inventory) :
    (w.following i).registry = w.registry := by
  cases i with
  | none => rfl
  | some i => exact w.registry_followDisks i

theorem classInPlace_followDisks {r : Registry} (h : w.state.ClassInPlace r) (i : Inventory) :
    (w.followDisks i).state.ClassInPlace r :=
  h.of_same (w.same_followDisks i (by decide)) (w.same_followDisks i (by decide))
    (w.same_followDisks i (by decide))

theorem classInPlace_following {r : Registry} (h : w.state.ClassInPlace r) (i : Option Inventory) :
    (w.following i).state.ClassInPlace r := by
  cases i with
  | none => exact h
  | some i => exact classInPlace_followDisks h i

/-- A volume set is left for a step behind the first one, so its class is named there. -/
theorem classInPlace_advance {r : Registry} (hr : r.BuiltIn) (hb : w.InBounds)
    (hlt : w.current + 1 < w.names.length) (h : w.state.ClassInPlace r) :
    w.advance.state.ClassInPlace r := by
  show (reduce w.leftState (.setStepIdReached _)).ClassInPlace r
  unfold leftState
  split_ifs with hv
  · refine State.classInPlace_withVolumeClass ((volumeSet_iff hb).mp hv).1 ?_
    rw [UInt32.lt_iff_toNat_lt, w.toNat_stepNumber hlt]
    exact Nat.succ_lt_succ (Nat.succ_pos _)
  · exact h.reduce hr trivial

end Session

namespace Screen

variable {s s' : Screen}

/-- The class and the mark of the steps are edited on the first form or not at all. -/
theorem not_mem_edits {n : StepName} (hn : n ≠ .backingStorage) :
    ∀ x ∈ [Slice.backingStorage, .storageClass, .stepMark], x ∉ n.edits := by
  cases n <;> first | exact absurd rfl hn | decide

theorem classInPlace_of_makes (hr : s.session.registry.BuiltIn) {row : Row} {actions : List Action}
    (hrow : row ∈ s.rows) (hmade : row.Makes actions)
    (h : s.session.state.ClassInPlace s.session.registry) :
    (reduceAll s.session.state actions).ClassInPlace s.session.registry := by
  by_cases hstep : s.step = .backingStorage
  · have hfirst : row ∈ Form.backingStorageRows s.session s.inventoryOrEmpty := by
      unfold rows at hrow
      rwa [hstep] at hrow
    obtain ⟨a, rfl, ha⟩ := Form.backingStorageRows_classEdit _ _ row hfirst actions hmade
    exact h.reduce hr ha
  · have hsame : ∀ x ∈ [Slice.backingStorage, .storageClass, .stepMark],
        x.Same s.session.state (reduceAll s.session.state actions) := fun x hx =>
      reduceAll_same actions _ ((edits_of_makes hrow hmade).not_writes (not_mem_edits hstep x hx))
    exact h.of_same (hsame _ (by decide)) (hsame _ (by decide)) (hsame _ (by decide))

/-- The vendors are the same and the class is in its place. -/
def KeepsClass (s s' : Screen) : Prop :=
  s'.session.registry = s.session.registry ∧
    (s.session.state.ClassInPlace s.session.registry →
      s'.session.state.ClassInPlace s'.session.registry)

theorem keepsClass_of_same (hregistry : s'.session.registry = s.session.registry)
    (hstate : s'.session.state = s.session.state) : s.KeepsClass s' := by
  unfold KeepsClass
  rw [hregistry, hstate]
  exact ⟨rfl, id⟩

theorem keepsClass_of_session (h : s'.session = s.session) : s.KeepsClass s' :=
  keepsClass_of_same (congrArg Session.registry h) (congrArg Session.state h)

theorem Handled.keepsClass (h : Handled s s') (hb : s.session.InBounds)
    (hr : s.session.registry.BuiltIn) : s.KeepsClass s' := by
  obtain ⟨hmoved, _, _⟩ := h
  cases hmoved with
  | stayed h _ => exact keepsClass_of_session h
  | @edited row actions hrow hmade h _ =>
    unfold KeepsClass
    rw [h, Session.registry_following, Session.registry_dispatchAll]
    refine ⟨rfl, fun hs => Session.classInPlace_following ?_ _⟩
    rw [Session.state_dispatchAll]
    exact classInPlace_of_makes hr hrow hmade hs
  | next h _ =>
    rcases Session.eq_of_next hb h with ⟨he, _⟩ | ⟨he, hlt, _⟩
    · exact keepsClass_of_session he
    · unfold KeepsClass
      rw [he]
      exact ⟨rfl, Session.classInPlace_advance hr hb hlt⟩
  | back h _ => exact keepsClass_of_same (by rw [h]; rfl) (by rw [h]; rfl)
  | jumped h _ =>
    have hw := (Session.eq_of_jumpTo h).2
    exact keepsClass_of_same (by rw [hw]) (by rw [hw])

/-- **An event keeps the class in its place.** -/
theorem keepsClass_handle (files : Files) (e : Event) (hb : s.session.InBounds)
    (hr : s.session.registry.BuiltIn) : s.KeepsClass (s.handle files e).1 := by
  cases e with
  | key k => exact (handled_press files k s).keepsClass hb hr
  | inventory result =>
    cases result with
    | ok i =>
      show s.KeepsClass (s.showInventory (.ok i))
      rw [showInventory_eq]
      unfold KeepsClass
      refine ⟨Session.registry_followDisks _ i, fun hs => ?_⟩
      show State.ClassInPlace (Session.registry (Session.followDisks _ i)) _
      rw [Session.registry_followDisks]
      exact Session.classInPlace_followDisks (w := s.session.setContext i.context) hs i
    | error message => exact keepsClass_of_session rfl
  | finished failure => cases failure <;> exact keepsClass_of_session rfl
  | _ => exact keepsClass_of_session rfl

/-! ### Runs -/

/-- **The class is in its place at all times.** -/
theorem classInPlace_after {r : Registry} (hr : r.BuiltIn) :
    ∀ (events : List (Files × Event)) {s : Screen}, s.Guarded → s.session.registry = r →
    s.session.state.ClassInPlace r → (s.after events).session.state.ClassInPlace r
  | [], _, _, _, hs => hs
  | e :: events, s, hg, hregistry, hs => by
    obtain ⟨hkept, hplace⟩ := keepsClass_handle e.1 e.2 hg.inBounds (hregistry ▸ hr)
    have hregistry' := hkept.trans hregistry
    refine classInPlace_after hr events (guarded_handle e.1 hg e.2) hregistry' ?_
    rw [hregistry] at hplace
    exact hregistry' ▸ hplace hs

end Screen

/-! ### Changes of the type -/

/-- **The class after a change of the type.** Local devices and external storage are left the
placeholder, but before the first step has been left a class of its provisioner with a name stays.
Existing storage is left no class where the class is of that provisioner or there is none, and
keeps any other class. In a run of the screen local devices and external storage are always left the
placeholder, no class of the placeholder's provisioner is there on existing storage, and a class that
a vendor provisions, which can only be there on external storage, is what a change to existing
storage keeps. -/
theorem class_after_switch {r : Registry} (hr : r.BuiltIn) :
    (∀ (s : State) (k : BackingType), k ≠ .existing →
      let c := (reduce s (.setBackingType k)).storageClass
      (c = .placeholder ↔ ¬ (s.hasProgressed = false ∧ s.storageClass.isNoProvisioner = true ∧
        s.storageClass.name ≠ "")) ∧ (c ≠ .placeholder → c = s.storageClass)) ∧
    (∀ s : State,
      let c := (reduce s (.setBackingType .existing)).storageClass
      (c = {} ↔ s.storageClass.isNoProvisioner = true ∨ s.storageClass = {}) ∧
        (c ≠ {} → c = s.storageClass)) ∧
    ∀ (config : Config) (events : List (Files × Screen.Event)),
      let s := ((Screen.new config r).after events).session.state
      (s.backingStorage.type = .existing → s.storageClass.isNoProvisioner = false) ∧
      (∀ k ≠ .existing, (reduce s (.setBackingType k)).storageClass = .placeholder) ∧
      (s.backingStorage.type ≠ .existing →
        let c := (reduce s (.setBackingType .existing)).storageClass
        (c = {} ↔ ¬ r.Provides s.storageClass) ∧
          (r.Provides s.storageClass → s.backingStorage.type = .external ∧ c = s.storageClass)) := by
  have hclass (s : State) (k : BackingType) :
      (reduce s (.setBackingType k)).storageClass = s.classOn k :=
    s.storageClass_applyModeChange (.backingType k)
  refine ⟨fun s k hk => ?_, fun s => ?_, fun config events => ?_⟩
  · rw [hclass]
    exact ⟨State.classOn_eq_placeholder_iff hk, State.classOn_eq_of_ne_placeholder hk⟩
  · rw [hclass]
    refine ⟨State.classOn_existing_eq_empty_iff, fun hne => ?_⟩
    have hn := mt (fun hn => State.classOn_existing_eq_empty_iff.mpr (.inl hn)) hne
    exact State.classOn_existing_of_provisioned (Bool.eq_false_iff.mpr hn)
  · intro s
    have hs : s.ClassInPlace r := Screen.classInPlace_after hr events
      (Screen.guarded_new config r) rfl State.classInPlace_initial
    refine ⟨hs.onExisting, fun k hk => ?_, fun ht => ?_⟩
    · rw [hclass]
      exact (State.classOn_eq_placeholder_iff hk).mpr fun h => h.2.2 (hs.unnamed h.1 h.2.1)
    · rw [hclass]
      rcases hs.onOther ht with hn | ⟨he, hp⟩
      · have hnone : ¬ r.Provides s.storageClass := fun hp =>
          absurd (hn.symm.trans (hr.isNoProvisioner_of_provides hp)) (by decide)
        exact ⟨iff_of_true (State.classOn_existing_eq_empty_iff.mpr (.inl hn)) hnone,
          fun hp => absurd hp hnone⟩
      · have hn := hr.isNoProvisioner_of_provides hp
        have hkept := State.classOn_existing_of_provisioned hn
        refine ⟨iff_of_false ?_ (not_not_intro hp), fun _ => ⟨he, hkept⟩⟩
        rw [hkept]
        exact hr.ne_empty_of_provides hp

/-- The keys that turn the storage external, choose a vendor and name its class. -/
def keysToVendorClass : List Key :=
  [.enter, .enter, .down, .down, .enter, .down, .enter, .char 'f', .enter]

def eventsToVendorClass : List (Files × Screen.Event) :=
  keysToVendorClass.map fun k => (Screen.noFiles, .key k)

/-- A class that was named for a vendor is kept when the storage turns to existing classes. -/
theorem class_after_switch_vendor : Registry.builtins.BuiltIn ∧
    let s := ((Screen.new {} .builtins).after eventsToVendorClass).session.state
    s.backingStorage.type = .external ∧
      (reduce s (.setBackingType .existing)).storageClass = ⟨"f", "block.csi.ibm.com"⟩ := by
  refine ⟨Registry.builtIn_builtins, ?_⟩
  intro s
  have hclass : s.storageClass = ⟨"f", "block.csi.ibm.com"⟩ := by decide +kernel
  have ht : s.backingStorage.type = .external := by decide +kernel
  have hvendor : Registry.builtins.Provides s.storageClass := by
    rw [hclass]
    exact ⟨.flashSystem, by simp [Registry.builtins, Registry.register], rfl⟩
  obtain ⟨_, _, hrun⟩ := class_after_switch Registry.builtIn_builtins
  obtain ⟨_, _, hexisting⟩ := hrun {} eventsToVendorClass
  refine ⟨ht, ?_⟩
  rw [← hclass]
  exact ((hexisting (by rw [ht]; decide)).2 hvendor).2

/-- The class of a vendor stays when the storage turns to existing classes. -/
theorem not_class_after_switch : ¬ ∀ (s : State) (k : BackingType),
    (k ≠ .existing → (reduce s (.setBackingType k)).storageClass = .placeholder) ∧
    (k = .existing → s.backingStorage.type ≠ .existing →
      (reduce s (.setBackingType k)).storageClass = {}) := by
  intro hall
  let vendorClass : StorageClass := ⟨"f", "block.csi.ibm.com"⟩
  have h := (hall (reduceAll .initial [.setBackingType .external, .setStorageClass vendorClass])
    .existing).2 rfl (by decide)
  exact absurd h (by decide)

end StorageSetup
