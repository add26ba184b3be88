import StorageSetup.Proofs.Consistency
/-!
# The marks of encryption and key management

Encryption and key management carry a mark each that says whether their settings are in order. The
marks are stored beside the settings, and two kinds of changes write them: a change of the
encryption asks for the service only where external keys are on, a change of the service always
does. The rows of the service are there only where external keys are on, so both write the same, and
the gate of the security step closes for the one reason that the details of the service are
wanting.

Key definitions: `Security.MarksExact`, `State.KeepsMarks`.
Key theorems: `Form.securityRows_keepsMarks`, `Screen.keptByForms_marksExact`,
`Screen.marks_exact_after`.
-/

namespace StorageSetup

/-- The marks say what they are for: the encryption is in order, the service is where it is complete
or not asked for. -/
structure Security.MarksExact (x : Security) : Prop where
  encryption : x.encryption.hasHandled = true
  kms : x.kms.hasHandled = (!x.encryption.advanced || x.kms.isComplete)

theorem Security.MarksExact.of_eq {x y : Security} (h : x.MarksExact)
    (he : x.encryption = y.encryption) (hk : x.kms = y.kms) : y.MarksExact where
  encryption := he ▸ h.encryption
  kms := by
    rw [← he, ← hk]
    exact h.kms

/-- The actions leave exact marks. -/
def State.KeepsMarks (s : State) (actions : List Action) : Prop :=
  (reduceAll s actions).security.MarksExact

/-! ### Changes of the settings -/

namespace State

variable {s : State}

theorem keepsMarks_withEncryption (change : Encryption → Encryption) :
    s.KeepsMarks (Form.withEncryption s.security change) :=
  ⟨rfl, rfl⟩

/-- A change of the service marks it rightly where external keys are on. -/
theorem keepsMarks_withKms (h : s.security.MarksExact)
    (ha : s.security.encryption.advanced = true) (k : Kms) (change : Kms → Kms) :
    s.KeepsMarks (Form.withKms k change) where
  encryption := h.encryption
  kms := by
    show (change k).isComplete = (!s.security.encryption.advanced || (change k).isComplete)
    rw [ha, Bool.not_true, Bool.false_or]

/-- A mode change keeps both settings with their marks or starts them anew. -/
theorem marksExact_applyModeChange (h : s.security.MarksExact) (m : ModeChange) :
    (s.applyModeChange m).security.MarksExact := by
  have hswitched : (s.switchMode m).security.MarksExact := by
    unfold switchMode
    cases m <;> dsimp only [setMode] <;> split_ifs <;> first | exact h | exact ⟨rfl, rfl⟩
  have hvendor (t : State) : t.clearExternalStorage.security = t.security := by
    unfold clearExternalStorage
    split_ifs <;> rfl
  have hclass (t : State) : t.normalizeStorageClass.security = t.security := by
    unfold normalizeStorageClass
    split <;> split_ifs <;> rfl
  have hgateway (t : State) (ht : t.security.MarksExact) :
      t.clearMcgIncompatible.security.MarksExact := by
    unfold clearMcgIncompatible
    split_ifs
    · exact ⟨ht.encryption, ht.kms⟩
    · exact ht
  refine hgateway _ ?_
  rwa [hclass, hvendor]

end State

/-! ### Forms -/

/-- An action of the first form: it changes a mode, or writes the backing storage or the class. -/
def Action.OnFirstForm : Action → Prop
  | setBackingType _ | setDeployment _ => True
  | a => a.writes ⊆ [.backingStorage, .storageClass]

/-- One action of the first form. -/
def FirstFormEdit (actions : List Action) : Prop :=
  ∃ a, actions = [a] ∧ a.OnFirstForm

theorem Security.MarksExact.onFirstForm {s : State} (h : s.security.MarksExact) {a : Action}
    (ha : a.OnFirstForm) : (reduce s a).security.MarksExact := by
  cases a with
  | setBackingType v => exact State.marksExact_applyModeChange h _
  | setDeployment v => exact State.marksExact_applyModeChange h _
  | _ =>
    first
    | exact h
    | exact absurd (ha List.mem_cons_self) (by decide)

namespace Form

theorem backingStorageRows_firstFormEdit (w : Session) (i : Inventory) :
    Offers FirstFormEdit (backingStorageRows w i) := by
  have hpostgres : Offers FirstFormEdit (postgresRows w.state.backingStorage) := by
    simp [postgresRows, FirstFormEdit, Action.OnFirstForm, Action.writes]
  have hclasses : Offers FirstFormEdit (storageClassRows w.state i) := by
    unfold storageClassRows
    split <;> simp [FirstFormEdit, Action.OnFirstForm, Action.writes]
  have hvendors : Offers FirstFormEdit (vendorChoiceRows w.state w.registry) := by
    unfold vendorChoiceRows
    split <;> simp [FirstFormEdit, Action.OnFirstForm, Action.writes]
  unfold backingStorageRows
  cases ht : w.state.backingStorage.type <;>
    simp [ht, hpostgres, hclasses, hvendors, FirstFormEdit, Action.OnFirstForm, Action.writes]

variable {s : State}

/-- The rows of the service change the service alone, through its own change. -/
theorem kmsRows_keepsMarks (h : s.security.MarksExact)
    (ha : s.security.encryption.advanced = true) (k : Kms) :
    Offers s.KeepsMarks (kmsRows k) := by
  have hkms := State.keepsMarks_withKms h ha
  have hvault : Offers s.KeepsMarks (vaultRows k) := by
    unfold vaultRows
    cases hauth : k.vault.auth <;> simp [hauth, kmsText, kmsSecret, hkms]
  have hkmip : Offers s.KeepsMarks (kmipRows k) := by
    simp [kmipRows, kmsText, kmsSecret, hkms]
  unfold kmsRows
  cases hprovider : k.provider <;> simp [hkms, hvault, hkmip]

theorem networkRows_keepsMarks (h : s.security.MarksExact) :
    Offers s.KeepsMarks (networkRows s.security) := by
  have htype (v : NetworkType) : s.KeepsMarks [.setNetworkType v] := h.of_eq rfl rfl
  have hpublic (v : Option String) : s.KeepsMarks [.setPublicNetwork v] := h.of_eq rfl rfl
  have hcluster (v : Option String) : s.KeepsMarks [.setClusterNetwork v] := h.of_eq rfl rfl
  unfold networkRows
  cases s.security.networkType <;> simp [htype, hpublic, hcluster]

/-- **Whatever is entered on a security form, the marks stay exact.** -/
theorem securityRows_keepsMarks (h : s.security.MarksExact) (withNetworks : Bool) :
    Offers s.KeepsMarks (securityRows s withNetworks) := by
  have hencryption := State.keepsMarks_withEncryption (s := s)
  have hkms (ha : s.security.encryption.advanced = true) :=
    kmsRows_keepsMarks h ha s.security.kms
  have hnetworks := networkRows_keepsMarks h
  unfold securityRows
  simp +contextual [hencryption, hkms, hnetworks]

end Form

/-! ### All events -/

namespace Screen

theorem marksExact_of_makes {s : Screen} {row : Row} {actions : List Action} (hrow : row ∈ s.rows)
    (hmade : row.Makes actions) (h : s.session.state.security.MarksExact) :
    (reduceAll s.session.state actions).security.MarksExact := by
  have hother (hedits : .security ∉ s.step.edits) :
      (reduceAll s.session.state actions).security.MarksExact := by
    have hsame := reduceAll_same (x := .security) actions s.session.state
      ((edits_of_makes hrow hmade).not_writes hedits)
    rwa [← show s.session.state.security = _ from hsame]
  cases hs : s.step with
  | backingStorage =>
    unfold rows at hrow
    rw [hs] at hrow
    obtain ⟨a, rfl, ha⟩ := Form.backingStorageRows_firstFormEdit _ _ row hrow actions hmade
    exact h.onFirstForm ha
  | security =>
    unfold rows at hrow
    rw [hs] at hrow
    exact Form.securityRows_keepsMarks h false row hrow actions hmade
  | securityAndNetwork =>
    unfold rows at hrow
    rw [hs] at hrow
    exact Form.securityRows_keepsMarks h true row hrow actions hmade
  | _ => exact hother (by rw [hs]; decide)

/-- **The forms keep the marks exact.** -/
theorem keptByForms_marksExact : KeptByForms .security fun s => s.security.MarksExact where
  onForms := by decide
  of_same hsame h := by rwa [← show _ = State.security _ from hsame]
  of_makes := marksExact_of_makes

/-- **The mark of key management is exact.** Whatever happens, the encryption is marked as in order,
and the service is where external keys are off or all its needed texts are filled in. So the gate of
the security step is open in just these two cases. -/
theorem marks_exact_after (config : Config) (r : Registry) (events : List (Files × Event)) :
    let s := ((Screen.new config r).after events).session.state
    let e := s.security.encryption
    let k := s.security.kms
    e.hasHandled = true ∧
    (k.hasHandled = true ↔ e.advanced = false ∨ k.isComplete = true) ∧
    (checkStep .security s ((Screen.new config r).after events).session.registry = .ok () ↔
      e.advanced = false ∨ k.isComplete = true) := by
  intro s e k
  have h : s.security.MarksExact :=
    keptByForms_marksExact.after events (guarded_new config r) ⟨rfl, rfl⟩
  have hkms : k.hasHandled = true ↔ e.advanced = false ∨ k.isComplete = true := by
    rw [h.kms, Bool.or_eq_true, Bool.not_eq_true']
  refine ⟨h.encryption, hkms, ?_⟩
  show Gate.security s = .ok () ↔ _
  unfold Gate.security
  simp only [check_bind_eq_ok_iff, require_eq_ok_iff, Bool.or_eq_true, Bool.not_eq_true']
  exact ⟨fun hgate => hgate.2.2, fun hcases => ⟨h.encryption, hkms.mpr hcases, hcases⟩⟩

end Screen

end StorageSetup
