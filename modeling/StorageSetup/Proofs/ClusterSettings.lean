import StorageSetup.Proofs.Normalization
import StorageSetup.Proofs.Rows
/-!
# Settings of a whole cluster under the object gateway alone

The object gateway alone has no file service, no default class, no arbiter, no taint, no networks
and no encryption in transit. The rule that switches these settings off follows a change of the mode
and nothing else, so between two changes it is left to the forms not to switch them on. Each setting
has one row that does, and most of these rows are hidden under the object gateway alone.

Key definitions: `ClusterSetting`, `ClusterSetting.OffWhile`, `ClusterSetting.offeredOn`.
Key theorems: `State.clearMcgIncompatible_eq_iff`, `ClusterSetting.OffWhile.reduce`,
`Form.rows_spare`.
-/

namespace StorageSetup

/-- A setting that the object gateway alone does not have. -/
inductive ClusterSetting where
  | fileService
  | defaultClass
  | arbiter
  | taint
  | networks
  | inTransit
  deriving DecidableEq, Repr

namespace ClusterSetting

/-- The setting is as the rule for the object gateway leaves it. -/
def off : ClusterSetting → State → Prop
  | fileService, s => s.backingStorage.enableNfs = false
  | defaultClass, s => s.backingStorage.rbdClassIsDefault = false
  | arbiter, s => s.capacity.enableArbiter = false ∧ s.capacity.arbiterLocation = ""
  | taint, s => s.capacity.enableTaint = false
  | networks, s => s.security.networkType = .pods ∧ s.security.publicNetwork = none ∧
      s.security.clusterNetwork = none
  | inTransit, s => s.security.encryption.inTransit = false

/-- The slice that holds the setting. -/
def slice : ClusterSetting → Slice
  | fileService | defaultClass => .backingStorage
  | arbiter | taint => .capacity
  | networks | inTransit => .security

/-- The row that switches the setting on. -/
def label : ClusterSetting → String
  | fileService => "Network file system"
  | defaultClass => "Default RBD storage class"
  | arbiter => "Stretch cluster with arbiter"
  | taint => "Taint nodes"
  | networks => "Network"
  | inTransit => "In-transit encryption"

/-- The form of the step has the row, under the object gateway alone too. -/
def offeredOn : ClusterSetting → StepName → Bool
  | taint, .capacityAndNodes => true
  | inTransit, .security | inTransit, .securityAndNetwork => true
  | networks, .securityAndNetwork => true
  | _, _ => false

theorem off_initial (x : ClusterSetting) : x.off State.initial := by
  cases x <;> simp [off, State.initial]

theorem off_congr (x : ClusterSetting) {s t : State} (h : x.slice.Same s t) :
    x.off s ↔ x.off t := by
  cases x <;> simp only [off, show _ = _ from h]

/-- The rule for the object gateway switches every setting off. -/
theorem off_clearMcgIncompatible (x : ClusterSetting) {s : State} (hm : s.isMcg = true) :
    x.off s.clearMcgIncompatible := by
  unfold State.clearMcgIncompatible
  rw [if_pos (beq_iff_eq.mp hm)]
  cases x <;> simp [off]

end ClusterSetting

namespace State

variable {s : State}

/-! ### Where the rules change nothing -/

theorem clearMcgIncompatible_eq_iff : s.clearMcgIncompatible = s ↔
    (s.isMcg = true → ∀ x : ClusterSetting, x.off s) := by
  constructor
  · intro h hm x
    rw [← h]
    exact x.off_clearMcgIncompatible hm
  · intro h
    unfold clearMcgIncompatible
    split_ifs with hm
    · have hall := h (beq_iff_eq.mpr hm)
      have hservices := And.intro (hall .fileService) (hall .defaultClass)
      have hcapacity := And.intro (hall .arbiter) (hall .taint)
      have hsecurity := And.intro (hall .networks) (hall .inTransit)
      clear hall
      obtain ⟨_, _, _, ⟨⟩, ⟨⟩, _, _, _, ⟨⟨⟩⟩, _⟩ := s
      simp_all [ClusterSetting.off]
    · rfl

end State

/-! ### Actions -/

/-- The settings that an action switches on, or may switch on. -/
def Action.sets : Action → List ClusterSetting
  | enableNfs _ => [.fileService]
  | setRbdClassDefault _ => [.defaultClass]
  | enableArbiter _ => [.arbiter]
  | setArbiterLocation _ => [.arbiter]
  | enableTaint _ => [.taint]
  | setNetworkType _ => [.networks]
  | setPublicNetwork _ => [.networks]
  | setClusterNetwork _ => [.networks]
  | setEncryption v => if v.inTransit then [.inTransit] else []
  | _ => []

theorem Action.mem_sets_setEncryption_iff {x : ClusterSetting} {v : Encryption} :
    x ∈ (setEncryption v).sets ↔ x = .inTransit ∧ v.inTransit = true := by
  cases h : v.inTransit <;> simp [sets, h]

/-- An action that switches a setting on writes the slice of the setting. -/
theorem Action.slice_mem_writes {x : ClusterSetting} {a : Action} (h : x ∈ a.sets) :
    x.slice ∈ a.writes := by
  cases a with
  | setEncryption v =>
    obtain ⟨rfl, _⟩ := mem_sets_setEncryption_iff.mp h
    exact List.mem_singleton.mpr rfl
  | _ =>
    first
    | obtain rfl := List.mem_singleton.mp h
      exact List.mem_singleton.mpr rfl
    | cases h

/-- No action switches the setting on. -/
def ClusterSetting.Spared (x : ClusterSetting) (actions : List Action) : Prop :=
  ∀ a ∈ actions, x ∉ a.sets

namespace ClusterSetting

variable {x : ClusterSetting} {p : BackingType → Prop} {s t : State}

/-- The setting is off where there is the object gateway alone, on backing storage as given. -/
def OffWhile (x : ClusterSetting) (p : BackingType → Prop) (s : State) : Prop :=
  s.isMcg = true → p s.backingStorage.type → x.off s

theorem OffWhile.of_same (h : x.OffWhile p s) (hb : Slice.backingStorage.Same s t)
    (hx : x.slice.Same s t) : x.OffWhile p t := by
  intro hm hp
  rw [State.isMcg, ← show s.backingStorage = _ from hb] at hm
  rw [← show s.backingStorage = _ from hb] at hp
  exact (x.off_congr hx).mp (h hm hp)

/-- A mode change ends with the rule. -/
theorem offWhile_applyModeChange (x : ClusterSetting) (s : State) (m : ModeChange) :
    x.OffWhile p (s.applyModeChange m) := by
  intro hm _
  have hrule : (s.applyModeChange m).clearMcgIncompatible = s.applyModeChange m :=
    State.rule_applyModeChange (by simp [State.normalizers]) s m
  exact State.clearMcgIncompatible_eq_iff.mp hrule hm x

/-- An action that does not switch the setting on keeps it off. -/
theorem OffWhile.reduce (h : x.OffWhile p s) {a : Action} (ha : x ∉ a.sets) :
    x.OffWhile p (reduce s a) := by
  cases a with
  | setBackingType v => exact x.offWhile_applyModeChange s _
  | setDeployment v => exact x.offWhile_applyModeChange s _
  | setEncryption v =>
    intro hm hp
    have hoff := h hm hp
    cases x with
    | inTransit =>
      exact Bool.eq_false_iff.mpr fun hon => ha (Action.mem_sets_setEncryption_iff.mpr ⟨rfl, hon⟩)
    | _ => exact hoff
  | _ =>
    intro hm hp
    have hoff := h hm hp
    cases x <;> first | exact hoff | exact absurd List.mem_cons_self ha

theorem OffWhile.reduceAll : ∀ (actions : List Action) {s : State}, x.OffWhile p s →
    x.Spared actions → x.OffWhile p (reduceAll s actions)
  | [], _, h, _ => h
  | a :: actions, _, h, ha =>
    OffWhile.reduceAll actions (h.reduce (ha a List.mem_cons_self))
      fun b hb => ha b (List.mem_cons_of_mem _ hb)

/-- No action leads from other modes to the given ones with the setting on. -/
theorem offWhile_reduce_of_not (h : ¬(s.isMcg = true ∧ p s.backingStorage.type)) (a : Action) :
    x.OffWhile p (StorageSetup.reduce s a) := by
  cases a with
  | setBackingType v => exact x.offWhile_applyModeChange s _
  | setDeployment v => exact x.offWhile_applyModeChange s _
  | _ => exact fun hm hp => absurd ⟨hm, hp⟩ h

end ClusterSetting

/-! ### Forms -/

namespace Form

open ClusterSetting

variable {x : ClusterSetting} {s : State}

/-- What writes other slices only spares the setting. -/
theorem spared_of_writeWithin {slices : List Slice} (hx : x.slice ∉ slices) {actions : List Action}
    (h : WriteWithin slices actions) : x.Spared actions :=
  fun a ha hset => hx (h a ha (Action.slice_mem_writes hset))

theorem postgresRows_spare (b : BackingStorage) : Offers x.Spared (postgresRows b) := by
  simp [postgresRows, Spared, Action.sets]

theorem storageClassRows_spare (s : State) (i : Inventory) :
    Offers x.Spared (storageClassRows s i) := by
  unfold storageClassRows
  split <;> simp [Spared, Action.sets]

theorem vendorChoiceRows_spare (s : State) (r : Registry) :
    Offers x.Spared (vendorChoiceRows s r) := by
  unfold vendorChoiceRows
  split <;> simp [Spared, Action.sets]

/-- The first form has no rows for services of the cluster. -/
theorem backingStorageRows_spare (w : Session) (i : Inventory) (hm : w.state.isMcg = true) :
    Offers x.Spared (backingStorageRows w i) := by
  have h1 := storageClassRows_spare (x := x) w.state i
  have h2 := vendorChoiceRows_spare (x := x) w.state w.registry
  have h3 := postgresRows_spare (x := x) w.state.backingStorage
  unfold backingStorageRows
  cases ht : w.state.backingStorage.type <;>
    simp [ht, hm, h1, h2, h3, Spared, Action.sets]

theorem capacityRows_spare (i : Inventory) (hm : s.isMcg = true) : ∀ row ∈ capacityRows s i,
    row.Offers x.Spared ∨ (x = .taint ∧ row.label = taint.label) := by
  have hnodes : Offers x.Spared ((candidateNodes s i).map fun n =>
      Row.option "Node" (s.nodes.any (·.name == n.name)) (nodeSummary n)
        (.setNodes (toggledNodes s.nodes n i))) := by
    simp [Spared, Action.sets]
  intro row hrow
  unfold capacityRows at hrow
  rw [if_pos hm, List.nil_append, List.mem_append, List.mem_append, List.mem_singleton,
    List.mem_singleton] at hrow
  rcases hrow with (rfl | hnode) | rfl
  · by_cases hx : x = .taint
    · exact .inr ⟨hx, rfl⟩
    · exact .inl (by simp [Spared, Action.sets, hx])
  · exact .inl (hnodes row hnode)
  · exact .inl Row.offers_info

/-- A change of the encryption that leaves the encryption in transit off spares it. -/
theorem spared_withEncryption (change : Encryption → Encryption)
    (h : x = .inTransit → (change s.security.encryption).inTransit = false) :
    x.Spared (withEncryption s.security change) := by
  intro a ha
  rcases List.mem_cons.mp ha with rfl | ha
  · intro hx
    obtain ⟨hx, hon⟩ := Action.mem_sets_setEncryption_iff.mp hx
    exact Bool.false_ne_true ((h hx).symm.trans hon)
  · obtain rfl := List.mem_singleton.mp ha
    exact List.not_mem_nil

theorem networkRows_spare (hx : x.off s) : ∀ row ∈ networkRows s.security,
    row.Offers x.Spared ∨ (x = .networks ∧ row.label = networks.label) := by
  intro row hrow
  by_cases hn : x = .networks
  · subst hn
    unfold networkRows at hrow
    rw [hx.1, List.mem_singleton] at hrow
    exact .inr ⟨rfl, hrow ▸ rfl⟩
  · have hall : Offers x.Spared (networkRows s.security) := by
      unfold networkRows
      cases s.security.networkType <;> simp [Spared, Action.sets, hn]
    exact .inl (hall row hrow)

theorem securityRows_spare (withNetworks : Bool) (hm : s.isMcg = true) (hx : x.off s) :
    ∀ row ∈ securityRows s withNetworks, row.Offers x.Spared ∨
      (x = .inTransit ∧ row.label = inTransit.label) ∨
      (withNetworks = true ∧ x = .networks ∧ row.label = networks.label) := by
  have hoff : x = .inTransit → s.security.encryption.inTransit = false := by
    rintro rfl
    exact hx
  intro row hrow
  unfold securityRows at hrow
  simp only [hm, Bool.true_or, if_true, List.append_nil, List.mem_append, List.mem_cons,
    List.not_mem_nil, or_false] at hrow
  rcases hrow with (rfl | rfl | rfl) | hnetworks
  · exact .inl (Row.offers_choice.mpr (spared_withEncryption _ hoff))
  · exact .inl (Row.offers_choice.mpr (spared_withEncryption _ hoff))
  · by_cases hx : x = .inTransit
    · exact .inr (.inl ⟨hx, rfl⟩)
    · exact .inl (Row.offers_choice.mpr (spared_withEncryption _ fun h => absurd h hx))
  · split_ifs at hnetworks with hw
    · exact (networkRows_spare hx row hnetworks).imp_right fun h => .inr ⟨hw, h⟩
    · cases hnetworks

/-- **Under the object gateway alone a form keeps a setting off, but for its row on the forms that
have it.** -/
theorem rows_spare (n : StepName) (w : Session) (i : Inventory) (hm : w.state.isMcg = true)
    (hx : x.off w.state) : ∀ row ∈ rows n w i,
      row.Offers x.Spared ∨ (x.offeredOn n = true ∧ row.label = x.label) := by
  have hwithin (hedits : x.slice ∉ n.edits) : ∀ row ∈ rows n w i,
      row.Offers x.Spared ∨ (x.offeredOn n = true ∧ row.label = x.label) :=
    fun row hrow => .inl fun actions hmade =>
      spared_of_writeWithin hedits (rows_within n w i row hrow actions hmade)
  intro row hrow
  cases n with
  | backingStorage => exact .inl (backingStorageRows_spare w i hm row hrow)
  | capacityAndNodes =>
    refine (capacityRows_spare i hm row hrow).imp_right ?_
    rintro ⟨rfl, hlabel⟩
    exact ⟨rfl, hlabel⟩
  | security =>
    refine (securityRows_spare false hm hx row hrow).imp_right ?_
    rintro (⟨rfl, hlabel⟩ | ⟨h, _⟩)
    · exact ⟨rfl, hlabel⟩
    · cases h
  | securityAndNetwork =>
    refine (securityRows_spare true hm hx row hrow).imp_right ?_
    rintro (⟨rfl, hlabel⟩ | ⟨_, rfl, hlabel⟩)
    · exact ⟨rfl, hlabel⟩
    · exact ⟨rfl, hlabel⟩
  | _ => exact hwithin (by cases x <;> decide) row hrow

end Form

end StorageSetup
