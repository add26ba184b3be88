import StorageSetup.Form.Rows
import StorageSetup.Proofs.Slice
/-!
# What the rows of a form write

A row offers actions, at once or made from an entered text. Whatever is entered, the actions of a
row write slices that the step of the form edits, so a form reaches no further than its step. What
holds of all that a row can make is told from the kind of the row.

Key definitions: `Row.Makes`, `Row.Offers`, `Row.Within`.
Key theorems: `Form.rows_within`.
-/

namespace StorageSetup

/-- The row makes the actions when it is used, for some files and some text. -/
def Row.Makes (row : Row) (actions : List Action) : Prop :=
  match row.edit with
  | .readOnly => False
  | .activate made => made = actions
  | .text _ _ apply => ∃ files text, apply files text = some actions

/-- All that the row can make is as the predicate says. -/
def Row.Offers (p : List Action → Prop) (row : Row) : Prop :=
  ∀ actions, row.Makes actions → p actions

/-- The actions write the slices and no others. -/
def WriteWithin (slices : List Slice) (actions : List Action) : Prop :=
  ∀ a ∈ actions, a.writes ⊆ slices

/-- All that the row can make writes the slices and no others. -/
def Row.Within (slices : List Slice) (row : Row) : Prop :=
  ∀ actions, row.Makes actions → ∀ a ∈ actions, a.writes ⊆ slices

namespace Row

variable {p : List Action → Prop} {label display value text : String} {on : Bool} {action : Action}
  {actions : List Action}

@[simp] theorem within_iff_offers {slices : List Slice} {row : Row} :
    row.Within slices ↔ row.Offers (WriteWithin slices) :=
  Iff.rfl

@[simp] theorem offers_info : (info label display).Offers p :=
  fun _ h => h.elim

@[simp] theorem offers_toggle : (toggle label on action).Offers p ↔ p [action] := by
  simp [Offers, Makes, toggle]

@[simp] theorem offers_choice : (choice label display actions).Offers p ↔ p actions := by
  simp [Offers, Makes, choice]

@[simp] theorem offers_option : (option label on text action).Offers p ↔ p [action] := by
  simp [Offers, Makes, option]

@[simp] theorem offers_checked {apply : String → Option (List Action)} :
    (checked label value apply).Offers p ↔ ∀ t made, apply t = some made → p made := by
  simp only [Offers, Makes, checked]
  exact ⟨fun h t made ht => h made ⟨fun _ => none, t, ht⟩, fun h made ⟨_, t, ht⟩ => h t made ht⟩

@[simp] theorem offers_text {apply : String → List Action} :
    (Row.text label value apply).Offers p ↔ ∀ t, p (apply t) := by
  simp [Row.text]

@[simp] theorem offers_secret {apply : String → List Action} :
    (secret label value apply).Offers p ↔ ∀ t, p (apply t) := by
  simp [Offers, Makes, secret]

@[simp] theorem offers_document {loaded : Option String} {apply : String → List Action} :
    (document label loaded apply).Offers p ↔ ∀ t, p (apply t) := by
  simp only [Offers, Makes, document, Option.map_eq_some_iff]
  constructor
  · exact fun h t => h _ ⟨fun _ => some t, "", t, rfl, rfl⟩
  · rintro h _ ⟨_, _, t, _, rfl⟩
    exact h t

@[simp] theorem offers_ite {c : Prop} [Decidable c] {a b : Row} :
    (if c then a else b).Offers p ↔ (c → a.Offers p) ∧ (¬ c → b.Offers p) := by
  split_ifs with h <;> simp [h]

end Row

namespace Form

/-- All that the rows can make is as the predicate says. -/
def Offers (p : List Action → Prop) (rows : List Row) : Prop :=
  ∀ row ∈ rows, row.Offers p

/-- All that the rows can make writes the slices and no others. -/
def Within (slices : List Slice) (rows : List Row) : Prop :=
  ∀ row ∈ rows, row.Within slices

theorem within_iff_offers {slices : List Slice} {rows : List Row} :
    Within slices rows ↔ Offers (WriteWithin slices) rows :=
  Iff.rfl

section

variable {p : List Action → Prop}

@[simp] theorem offers_nil : Offers p [] :=
  fun _ h => nomatch h

@[simp] theorem offers_cons {row : Row} {rows : List Row} :
    Offers p (row :: rows) ↔ row.Offers p ∧ Offers p rows :=
  List.forall_mem_cons

@[simp] theorem offers_append {a b : List Row} :
    Offers p (a ++ b) ↔ Offers p a ∧ Offers p b :=
  List.forall_mem_append

@[simp] theorem offers_map {α : Type} {f : α → Row} {l : List α} :
    Offers p (l.map f) ↔ ∀ x ∈ l, (f x).Offers p :=
  List.forall_mem_map

@[simp] theorem offers_ite {c : Prop} [Decidable c] {a b : List Row} :
    Offers p (if c then a else b) ↔ (c → Offers p a) ∧ (¬ c → Offers p b) := by
  split_ifs with h <;> simp [h]

end

/-! ### The forms -/

theorem postgresRows_within (b : BackingStorage) : Within Slice.topics (postgresRows b) := by
  simp [within_iff_offers, postgresRows, WriteWithin, Action.writes]

theorem storageClassRows_within (s : State) (i : Inventory) :
    Within Slice.topics (storageClassRows s i) := by
  unfold storageClassRows
  split <;> simp [within_iff_offers, WriteWithin, Action.writes]

theorem vendorChoiceRows_within (s : State) (r : Registry) :
    Within Slice.topics (vendorChoiceRows s r) := by
  unfold vendorChoiceRows
  split <;> simp [within_iff_offers, WriteWithin, Action.writes]

theorem backingStorageRows_within (w : Session) (i : Inventory) :
    Within Slice.topics (backingStorageRows w i) := by
  have h1 := storageClassRows_within w.state i
  have h2 := vendorChoiceRows_within w.state w.registry
  have h3 := postgresRows_within w.state.backingStorage
  rw [within_iff_offers] at *
  unfold backingStorageRows
  cases h : w.state.backingStorage.type <;> simp [h, h1, h2, h3, WriteWithin, Action.writes]

theorem capacityRows_within (s : State) (i : Inventory) :
    Within [.nodes, .capacity] (capacityRows s i) := by
  simp [within_iff_offers, capacityRows, sizeRows, arbiterRow, WriteWithin, Action.writes]

theorem localVolumeRows_within (s : State) (i : Inventory) :
    Within [.localVolumes] (localVolumeRows s i) := by
  simp [within_iff_offers, localVolumeRows, volumeChange, WriteWithin, Action.writes]

theorem vaultRows_within (k : Kms) : Within [.security] (vaultRows k) := by
  unfold vaultRows
  cases h : k.vault.auth <;>
    simp [within_iff_offers, h, kmsText, kmsSecret, withKms, WriteWithin, Action.writes]

theorem kmipRows_within (k : Kms) : Within [.security] (kmipRows k) := by
  simp [within_iff_offers, kmipRows, kmsText, kmsSecret, withKms, WriteWithin, Action.writes]

theorem kmsRows_within (k : Kms) : Within [.security] (kmsRows k) := by
  have h1 := vaultRows_within k
  have h2 := kmipRows_within k
  rw [within_iff_offers] at *
  unfold kmsRows
  cases h : k.provider <;> simp [h, h1, h2, withKms, WriteWithin, Action.writes]

theorem networkRows_within (s : Security) : Within [.security] (networkRows s) := by
  unfold networkRows
  cases s.networkType <;> simp [within_iff_offers, WriteWithin, Action.writes]

theorem securityRows_within (s : State) (withNetworks : Bool) :
    Within [.security] (securityRows s withNetworks) := by
  have h1 := kmsRows_within s.security.kms
  have h2 := networkRows_within s.security
  rw [within_iff_offers] at *
  simp [securityRows, h1, h2, withEncryption, WriteWithin, Action.writes]

/-- A row of a vendor's form writes the form that its step shows. -/
theorem fieldRow_within {step : FormStep} {slice : Slice}
    (h : ∀ id value, (fieldChange step id value).writes = [slice]) (field : FormField)
    (current : String) : (fieldRow step field current).Within [slice] := by
  unfold fieldRow
  cases field.kind with
  | choice values => cases hc : cycle values current <;> simp [hc, WriteWithin, h]
  | _ => simp [WriteWithin, h]

theorem vendorRows_within {step : FormStep} {slice : Slice}
    (h : ∀ id value, (fieldChange step id value).writes = [slice]) (w : Session) :
    Within [slice] (vendorRows w step) := by
  have hf := fieldRow_within h
  simp only [Row.within_iff_offers] at hf
  unfold vendorRows
  split
  · simp [within_iff_offers]
  · simp [within_iff_offers, hf]

theorem reviewRows_within (w : Session) : Within [] (reviewRows w) := by
  have h : Within [] (internalSummary w.state) := by
    unfold internalSummary
    cases hc : w.state.capacity.capacity <;> simp [within_iff_offers, hc]
  rw [within_iff_offers] at *
  simp [reviewRows, h]

/-- The summary is there to be read. -/
theorem readOnly_of_mem_reviewRows {w : Session} {row : Row} (h : row ∈ reviewRows w) :
    row.edit = .readOnly := by
  have hinternal : ∀ row ∈ internalSummary w.state, row.edit = .readOnly := by
    unfold internalSummary
    dsimp only
    cases w.state.capacity.capacity <;> split_ifs <;> simp [Row.info]
  unfold reviewRows at h
  simp only [List.cons_append, List.mem_cons, List.mem_append, List.not_mem_nil, or_false] at h
  rcases h with rfl | (h | h) | rfl
  · rfl
  · split_ifs at h
    · exact List.mem_singleton.mp h ▸ rfl
    · exact hinternal row h
  · split_ifs at h
    · cases h
    · exact List.mem_singleton.mp h ▸ rfl
  · rfl

/-- **The rows of a step write what the step edits.** -/
theorem rows_within (n : StepName) (w : Session) (i : Inventory) :
    Within n.edits (rows n w i) := by
  cases n with
  | backingStorage => exact backingStorageRows_within w i
  | capacityAndNodes => exact capacityRows_within w.state i
  | createLocalVolumeSet => exact localVolumeRows_within w.state i
  | security => exact securityRows_within w.state false
  | securityAndNetwork => exact securityRows_within w.state true
  | createStorageClass => exact vendorRows_within (fun _ _ => rfl) w
  | connectionDetails => exact vendorRows_within (fun _ _ => rfl) w
  | dataProtection => simp [within_iff_offers, rows, StepName.edits, WriteWithin, Action.writes]
  | reviewAndCreate => exact reviewRows_within w

end Form
end StorageSetup
