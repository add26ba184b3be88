import Mathlib.Data.List.Nodup
import StorageSetup.Proofs.Rows
/-!
# Places of the rows that take a text

The rows of a form are built anew from the settings and the inventory whenever they are asked for,
and a row is known by its place alone. An inventory that arrives moves no row that takes a text, but
for one case: on the step of the backing storage the classes of the cluster have a row each, above
the connection to the external database.

Key definitions: `Row.takesText`, `Session.Refreshed`, `StepName.takesText`.
Key theorems: `Form.getElem?_rows_iff`, `Form.takesText_of_mem_rows`.
-/

namespace StorageSetup

/-- A text can be entered in the row. -/
def Row.takesText (row : Row) : Bool :=
  match row.edit with
  | .text _ _ _ => true
  | _ => false

namespace Row

variable {label display value text : String} {on : Bool} {action : Action} {actions : List Action}

@[simp] theorem takesText_info : (info label display).takesText = false := rfl

@[simp] theorem takesText_toggle : (toggle label on action).takesText = false := rfl

@[simp] theorem takesText_choice : (choice label display actions).takesText = false := rfl

@[simp] theorem takesText_option : (option label on text action).takesText = false := rfl

theorem takesText_iff {row : Row} : row.takesText = true ↔
    ∃ value secret apply, row.edit = .text value secret apply := by
  unfold takesText
  cases row.edit <;> simp

end Row

/-! ### Places in a list -/

section

variable {α β : Type} {x : α} {k : Nat} {p p' q : List α}

theorem getElem?_append_iff_left (hq : x ∉ q) : (p ++ q)[k]? = some x ↔ p[k]? = some x := by
  rw [List.getElem?_append]
  split_ifs with hk
  · rfl
  · rw [List.getElem?_eq_none (Nat.le_of_not_lt hk)]
    exact iff_of_false (fun h => hq (List.mem_of_getElem? h)) nofun

theorem getElem?_append_iff_right (hp : x ∉ p) :
    (p ++ q)[k]? = some x ↔ p.length ≤ k ∧ q[k - p.length]? = some x := by
  rw [List.getElem?_append]
  split_ifs with hk
  · exact iff_of_false (fun h => hp (List.mem_of_getElem? h)) fun h => by omega
  · exact (and_iff_right (Nat.le_of_not_lt hk)).symm

/-- Behind another beginning an entry stays in its place just if the beginning is as long. -/
theorem getElem?_append_iff_length {f : α → β} (hp : x ∉ p) (hp' : x ∉ p') (hq : (q.map f).Nodup)
    (h : (p ++ q)[k]? = some x) : (p' ++ q)[k]? = some x ↔ p'.length = p.length := by
  obtain ⟨hk, hx⟩ := (getElem?_append_iff_right hp).mp h
  rw [getElem?_append_iff_right hp']
  constructor
  · -- the entry stands in one place of `q` only, so both beginnings leave it there
    rintro ⟨hk', hx'⟩
    have hlt : k - p.length < q.length := (List.getElem?_eq_some_iff.mp hx).1
    have hplace : k - p.length = k - p'.length :=
      (List.getElem?_inj hlt (List.Nodup.of_map f hq)).mp (hx.trans hx'.symm)
    omega
  · intro he
    rw [he]
    exact ⟨hk, hx⟩

end

/-! ### Settings under an inventory that arrives -/

/-- The settings with other nodes with matching disks and another number of volumes. -/
def State.charted (s : State) (nodes : NameSet) (count : UInt32) : State :=
  reduce (reduce s (.setLocalVolumes (.chartNodes nodes))) (.setPvCount count)

/-- Another walk whose settings differ in what follows the disks alone. -/
structure Session.Refreshed (w w' : Session) : Prop where
  registry : w'.registry = w.registry
  state : ∃ nodes count, w'.state = w.state.charted nodes count

namespace Session

variable {w w' w'' : Session}

theorem Refreshed.refl (w : Session) : w.Refreshed w :=
  ⟨rfl, w.state.localVolumes.chartNodes, w.state.capacity.pvCount, rfl⟩

theorem Refreshed.trans (h : w.Refreshed w') (h' : w'.Refreshed w'') : w.Refreshed w'' := by
  obtain ⟨hr, nodes, count, hs⟩ := h
  obtain ⟨hr', nodes', count', hs'⟩ := h'
  exact ⟨hr'.trans hr, nodes', count', by rw [hs', hs]; rfl⟩

end Session

/-! ### The forms -/

/-- The form of the step can have rows that take a text. -/
def StepName.takesText : StepName → Bool
  | capacityAndNodes | dataProtection | reviewAndCreate => false
  | _ => true

namespace Form

theorem not_mem_of_takesText {l : List Row} {row : Row} (hl : ∀ row ∈ l, row.takesText = false)
    (hrow : row.takesText = true) : row ∉ l :=
  fun h => absurd hrow (by rw [hl row h]; decide)

theorem takesText_of_mem_capacityRows (s : State) (i : Inventory) :
    ∀ row ∈ capacityRows s i, row.takesText = false := by
  have hsize : ∀ row ∈ sizeRows s i, row.takesText = false := by
    unfold sizeRows
    dsimp only
    split_ifs <;> simp [arbiterRow]
  have hshown : ∀ row, s.isMcg = false → row ∈ sizeRows s i → row.takesText = false :=
    fun row _ => hsize row
  simpa [capacityRows, or_imp, forall_and] using hshown

/-- A row that takes a text is on a step whose form can have such rows. -/
theorem takesText_of_mem_rows {n : StepName} {w : Session} {i : Inventory} {row : Row}
    (h : row ∈ rows n w i) (hrow : row.takesText = true) : n.takesText = true := by
  cases n with
  | capacityAndNodes => exact absurd h (not_mem_of_takesText (takesText_of_mem_capacityRows _ _) hrow)
  | dataProtection => exact absurd h (not_mem_of_takesText (by simp [rows]) hrow)
  | reviewAndCreate =>
    unfold Row.takesText at hrow
    rw [readOnly_of_mem_reviewRows h] at hrow
    cases hrow
  | _ => rfl

theorem takesText_of_mem_storageClassRows (s : State) (i : Inventory) :
    ∀ row ∈ storageClassRows s i, row.takesText = false := by
  unfold storageClassRows
  split <;> simp

/-- The rows above the classes of the cluster. -/
def aboveClasses (b : BackingStorage) : List Row :=
  [ Row.choice "Backing storage" b.type.label [.setBackingType b.type.next],
    Row.choice "Deployment" b.deployment.label [.setDeployment b.deployment.next] ]

/-- The rows below the classes of the cluster. -/
def belowClasses (s : State) : List Row :=
  let b := s.backingStorage
  (if s.isMcg then [] else
    [ Row.toggle "Network file system" b.enableNfs (.enableNfs !b.enableNfs),
      Row.toggle "Default RBD storage class" b.rbdClassIsDefault
        (.setRbdClassDefault !b.rbdClassIsDefault) ]) ++
  postgresRows b

/-- The inventory is seen on the step of the backing storage where a class is chosen. -/
theorem backingStorageRows_of_not_existing {w : Session} (i i' : Inventory)
    (ht : w.state.backingStorage.type ≠ .existing) :
    backingStorageRows w i' = backingStorageRows w i := by
  unfold backingStorageRows
  cases h : w.state.backingStorage.type with
  | existing => exact absurd h ht
  | localDevices => simp only [h]
  | external => simp only [h]

theorem backingStorageRows_of_existing {w : Session} (i : Inventory)
    (ht : w.state.backingStorage.type = .existing) : backingStorageRows w i =
      (aboveClasses w.state.backingStorage ++ storageClassRows w.state i) ++
        belowClasses w.state := by
  have he : w.state.isExternal = false := by
    simp [State.isExternal, ht]
  unfold backingStorageRows aboveClasses belowClasses
  simp [he, ht]

/-- Each row below the classes has a label of its own. -/
theorem nodup_belowClasses (s : State) : ((belowClasses s).map Row.label).Nodup := by
  unfold belowClasses postgresRows
  dsimp only
  split_ifs <;> simp [Row.toggle, Row.text, Row.secret, Row.checked, Row.document]

/-- In the form of the volume set the rows that take a text stand above all that the inventory and
the disks decide. -/
theorem getElem?_localVolumeRows_iff {s : State} {i i' : Inventory} {place : Nat} {row : Row}
    (nodes : NameSet) (count : UInt32) (hrow : row.takesText = true) :
    (localVolumeRows (s.charted nodes count) i')[place]? = some row ↔
      (localVolumeRows s i)[place]? = some row := by
  unfold localVolumeRows
  dsimp only
  rw [List.append_assoc, List.append_assoc,
    getElem?_append_iff_left (not_mem_of_takesText ?_ hrow),
    getElem?_append_iff_left (not_mem_of_takesText ?_ hrow)]
  · exact Iff.rfl
  all_goals split_ifs <;> simp [or_imp, forall_and]

/-- Below the classes a row that takes a text stays just if their number does. -/
theorem getElem?_backingStorageRows_iff {w w' : Session} {i i' : Inventory} {place : Nat}
    {row : Row} (hw : w.Refreshed w') (hrow : row.takesText = true)
    (ht : w.state.backingStorage.type = .existing)
    (h : (backingStorageRows w i)[place]? = some row) :
    (backingStorageRows w' i')[place]? = some row ↔
      (storageClassRows w'.state i').length = (storageClassRows w.state i).length := by
  obtain ⟨_, nodes, count, hs⟩ := hw
  have hb : w'.state.backingStorage = w.state.backingStorage := by
    rw [hs]
    rfl
  have hbelow : belowClasses w'.state = belowClasses w.state := by
    rw [hs]
    rfl
  have habove : ∀ (s : State) (i : Inventory),
      row ∉ aboveClasses w.state.backingStorage ++ storageClassRows s i := by
    intro s i
    have hclasses := not_mem_of_takesText (takesText_of_mem_storageClassRows s i) hrow
    have hfirst : row ∉ aboveClasses w.state.backingStorage :=
      not_mem_of_takesText (by simp [aboveClasses]) hrow
    exact List.not_mem_append hfirst hclasses
  rw [backingStorageRows_of_existing i ht] at h
  rw [backingStorageRows_of_existing i' (hb ▸ ht), hb, hbelow,
    getElem?_append_iff_length (habove _ i) (habove _ i') (nodup_belowClasses w.state) h,
    List.length_append, List.length_append, Nat.add_left_cancel_iff]

/-- **Where the rows that take a text stay.** An inventory that arrives leaves such a row in its
place, unless it brings another number of classes above it. -/
theorem getElem?_rows_iff {n : StepName} {w w' : Session} {i : Inventory} {place : Nat} {row : Row}
    (i' : Inventory) (hw : w.Refreshed w') (hrow : row.takesText = true)
    (h : (rows n w i)[place]? = some row) :
    (rows n w' i')[place]? = some row ↔
      (n = .backingStorage → w.state.backingStorage.type = .existing →
        (storageClassRows w'.state i').length = (storageClassRows w.state i).length) := by
  have hsame (he : rows n w' i' = rows n w i) : (rows n w' i')[place]? = some row := by
    rwa [he]
  have hn := takesText_of_mem_rows (List.mem_of_getElem? h) hrow
  -- the classes have rows in this case alone; in all others the row stays
  by_cases hb : n = .backingStorage ∧ w.state.backingStorage.type = .existing
  · obtain ⟨rfl, ht⟩ := hb
    simp only [ht, forall_const]
    exact getElem?_backingStorageRows_iff hw hrow ht h
  · refine iff_of_true ?_ fun he ht => absurd ⟨he, ht⟩ hb
    obtain ⟨state, context, registry, current⟩ := w'
    obtain ⟨rfl, nodes, count, rfl⟩ := hw
    cases n with
    | backingStorage =>
      exact hsame (backingStorageRows_of_not_existing i i' fun ht => hb ⟨rfl, ht⟩)
    | createLocalVolumeSet => exact (getElem?_localVolumeRows_iff nodes count hrow).mpr h
    | security | securityAndNetwork | createStorageClass | connectionDetails => exact hsame rfl
    | capacityAndNodes | dataProtection | reviewAndCreate => exact absurd hn (by decide)

end Form
end StorageSetup
