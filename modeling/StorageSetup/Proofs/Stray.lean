import Mathlib.Data.List.Induction
import StorageSetup.Proofs.LabelledNodes
import StorageSetup.Proofs.Normalization
import StorageSetup.Proofs.Selector
import StorageSetup.Proofs.Submit
import StorageSetup.Proofs.VolumeClass
/-!
# Chosen nodes without disks

On local devices the form for nodes offers the nodes with matching disks. The filter of the disks is
edited on an earlier step, and what was chosen before is not chosen anew: a chosen node that loses
its last matching disk loses its row and stays chosen. Behind the filter nothing is done about such
nodes, so a plan labels those that there were when the filter was left for the last time, and the
volume set selects none of them.

Key definitions: `State.Stocked`, `State.Stray`, `Screen.pressed`.
Key theorems: `Screen.Handled.stocked`, `Screen.Handled.stray`, `Screen.stray_pressed`,
`Screen.labelled_without_disks`.
-/

namespace StorageSetup

/-! ### What the forms offer -/

/-- An action of the first form: it chooses no nodes, and no class on local devices. -/
def Action.OnBacking (s : State) : Action → Prop
  | setNodes _ => False
  | setStorageClass _ => s.backingStorage.type ≠ .localDevices
  | _ => True

/-- One action of the first form. -/
def State.BackingEdit (s : State) (actions : List Action) : Prop :=
  ∃ a, actions = [a] ∧ a.OnBacking s

/-- A node that is offered is chosen or left out, or no nodes are chosen. -/
def State.NodeEdit (s : State) (i : Inventory) (actions : List Action) : Prop :=
  (∃ n ∈ Form.candidateNodes s i, actions = [.setNodes (Form.toggledNodes s.nodes n i)]) ∨
    ∀ a ∈ actions, .nodes ∉ a.writes

namespace Form

theorem postgresRows_offers (s : State) (b : BackingStorage) :
    Offers s.BackingEdit (postgresRows b) := by
  simp [postgresRows, State.BackingEdit, Action.OnBacking]

theorem storageClassRows_offers {s : State} (ht : s.backingStorage.type ≠ .localDevices)
    (i : Inventory) : Offers s.BackingEdit (storageClassRows s i) := by
  unfold storageClassRows
  split <;> simp [State.BackingEdit, Action.OnBacking, ht]

theorem vendorChoiceRows_offers {s : State} (ht : s.backingStorage.type ≠ .localDevices)
    (r : Registry) : Offers s.BackingEdit (vendorChoiceRows s r) := by
  unfold vendorChoiceRows
  split <;> simp [State.BackingEdit, Action.OnBacking, ht]

theorem backingStorageRows_offers (w : Session) (i : Inventory) :
    Offers w.state.BackingEdit (backingStorageRows w i) := by
  have hpostgres := postgresRows_offers w.state w.state.backingStorage
  unfold backingStorageRows
  cases ht : w.state.backingStorage.type with
  | localDevices => simp [ht, hpostgres, State.BackingEdit, Action.OnBacking]
  | existing =>
    have hclasses := storageClassRows_offers (s := w.state) (by rw [ht]; decide) i
    simp [ht, hclasses, hpostgres, State.BackingEdit, Action.OnBacking]
  | external =>
    have hvendors := vendorChoiceRows_offers (s := w.state) (by rw [ht]; decide) w.registry
    simp [ht, hvendors, hpostgres, State.BackingEdit, Action.OnBacking]

theorem capacityRows_offers (s : State) (i : Inventory) :
    Offers (s.NodeEdit i) (capacityRows s i) := by
  have hnodes : Offers (s.NodeEdit i) ((candidateNodes s i).map fun n =>
      Row.option "Node" (s.nodes.any (·.name == n.name)) (nodeSummary n)
        (.setNodes (toggledNodes s.nodes n i))) := by
    rw [offers_map]
    exact fun n hn => Row.offers_option.mpr (.inl ⟨n, hn, rfl⟩)
  unfold capacityRows
  simp only [offers_append, hnodes, and_true]
  simp [sizeRows, arbiterRow, State.NodeEdit, Action.writes]

end Form

/-! ### Chosen nodes -/

/-- A node of the name is chosen. -/
def State.Chosen (s : State) (name : String) : Prop :=
  name ∈ s.nodes.map (·.name)

/-- A node of the name is chosen and has no matching disk. -/
def State.Stray (s : State) (name : String) : Prop :=
  s.Chosen name ∧ name ∉ s.localVolumes.chartNodes

instance (s : State) (name : String) : Decidable (s.Chosen name) :=
  inferInstanceAs (Decidable (name ∈ s.nodes.map (·.name)))

instance (s : State) (name : String) : Decidable (s.Stray name) :=
  inferInstanceAs (Decidable (s.Chosen name ∧ name ∉ s.localVolumes.chartNodes))

/-- What keys keep beside an inventory: on local devices the class is that of a volume set, and the
chosen nodes are nodes of the inventory. -/
structure State.Stocked (i : Inventory) (s : State) : Prop where
  localClass : s.backingStorage.type = .localDevices → s.storageClass.isNoProvisioner = true
  listed : ∀ n ∈ s.nodes, n ∈ i.nodes

namespace State

variable {s t : State} {i : Inventory}

/-- A mode change leaves local devices with a class for a volume set. -/
theorem localClass_applyModeChange (s : State) (m : ModeChange)
    (ht : (s.applyModeChange m).backingStorage.type = .localDevices) :
    (s.applyModeChange m).storageClass.isNoProvisioner = true := by
  have hrule : (s.applyModeChange m).normalizeStorageClass = s.applyModeChange m :=
    rule_applyModeChange (by simp [normalizers]) s m
  exact (normalizeStorageClass_eq_iff.mp hrule).mpr (by simp [ht])

/-- A mode change keeps the chosen nodes or drops them all. -/
theorem nodes_applyModeChange (s : State) (m : ModeChange) :
    (s.applyModeChange m).nodes = s.nodes ∨ (s.applyModeChange m).nodes = [] := by
  have hnodes : (s.switchMode m).nodes = (s.applyModeChange m).nodes :=
    normalizers_same (s.switchMode m) (x := .nodes) (by decide)
  rw [← hnodes]
  unfold switchMode
  cases m <;> dsimp only [setMode] <;> split_ifs <;> first | exact .inl rfl | exact .inr rfl

theorem Stocked.of_same (h : s.Stocked i) (hb : Slice.backingStorage.Same s t)
    (hc : Slice.storageClass.Same s t) (hn : Slice.nodes.Same s t) : t.Stocked i where
  localClass ht := by
    rw [← show s.storageClass = _ from hc]
    exact h.localClass (by rwa [show s.backingStorage = _ from hb])
  listed n hmem := h.listed n (by rwa [show s.nodes = _ from hn])

theorem Stocked.applyModeChange (h : s.Stocked i) (m : ModeChange) :
    (s.applyModeChange m).Stocked i where
  localClass := localClass_applyModeChange s m
  listed n hn := by
    rcases nodes_applyModeChange s m with he | he
    · exact h.listed n (he ▸ hn)
    · rw [he] at hn
      cases hn

/-- What the first form offers keeps the choice in order. -/
theorem Stocked.onBacking (h : s.Stocked i) {a : Action} (ha : a.OnBacking s) :
    (reduce s a).Stocked i := by
  cases a with
  | setBackingType v => exact h.applyModeChange _
  | setDeployment v => exact h.applyModeChange _
  | setStorageClass c => exact ⟨fun ht => absurd ht ha, h.listed⟩
  | setNodes nodes => exact ha.elim
  | _ => exact ⟨h.localClass, h.listed⟩

/-- Nodes are chosen from the inventory. -/
theorem Stocked.toggled (h : s.Stocked i) (n : Node) :
    (reduce s (.setNodes (Form.toggledNodes s.nodes n i))).Stocked i where
  localClass := h.localClass
  listed _ hm := (List.mem_filter.mp hm).1

theorem Stocked.withVolumeClass (h : s.Stocked i) : s.withVolumeClass.Stocked i where
  localClass _ := rfl
  listed := h.listed

/-- Where one node is chosen or left out, all others stay chosen or not. -/
theorem chosen_toggled (h : s.Stocked i) {n : Node} {name : String} (hne : name ≠ n.name) :
    (reduce s (.setNodes (Form.toggledNodes s.nodes n i))).Chosen name ↔ s.Chosen name := by
  have htest : ∀ m : Node, m.name = name →
      ((if m.name == n.name then !s.nodes.any (·.name == n.name)
        else s.nodes.any (·.name == m.name)) = true ↔ s.Chosen name) := by
    rintro m rfl
    rw [if_neg (by simpa using hne), List.any_eq_true]
    unfold Chosen
    simp only [List.mem_map, beq_iff_eq]
  show name ∈ (Form.toggledNodes s.nodes n i).map (·.name) ↔ _
  simp only [Form.toggledNodes, List.mem_map, List.mem_filter]
  constructor
  · rintro ⟨m, ⟨_, hm⟩, hname⟩
    exact (htest m hname).mp hm
  · intro hchosen
    obtain ⟨m, hm, hname⟩ := List.mem_map.mp hchosen
    exact ⟨m, ⟨h.listed m hm, (htest m hname).mpr hchosen⟩, hname⟩

/-- On local devices only nodes with disks are offered, so no choice touches another one. -/
theorem stray_toggled (h : s.Stocked i) (ht : s.backingStorage.type = .localDevices) {n : Node}
    (hn : n ∈ Form.candidateNodes s i) (name : String) :
    (reduce s (.setNodes (Form.toggledNodes s.nodes n i))).Stray name ↔ s.Stray name := by
  have hchart : n.name ∈ s.localVolumes.chartNodes := by
    have hoffered := (List.mem_filter.mp hn).2
    rw [h.localClass ht] at hoffered
    exact NameSet.contains_iff.mp hoffered
  refine and_congr_left fun hname => chosen_toggled h ?_
  rintro rfl
  exact hname hchart

theorem stray_congr (hn : Slice.nodes.Same s t) (hl : s.localVolumes.chartNodes = t.localVolumes.chartNodes)
    (name : String) : t.Stray name ↔ s.Stray name := by
  unfold Stray Chosen
  rw [show s.nodes = _ from hn, hl]

end State

namespace Screen

open State

variable {s s' : Screen} {i : Inventory}

/-! ### One key -/

/-- A step that edits what the nodes are chosen by is the first one, or edits nodes alone. -/
theorem edits_cases (n : StepName) : n = .backingStorage ∨ n = .capacityAndNodes ∨
    (.nodes ∉ n.edits ∧ .backingStorage ∉ n.edits ∧ .storageClass ∉ n.edits) := by
  cases n <;> decide

theorem rows_eq (hi : s.inventory.value? = some i) : s.rows = Form.rows s.step s.session i := by
  unfold rows inventoryOrEmpty
  rw [hi]
  rfl

/-- What is made on the form for nodes chooses a node that is offered, or leaves the nodes alone. -/
theorem nodeEdit_of_makes (hi : s.inventory.value? = some i) {row : Row} {actions : List Action}
    (hrow : row ∈ s.rows) (hmade : row.Makes actions) (hstep : s.step ≠ .backingStorage) :
    s.session.state.NodeEdit i actions := by
  rcases edits_cases s.step with hb | hc | ⟨hn, _, _⟩
  · exact absurd hb hstep
  · rw [rows_eq hi, hc] at hrow
    exact Form.capacityRows_offers _ i row hrow actions hmade
  · exact .inr ((edits_of_makes hrow hmade).not_writes hn)

/-- Whatever is made on a form keeps the choice in order. -/
theorem stocked_of_makes (hi : s.inventory.value? = some i) {row : Row} {actions : List Action}
    (hrow : row ∈ s.rows) (hmade : row.Makes actions) (hs : s.session.state.Stocked i) :
    (reduceAll s.session.state actions).Stocked i := by
  by_cases hstep : s.step = .backingStorage
  · rw [rows_eq hi, hstep] at hrow
    obtain ⟨a, rfl, ha⟩ := Form.backingStorageRows_offers _ i row hrow actions hmade
    exact hs.onBacking ha
  · have hedits := edits_of_makes hrow hmade
    rcases nodeEdit_of_makes hi hrow hmade hstep with ⟨n, _, rfl⟩ | hnodes
    · exact hs.toggled n
    · have hkept : .backingStorage ∉ s.step.edits ∧ .storageClass ∉ s.step.edits := by
        rcases edits_cases s.step with hb | hc | ⟨_, hkept⟩
        · exact absurd hb hstep
        · rw [hc]
          decide
        · exact hkept
      exact hs.of_same (reduceAll_same actions _ (hedits.not_writes hkept.1))
        (reduceAll_same actions _ (hedits.not_writes hkept.2)) (reduceAll_same actions _ hnodes)

theorem stocked_followDisks {w : Session} (h : w.state.Stocked i) (j : Inventory) :
    (w.followDisks j).state.Stocked i :=
  h.of_same (w.same_followDisks j (by decide)) (w.same_followDisks j (by decide))
    (w.same_followDisks j (by decide))

theorem stocked_advance {w : Session} (h : w.state.Stocked i) : w.advance.state.Stocked i := by
  have hleft : w.leftState.Stocked i := by
    unfold Session.leftState
    split_ifs
    · exact h.withVolumeClass
    · exact h
  exact ⟨hleft.localClass, hleft.listed⟩

/-- A key keeps the choice in order. -/
theorem Handled.stocked (h : Handled s s') (hg : s.Guarded) (hi : s.inventory.value? = some i)
    (hs : s.session.state.Stocked i) : s'.session.state.Stocked i := by
  obtain ⟨hmoved, _, _⟩ := h
  cases hmoved with
  | stayed h _ => exact h ▸ hs
  | edited hrow hmade h _ =>
    rw [hi] at h
    rw [h]
    refine stocked_followDisks ?_ i
    rw [Session.state_dispatchAll]
    exact stocked_of_makes hi hrow hmade hs
  | next h _ =>
    rcases Session.eq_of_next hg.inBounds h with ⟨he, _⟩ | ⟨he, _, _⟩
    · exact he ▸ hs
    · exact he ▸ stocked_advance hs
  | back h _ => exact h ▸ hs
  | jumped h _ =>
    rw [(Session.eq_of_jumpTo h).2]
    exact hs

/-- Behind the filter an edit leaves the filter and what passes it. -/
theorem edited_behind_filter {actions : List Action} (hg : s.Guarded)
    (hi : s.inventory.value? = some i) (hedits : s.session.Edits actions)
    (ht : ((s.session.dispatchAll actions).followDisks i).state.backingStorage.type = .localDevices)
    (h1 : 1 < ((s.session.dispatchAll actions).followDisks i).current) :
    0 < s.session.current ∧ s.session.state.backingStorage.type = .localDevices ∧
      ((s.session.dispatchAll actions).followDisks i).state.localVolumes.chartNodes =
        s.session.state.localVolumes.chartNodes := by
  have hb := Session.inBounds_dispatchAll actions hg.inBounds
  rw [(Session.names_followDisks hb i).2] at h1
  rw [← show (s.session.dispatchAll actions).state.backingStorage = _ from
    Session.same_followDisks _ i (x := .backingStorage) (by decide)] at ht
  have h0 : 0 < s.session.current := by
    rcases Nat.eq_zero_or_pos s.session.current with h0 | h0
    · rw [Session.current_dispatchAll_of_start actions h0] at h1
      exact absurd h1 (by decide)
    · exact h0
  have hfollows := Session.follows_dispatchAll hg.inBounds hedits (hg.follows i hi) h1 ht
  obtain ⟨count, he⟩ := Session.followDisks_of_local (i := i) hb ht
  rw [he]
  rw [Session.dispatchAll_of_edits hg.inBounds h0 hedits] at ht h1 hfollows ⊢
  change (reduceAll _ _).backingStorage.type = _ at ht
  rw [Session.backingStorage_of_edits hg.inBounds hedits h0] at ht
  refine ⟨h0, ht, hfollows.symm.trans ?_⟩
  exact congrArg _ (Session.localVolumes_of_edits hg.inBounds hedits ht h1)

/-- Behind the filter an edit touches no chosen node without disks. -/
theorem stray_edited {row : Row} {actions : List Action} (hg : s.Guarded)
    (hi : s.inventory.value? = some i) (hs : s.session.state.Stocked i) (hrow : row ∈ s.rows)
    (hmade : row.Makes actions)
    (ht : ((s.session.dispatchAll actions).followDisks i).state.backingStorage.type = .localDevices)
    (h1 : 1 < ((s.session.dispatchAll actions).followDisks i).current) :
    s.session.state.backingStorage.type = .localDevices ∧
      ∀ n, ((s.session.dispatchAll actions).followDisks i).state.Stray n ↔
        s.session.state.Stray n := by
  obtain ⟨h0, ht', hchart⟩ := edited_behind_filter hg hi (edits_of_makes hrow hmade) ht h1
  refine ⟨ht', fun name => ?_⟩
  have hfollowed : ((s.session.dispatchAll actions).followDisks i).state.nodes =
      (reduceAll s.session.state actions).nodes := by
    rw [← Session.state_dispatchAll]
    exact (Session.same_followDisks _ i (x := .nodes) (by decide)).symm
  have hstep : s.step ≠ .backingStorage := by
    intro hstep
    have hfirst := (Flow.backing_iff_first _ _ _ hg.inBounds).mp
      ((Session.getElem?_names_current hg.inBounds).trans (congrArg some hstep))
    omega
  rcases nodeEdit_of_makes hi hrow hmade hstep with ⟨n, hn, rfl⟩ | hnodes
  · rw [← stray_toggled hs ht' hn name]
    exact stray_congr hfollowed.symm hchart.symm name
  · refine stray_congr ?_ hchart.symm name
    exact (show s.session.state.nodes = _ from reduceAll_same actions _ hnodes).trans
      hfollowed.symm

/-- **Behind the filter a key changes nothing about the chosen nodes without disks.** -/
theorem Handled.stray (h : Handled s s') (hg : s.Guarded) (hi : s.inventory.value? = some i)
    (hs : s.session.state.Stocked i) (ht : s'.session.state.backingStorage.type = .localDevices)
    (h1 : 1 < s'.session.current) : s.session.state.backingStorage.type = .localDevices ∧
      ∀ n, s'.session.state.Stray n ↔ s.session.state.Stray n := by
  obtain ⟨hmoved, _, _⟩ := h
  cases hmoved with
  | stayed h _ =>
    rw [h] at ht ⊢
    exact ⟨ht, fun _ => Iff.rfl⟩
  | edited hrow hmade h _ =>
    rw [hi] at h
    rw [h] at ht h1 ⊢
    exact stray_edited hg hi hs hrow hmade ht h1
  | next h _ =>
    rcases Session.eq_of_next hg.inBounds h with ⟨he, _⟩ | ⟨he, _, _⟩
    · rw [he] at ht ⊢
      exact ⟨ht, fun _ => Iff.rfl⟩
    · rw [he] at ht ⊢
      rw [Session.backingStorage_advance] at ht
      refine ⟨ht, stray_congr ?_ ?_⟩
      · show s.session.state.nodes = s.session.leftState.nodes
        unfold Session.leftState
        split_ifs <;> rfl
      · rw [Session.localVolumes_advance]
  | back h _ =>
    rw [h] at ht ⊢
    exact ⟨ht, fun _ => Iff.rfl⟩
  | jumped h _ =>
    rw [(Session.eq_of_jumpTo h).2] at ht ⊢
    exact ⟨ht, fun _ => Iff.rfl⟩

/-! ### Keys in order -/

/-- The screen after keys in order, each with the files as they are then. -/
def pressed (s : Screen) (keys : List (Files × Key)) : Screen :=
  s.after (keys.map fun k => (k.1, .key k.2))

theorem pressed_append (s : Screen) (before rest : List (Files × Key)) :
    s.pressed (before ++ rest) = (s.pressed before).pressed rest := by
  unfold pressed
  rw [List.map_append, after_append]

/-- A screen that was given an inventory, with all that keys keep. -/
structure Supplied (i : Inventory) (s : Screen) : Prop where
  guarded : s.Guarded
  inventory : s.inventory.value? = some i
  stocked : s.session.state.Stocked i

theorem Handled.supplied (h : Handled s s') (hs : s.Supplied i) : s'.Supplied i where
  guarded := h.guarded hs.guarded
  inventory := by rw [h.inventory, hs.inventory]
  stocked := h.stocked hs.guarded hs.inventory hs.stocked

theorem supplied_pressed : ∀ (keys : List (Files × Key)) {s : Screen}, s.Supplied i →
    (s.pressed keys).Supplied i
  | [], _, hs => hs
  | k :: keys, s, hs => supplied_pressed keys ((handled_press k.1 k.2 s).supplied hs)

/-- A new screen that is given an inventory. -/
theorem supplied_showInventory (config : Config) (r : Registry) (i : Inventory) :
    ((Screen.new config r).showInventory (.ok i)).Supplied i where
  guarded := guarded_showInventory (guarded_new config r) i
  inventory := by
    rw [showInventory_eq]
    rfl
  stocked := by
    rw [showInventory_eq]
    refine stocked_followDisks (w := (Session.new _ r).setContext i.context) ⟨fun ht => ?_, ?_⟩ i
    · exact absurd (show BackingType.existing = .localDevices from ht) (by decide)
    · exact fun n hn => nomatch (show n ∈ ([] : List Node) from hn)

theorem current_showInventory_new (config : Config) (r : Registry) (i : Inventory) :
    ((Screen.new config r).showInventory (.ok i)).session.current = 0 := by
  have hb : ((Screen.new config r).session.setContext i.context).InBounds :=
    Session.inBounds_clamp _
  rw [showInventory_eq]
  show (((Screen.new config r).session.setContext i.context).followDisks i).current = 0
  rw [(Session.names_followDisks hb i).2, Session.current_setContext]
  exact Nat.zero_min _

/-- **As long as keys stay behind the filter, the chosen nodes without disks stay the same.** -/
theorem stray_pressed : ∀ (keys : List (Files × Key)) {s : Screen}, s.Supplied i →
    (∀ p, p ≠ [] → p <+: keys → 1 < (s.pressed p).session.current) →
    (s.pressed keys).session.state.backingStorage.type = .localDevices →
    s.session.state.backingStorage.type = .localDevices ∧
      ∀ n, (s.pressed keys).session.state.Stray n ↔ s.session.state.Stray n
  | [], _, _, _, ht => ⟨ht, fun _ => Iff.rfl⟩
  | k :: keys, s, hs, hbehind, ht => by
    have hk := handled_press k.1 k.2 s
    have hrest : ∀ p, p ≠ [] → p <+: keys → 1 < ((s.press k.1 k.2).1.pressed p).session.current :=
      fun p _ hp => hbehind (k :: p) nofun (List.cons_prefix_cons.mpr ⟨rfl, hp⟩)
    obtain ⟨ht', hiff⟩ := stray_pressed keys (hk.supplied hs) hrest ht
    have h1 := hbehind [k] nofun (List.cons_prefix_cons.mpr ⟨rfl, List.nil_prefix⟩)
    obtain ⟨ht'', hiff'⟩ := hk.stray hs.guarded hs.inventory hs.stocked ht' h1
    exact ⟨ht'', fun n => (hiff n).trans (hiff' n)⟩

/-- Keys split at the last time the walk stood on one of its first two steps. -/
theorem exists_last_before_filter (s : Screen) (h0 : s.session.current ≤ 1)
    (keys : List (Files × Key)) : ∃ before rest, keys = before ++ rest ∧
      (s.pressed before).session.current ≤ 1 ∧
      ∀ p, p ≠ [] → p <+: rest → 1 < ((s.pressed before).pressed p).session.current := by
  induction keys using List.reverseRecOn with
  | nil => exact ⟨[], [], rfl, h0, fun p hp hprefix => absurd (List.prefix_nil.mp hprefix) hp⟩
  | append_singleton keys k ih =>
    by_cases hk : (s.pressed (keys ++ [k])).session.current ≤ 1
    · exact ⟨keys ++ [k], [], (List.append_nil _).symm, hk,
        fun p hp hprefix => absurd (List.prefix_nil.mp hprefix) hp⟩
    · obtain ⟨before, rest, rfl, hbefore, hrest⟩ := ih
      refine ⟨before, rest ++ [k], List.append_assoc _ _ _, hbefore, fun p hp hprefix => ?_⟩
      rcases List.prefix_concat_iff.mp hprefix with rfl | hprefix
      · rw [← pressed_append, ← List.append_assoc]
        exact Nat.lt_of_not_le hk
      · exact hrest p hp hprefix

/-! ### The labels of a plan -/

/-- A plan on local devices labels the chosen nodes and creates one volume set, which selects the
nodes with matching disks. -/
theorem labels_of_planned {plan : Plan} (h : s.planned = .ok plan)
    (ht : s.session.state.backingStorage.type = .localDevices) :
    plan.labelledNodes = s.session.state.nodes.map (·.name) ∧
    ∃ front volumeSet back, plan.payloads = front ++ volumeSet :: back ∧
      volumeSet.model = .localVolumeSet ∧ (∀ p ∈ front ++ back, p.model ≠ .localVolumeSet) ∧
      volumeSet.selectorValues hostnameLabel = s.session.state.localVolumes.chartNodes.names := by
  constructor
  · obtain ⟨parts, rfl⟩ := exists_planParts h
    refine parts.labelledNodes_eq (parts.capacity_mem_iff.mpr (parts.creates_of_internal ?_))
    rw [ht]
    decide
  · obtain ⟨before, volumeSet, cluster, hset, hcluster, hbefore, hpayloads⟩ :=
      planSubmission_local ht h
    refine ⟨before, volumeSet, _, hpayloads, LocalVolumeForm.model_of_ok hset, fun p hp => ?_,
      LocalVolumeForm.selectorValues_of_ok hset⟩
    obtain ⟨made, _, rfl⟩ := storageCluster_of_payload hcluster
    rcases List.mem_append.mp hp with hp | hp
    · rcases hbefore p hp with hm | hm <;> rw [hm] <;> decide
    · rcases List.mem_cons.mp hp with rfl | hp
      · show ResourceModel.storageSystem ≠ _
        decide
      · obtain rfl := List.mem_singleton.mp hp
        show ResourceModel.storageCluster ≠ _
        decide

/-- **The labelled nodes without disks are those that were chosen when the filter was left.** A
screen is given one inventory, keys are pressed, and on the review there is a plan on local devices.
The plan labels nodes of the inventory and creates one volume set. The labelled nodes that the set
does not select are the chosen nodes without disks as they were when the walk stood on one of its
first two steps for the last time. So every labelled node is selected exactly where there were none
of these. -/
theorem labelled_without_disks (config : Config) (r : Registry) (i : Inventory)
    (keys : List (Files × Key)) :
    let given := (Screen.new config r).showInventory (.ok i)
    let s := given.pressed keys
    s.step = .reviewAndCreate → s.session.state.backingStorage.type = .localDevices →
    ∀ plan, s.planned = .ok plan → ∃ front volumeSet back,
      plan.payloads = front ++ volumeSet :: back ∧ volumeSet.model = .localVolumeSet ∧
      (∀ p ∈ front ++ back, p.model ≠ .localVolumeSet) ∧
      volumeSet.selectorValues hostnameLabel = s.session.state.localVolumes.chartNodes.names ∧
      (∀ n ∈ plan.labelledNodes, n ∈ i.nodeNames) ∧
      ∃ before rest, keys = before ++ rest ∧ (given.pressed before).session.current ≤ 1 ∧
        (∀ p, p ≠ [] → p <+: rest → 1 < (given.pressed (before ++ p)).session.current) ∧
        (∀ n, (n ∈ plan.labelledNodes ∧ n ∉ volumeSet.selectorValues hostnameLabel) ↔
          (given.pressed before).session.state.Stray n) ∧
        ((∀ n ∈ plan.labelledNodes, n ∈ volumeSet.selectorValues hostnameLabel) ↔
          ∀ n, ¬ (given.pressed before).session.state.Stray n) := by
  intro given s _ ht plan hplan
  obtain ⟨hlabelled, front, volumeSet, back, hpayloads, hmodel, hothers, hselected⟩ :=
    labels_of_planned hplan ht
  have hgiven : given.Supplied i := supplied_showInventory config r i
  refine ⟨front, volumeSet, back, hpayloads, hmodel, hothers, hselected, ?_, ?_⟩
  · rw [hlabelled, List.forall_mem_map]
    exact fun n hn => List.mem_map_of_mem ((supplied_pressed keys hgiven).stocked.listed n hn)
  · have h0 : given.session.current ≤ 1 := by
      rw [show given.session.current = 0 from current_showInventory_new config r i]
      exact Nat.zero_le 1
    obtain ⟨before, rest, hkeys, hbefore, hrest⟩ := exists_last_before_filter given h0 keys
    have hs : s = (given.pressed before).pressed rest := by
      rw [← pressed_append, ← hkeys]
    have hstray := (stray_pressed rest (supplied_pressed before hgiven) hrest (hs ▸ ht)).2
    have hiff : ∀ n, (n ∈ plan.labelledNodes ∧ n ∉ volumeSet.selectorValues hostnameLabel) ↔
        (given.pressed before).session.state.Stray n := by
      intro n
      rw [hlabelled, hselected, ← hstray n, ← hs]
      exact Iff.rfl
    refine ⟨before, rest, hkeys, hbefore, fun p hp hprefix => ?_, hiff, ?_⟩
    · rw [pressed_append]
      exact hrest p hp hprefix
    · simp only [← hiff, not_and_not_right]

/-! ### A disk type that one chosen node does not have -/

/-- Four nodes with a disk each, the last one rotating. -/
def fourDisks : Inventory where
  nodes := ["n1", "n2", "n3", "n4"].map fun n => { name := n }
  devices := ["n1", "n2", "n3", "n4"].map fun n =>
    { node := n, path := "/dev/sda", deviceType := "disk", size := 1099511627776,
      rotational := n == "n4", status := "Available" }

/-- The object gateway alone on the local devices of all nodes; then back to the filter. -/
def keysToFilter : List Key :=
  [.enter, .down, .enter, .char 'n', .enter, .char 'a', .enter, .char 'n', .down, .enter, .down,
    .enter, .down, .enter, .down, .enter, .char 'p']

/-- From the filter to the review, with the disk type changed on the way or not. -/
def keysFromFilter (changed : Bool) : List Key :=
  (if changed then [.down, .enter] else []) ++ [.char 'n', .char 'n', .char 'n']

/-- A screen on the review, with four nodes chosen and the disk type changed or not. -/
def filtered (changed : Bool) : Screen :=
  ((Screen.new {} .builtins).showInventory (.ok fourDisks)).pressed
    ((keysToFilter ++ keysFromFilter changed).map fun k => (noFiles, k))

/-- The review is reached with a plan, and the fourth node is chosen without a disk where the type
was changed. -/
theorem filtered_spec (changed : Bool) : (filtered changed).step = .reviewAndCreate ∧
    (filtered changed).session.state.backingStorage.type = .localDevices ∧
    (∃ plan, (filtered changed).planned = .ok plan) ∧
    ((filtered changed).session.state.Stray "n4" ↔ changed = true) := by
  cases changed <;> exact ⟨by decide, by decide, exists_of_isOk (by decide), by decide⟩

theorem labelled_without_disks_filtered : ∃ plan volumeSet before rest,
    (filtered true).step = .reviewAndCreate ∧
    (filtered true).session.state.backingStorage.type = .localDevices ∧
    (filtered true).planned = .ok plan ∧ volumeSet ∈ plan.payloads ∧
    ((keysToFilter ++ keysFromFilter true).map fun k => (noFiles, k)) = before ++ rest ∧
    ((∀ n ∈ plan.labelledNodes, n ∈ volumeSet.selectorValues hostnameLabel) ↔
      ∀ n, ¬ (((Screen.new {} .builtins).showInventory (.ok fourDisks)).pressed
        before).session.state.Stray n) := by
  obtain ⟨hr, ht, ⟨plan, hplan⟩, _⟩ := filtered_spec true
  obtain ⟨front, volumeSet, back, hpayloads, _, _, _, _, before, rest, hkeys, _, _, _, hiff⟩ :=
    labelled_without_disks {} .builtins fourDisks _ hr ht plan hplan
  refine ⟨plan, volumeSet, before, rest, hr, ht, hplan, ?_, hkeys, hiff⟩
  rw [hpayloads]
  exact List.mem_append_right _ List.mem_cons_self

/-- A plan does not always label nodes with disks alone. -/
theorem not_labelled_with_disks : ¬ ∀ (config : Config) (r : Registry) (i : Inventory)
    (keys : List (Files × Key)),
    let s := ((Screen.new config r).showInventory (.ok i)).pressed keys
    s.step = .reviewAndCreate → s.session.state.backingStorage.type = .localDevices →
    ∀ plan, s.planned = .ok plan →
      ∀ n ∈ plan.labelledNodes, n ∈ s.session.state.localVolumes.chartNodes := by
  intro hall
  obtain ⟨hr, ht, ⟨plan, hplan⟩, hstray⟩ := filtered_spec true
  obtain ⟨hchosen, hchart⟩ := hstray.mpr rfl
  refine hchart (hall {} .builtins fourDisks _ hr ht plan hplan "n4" ?_)
  rw [(labels_of_planned hplan ht).1]
  exact hchosen

end Screen
end StorageSetup
