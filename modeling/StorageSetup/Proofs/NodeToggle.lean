import Mathlib.Data.Finset.Dedup
import Mathlib.Data.Finset.Erase
import Mathlib.Data.Finset.Insert
import Mathlib.Data.Finset.Lattice.Basic
import StorageSetup.Proofs.Answered
import StorageSetup.Proofs.Press
/-!
# Choosing nodes one by one

The row of a node toggles the node in the selection. The selection is built anew from the inventory
each time, so it lists nodes of the inventory in its order and none twice, and what it holds is a set
of names: the old one inside the inventory, with the node put in or taken out.

Key definitions: `namesOf`, `toggle`, `Form.nodeRow`, `State.toggled`.
Key theorems: `Form.toggledNodes_eq`, `namesOf_toggled`, `Screen.nodes_press_nodeRow`,
`State.toggled_spec`.
-/

namespace StorageSetup

/-- The names of the nodes. -/
def namesOf (nodes : List Node) : Finset String :=
  (nodes.map (·.name)).toFinset

/-- The set with the element put in, or taken out where it was in it. -/
def toggle (x : String) (names : Finset String) : Finset String :=
  if x ∈ names then names.erase x else insert x names

section

variable {x y : String} {names all : Finset String} {nodes : List Node}

@[simp] theorem mem_namesOf : x ∈ namesOf nodes ↔ ∃ m ∈ nodes, m.name = x := by
  simp [namesOf]

theorem mem_toggle_self : x ∈ toggle x names ↔ x ∉ names := by
  unfold toggle
  split_ifs with h <;> simp [h]

theorem mem_toggle_of_ne (hne : y ≠ x) : y ∈ toggle x names ↔ y ∈ names := by
  unfold toggle
  split_ifs <;> simp [hne]

theorem toggle_toggle (x : String) (names : Finset String) : toggle x (toggle x names) = names := by
  ext y
  rcases eq_or_ne y x with rfl | hne
  · rw [mem_toggle_self, mem_toggle_self, not_not]
  · rw [mem_toggle_of_ne hne, mem_toggle_of_ne hne]

theorem toggle_comm (x y : String) (names : Finset String) :
    toggle x (toggle y names) = toggle y (toggle x names) := by
  rcases eq_or_ne x y with rfl | hxy
  · rfl
  ext z
  rcases eq_or_ne z x with rfl | hx
  · rw [mem_toggle_self, mem_toggle_of_ne hxy, mem_toggle_of_ne hxy, mem_toggle_self]
  rw [mem_toggle_of_ne hx]
  rcases eq_or_ne z y with rfl | hy
  · rw [mem_toggle_self, mem_toggle_self, mem_toggle_of_ne hx]
  · rw [mem_toggle_of_ne hy, mem_toggle_of_ne hy, mem_toggle_of_ne hx]

/-- Among the elements of a set a toggle does not see what is outside it. -/
theorem mem_toggle_inter_iff (hy : y ∈ all) :
    y ∈ toggle x (names ∩ all) ↔ y ∈ toggle x names := by
  rcases eq_or_ne y x with rfl | hne
  · rw [mem_toggle_self, mem_toggle_self, Finset.mem_inter, and_iff_left hy]
  · rw [mem_toggle_of_ne hne, mem_toggle_of_ne hne, Finset.mem_inter, and_iff_left hy]

theorem toggle_inter (hx : x ∈ all) : toggle x names ∩ all = toggle x (names ∩ all) := by
  ext y
  by_cases hy : y ∈ all
  · rw [Finset.mem_inter, mem_toggle_inter_iff hy, and_iff_left hy]
  · have hne : y ≠ x := fun h => hy (h ▸ hx)
    rw [Finset.mem_inter, mem_toggle_of_ne hne, mem_toggle_of_ne hne, Finset.mem_inter]

end

namespace Form

/-- The nodes of the inventory that have one of the names. -/
def nodesNamed (i : Inventory) (names : Finset String) : List Node :=
  i.nodes.filter (·.name ∈ names)

variable {i : Inventory} {s : State} {n : Node} {names : Finset String}

/-- **The new selection is that of the toggled names.** -/
theorem toggledNodes_eq (chosen : List Node) (n : Node) (i : Inventory) :
    toggledNodes chosen n i = nodesNamed i (toggle n.name (namesOf chosen)) := by
  refine List.filter_congr fun m _ => ?_
  have hchosen (name : String) : chosen.any (·.name == name) = decide (name ∈ namesOf chosen) := by
    rw [Bool.eq_iff_iff, List.any_eq_true, decide_eq_true_eq, mem_namesOf]
    simp only [beq_iff_eq]
  dsimp only
  rw [hchosen, hchosen]
  by_cases hm : m.name = n.name
  · rw [if_pos (beq_iff_eq.mpr hm), hm, ← decide_not]
    exact decide_eq_decide.mpr mem_toggle_self.symm
  · rw [if_neg (mt beq_iff_eq.mp hm)]
    exact decide_eq_decide.mpr (mem_toggle_of_ne hm).symm

theorem namesOf_nodesNamed (i : Inventory) (names : Finset String) :
    namesOf (nodesNamed i names) = names ∩ namesOf i.nodes := by
  ext x
  simp only [mem_namesOf, nodesNamed, List.mem_filter, decide_eq_true_eq, Finset.mem_inter]
  constructor
  · rintro ⟨m, ⟨hm, hname⟩, rfl⟩
    exact ⟨hname, m, hm, rfl⟩
  · rintro ⟨hname, m, hm, rfl⟩
    exact ⟨m, ⟨hm, hname⟩, rfl⟩

/-- A toggle behind another one: the names outside the inventory, which the first has dropped, do
not matter. -/
theorem toggledNodes_nodesNamed (n : Node) (i : Inventory) (names : Finset String) :
    toggledNodes (nodesNamed i names) n i = nodesNamed i (toggle n.name names) := by
  rw [toggledNodes_eq, namesOf_nodesNamed]
  refine List.filter_congr fun m hm => decide_eq_decide.mpr (mem_toggle_inter_iff ?_)
  exact mem_namesOf.mpr ⟨m, hm, rfl⟩

/-- The row that chooses a node or leaves it out. -/
def nodeRow (s : State) (i : Inventory) (n : Node) : Row :=
  Row.option "Node" (s.nodes.any (·.name == n.name)) (nodeSummary n)
    (.setNodes (toggledNodes s.nodes n i))

/-- The form has a row for each node that can be chosen. -/
theorem nodeRow_mem_capacityRows (hn : n ∈ candidateNodes s i) :
    nodeRow s i n ∈ capacityRows s i := by
  unfold capacityRows
  exact List.mem_append_left _ (List.mem_append_right _ (List.mem_map_of_mem hn))

end Form

/-- The settings with a node toggled in the selection. -/
def State.toggled (s : State) (i : Inventory) (n : Node) : State :=
  { s with nodes := Form.toggledNodes s.nodes n i }

theorem Form.reduceAll_of_nodeRow {s : State} {i : Inventory} {n : Node} {actions : List Action}
    (h : (nodeRow s i n).Makes actions) : reduceAll s actions = s.toggled i n := by
  obtain rfl : [Action.setNodes (toggledNodes s.nodes n i)] = actions := h
  rfl

/-- Enter on the row of a node toggles it. -/
theorem Screen.nodes_press_nodeRow {s : Screen} {i : Inventory} {n : Node} (files : Files)
    (hi : s.inventoryOrEmpty = i) (hediting : s.editing = none) (hidle : s.submission = .idle)
    (hrow : s.selectedRow? = some (Form.nodeRow s.session.state i n)) :
    (s.press files .enter).1.session.state.nodes = (s.session.state.toggled i n).nodes := by
  subst hi
  have hpress : (s.press files .enter).1 = s.activate.1 := by
    unfold press
    rw [hediting, hidle]
    rfl
  have hactivate : s.activate.1 = s.dispatch
      [.setNodes (Form.toggledNodes s.session.state.nodes n s.inventoryOrEmpty)] := by
    unfold activate
    rw [hrow]
    rfl
  rw [hpress, hactivate]
  unfold dispatch clampSelection
  rw [refreshLocalVolumes_eq]
  show ((s.session.dispatchAll _).following s.inventory.value?).state.nodes = _
  cases s.inventory.value? with
  | none => rfl
  | some i => exact ((Session.dispatchAll _ _).same_followDisks i (x := .nodes) (by decide)).symm

/-- **A node is toggled as an element of a set.** Where the nodes of the inventory have distinct
names, the row of a node leaves nodes of the inventory in its order, none twice, and their names are
the old ones inside the inventory with that of the node put in or taken out. Toggled twice the node
is where it was, and two nodes can be toggled in either order. -/
theorem State.toggled_spec (i : Inventory) (hi : i.nodeNames.Nodup) (s : State) (n : Node)
    (hn : n ∈ i.nodes) :
    (n ∈ Form.candidateNodes s i → Form.nodeRow s i n ∈ Form.capacityRows s i) ∧
    (∀ actions, (Form.nodeRow s i n).Makes actions → reduceAll s actions = s.toggled i n) ∧
    (∀ (screen : Screen) (files : Files), screen.session.state = s →
      screen.inventoryOrEmpty = i → screen.editing = none → screen.submission = .idle →
      screen.selectedRow? = some (Form.nodeRow s i n) →
      (screen.press files .enter).1.session.state.nodes = (s.toggled i n).nodes) ∧
    ((s.toggled i n).nodes.map (·.name)).Nodup ∧
    (s.toggled i n).nodes.Sublist i.nodes ∧
    (namesOf (s.toggled i n).nodes =
      if n.name ∈ namesOf s.nodes then (namesOf s.nodes ∩ namesOf i.nodes).erase n.name
      else insert n.name (namesOf s.nodes ∩ namesOf i.nodes)) ∧
    namesOf ((s.toggled i n).toggled i n).nodes = namesOf s.nodes ∩ namesOf i.nodes ∧
    ∀ m, (s.toggled i n).toggled i m = (s.toggled i m).toggled i n := by
  have hname : n.name ∈ namesOf i.nodes := mem_namesOf.mpr ⟨n, hn, rfl⟩
  have hsublist : (s.toggled i n).nodes.Sublist i.nodes := List.filter_sublist
  -- the selection behind two toggles, by its names
  have htwice (m k : Node) : ((s.toggled i m).toggled i k).nodes =
      Form.nodesNamed i (toggle k.name (toggle m.name (namesOf s.nodes))) := by
    show Form.toggledNodes (Form.toggledNodes s.nodes m i) k i = _
    rw [Form.toggledNodes_eq s.nodes, Form.toggledNodes_nodesNamed]
  refine ⟨Form.nodeRow_mem_capacityRows, fun _ => Form.reduceAll_of_nodeRow, ?_,
    (hsublist.map _).nodup hi, hsublist, ?_, ?_, fun m => ?_⟩
  · rintro screen files rfl hinventory hediting hidle hrow
    exact screen.nodes_press_nodeRow files hinventory hediting hidle hrow
  · have hold : n.name ∈ namesOf s.nodes ∩ namesOf i.nodes ↔ n.name ∈ namesOf s.nodes := by
      rw [Finset.mem_inter, and_iff_left hname]
    show namesOf (Form.toggledNodes s.nodes n i) = _
    rw [Form.toggledNodes_eq, Form.namesOf_nodesNamed, toggle_inter hname, toggle]
    exact if_congr hold rfl rfl
  · rw [htwice, toggle_toggle, Form.namesOf_nodesNamed]
  · have hnodes : ((s.toggled i n).toggled i m).nodes = ((s.toggled i m).toggled i n).nodes := by
      rw [htwice, htwice, toggle_comm]
    exact congrArg (fun nodes => { s with nodes }) hnodes

/-- Three nodes. -/
def Inventory.threeNodes : Inventory where
  nodes := [{ name := "a" }, { name := "b" }, { name := "c" }]

/-- The last of three nodes and one that is gone are chosen. -/
def State.lastAndGone : State :=
  { State.initial with nodes := [{ name := "gone" }, { name := "c" }] }

/-- The node in the middle is put between the others, and what is gone is dropped. -/
theorem State.toggled_spec_middle : Inventory.threeNodes.nodeNames.Nodup ∧
    { name := "b" } ∈ Inventory.threeNodes.nodes ∧
    (lastAndGone.toggled .threeNodes { name := "b" }).nodes.map (·.name) = ["b", "c"] ∧
    namesOf ((lastAndGone.toggled .threeNodes { name := "b" }).toggled .threeNodes
      { name := "b" }).nodes = {"c"} := by
  have hi : Inventory.threeNodes.nodeNames.Nodup := by decide
  have hn : { name := "b" } ∈ Inventory.threeNodes.nodes := .tail _ (.head _)
  obtain ⟨_, _, _, _, _, _, htwice, _⟩ := toggled_spec .threeNodes hi lastAndGone _ hn
  exact ⟨hi, hn, by decide, htwice.trans (by decide)⟩

end StorageSetup
