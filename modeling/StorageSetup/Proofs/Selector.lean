import StorageSetup.Proofs.Answered
import StorageSetup.Proofs.Disks
import StorageSetup.Proofs.Resources
/-!
# The nodes that a volume set selects

The operator creates volumes on the nodes whose host name is a value of the selector. The values are
the names under which the disks were found, which are names of nodes. A node may carry another host
name, so the selected nodes are the nodes of the volume set only where host names lead to the same
nodes as names do.

Key definitions: `Payload.selectorValues`, `Payload.selectedNodes`.
Key theorems: `LocalVolumeForm.selectorValues_of_ok`, `selectedNodes_eq_chartNodes_iff`.
-/

namespace StorageSetup

/-! ### Selectors in resources -/

/-- The items at a path, none where there is no list. -/
def Json.itemsAt (path : List String) (v : Json) : List Json :=
  ((v.at? path).bind Json.items?).getD []

namespace Payload

/-- The values that the selector of a volume set asks a label to be one of. -/
def selectorValues (p : Payload) (label : String) : List String :=
  let terms := p.body.itemsAt ["spec", "nodeSelector", "nodeSelectorTerms"]
  let expressions := (terms.flatMap (Json.itemsAt ["matchExpressions"])).filter fun e =>
    (e.at? ["key"]).bind Json.string? == some label
  expressions.flatMap fun e => (e.itemsAt ["values"]).filterMap Json.string?

/-- The nodes of an inventory whose host name the selector lists. -/
def selectedNodes (p : Payload) (i : Inventory) : List Node :=
  i.nodes.filter fun n => (p.selectorValues hostnameLabel).contains n.hostName

end Payload

/-- The selector lists the names of the nodes with matching disks. -/
theorem LocalVolumeForm.selectorValues_of_ok {f : LocalVolumeForm} {namespaceName : String}
    {p : Payload} (h : f.payload? namespaceName = .ok p) :
    p.selectorValues hostnameLabel = f.chartNodes.names := by
  have hvalues : (f.chartNodes.names.map Json.str).filterMap Json.string? = f.chartNodes.names := by
    rw [List.filterMap_map]
    exact List.filterMap_some
  unfold payload? at h
  dsimp only at h
  split_ifs at h
  cases h
  unfold Payload.selectorValues Json.itemsAt
  rw [Payload.at?_spec]
  cases readPositive? f.maxDiskLimit with
  | none => exact (List.append_nil _).trans hvalues
  | some n => exact (List.append_nil _).trans hvalues

/-! ### Lists of nodes -/

theorem filter_eq_filter_iff {α : Type} {l : List α} {p q : α → Bool} :
    l.filter p = l.filter q ↔ ∀ x ∈ l, (p x = true ↔ q x = true) := by
  constructor
  · intro h x hx
    have hp : x ∈ l.filter p ↔ x ∈ l.filter q := by rw [h]
    simpa only [List.mem_filter, hx, true_and] using hp
  · intro h
    exact List.filter_congr fun x hx => Bool.eq_iff_iff.mpr (h x hx)

/-- Where the entries that pass one test pass another as well, and these are no more, the tests
agree. -/
theorem filter_eq_filter_of_length_le {α : Type} {l : List α} {p q : α → Bool}
    (h : ∀ x ∈ l, p x = true → q x = true) (hle : (l.filter q).length ≤ (l.filter p).length) :
    l.filter p = l.filter q := by
  have hsub : (l.filter p).Sublist (l.filter q) := by
    have hp : (l.filter q).filter p = l.filter p := by
      rw [List.filter_filter]
      refine List.filter_congr fun x hx => ?_
      cases hpx : p x
      · rfl
      · rw [h x hx hpx]
        rfl
    rw [← hp]
    exact List.filter_sublist
  exact hsub.eq_of_length_le hle

/-! ### Selected nodes -/

section

variable {w : Session} {i : Inventory} {namespaceName : String} {p : Payload}

theorem Payload.selectedNodes_of_ok
    (h : w.state.localVolumes.payload? namespaceName = .ok p) : p.selectedNodes i =
      i.nodes.filter fun n => w.state.localVolumes.chartNodes.contains n.hostName := by
  unfold selectedNodes
  rw [LocalVolumeForm.selectorValues_of_ok h]
  rfl

/-- As many nodes are selected as there are names in the volume set, or fewer. -/
theorem length_filter_hostName_le (s : NameSet) (hh : (i.nodes.map (·.hostName)).Nodup) :
    (i.nodes.filter fun n => s.contains n.hostName).length ≤ s.size := by
  rw [← List.length_map (f := Node.hostName)]
  refine NameSet.length_le_size (hh.sublist (List.filter_sublist.map _)) fun name hname => ?_
  obtain ⟨n, hn, rfl⟩ := List.mem_map.mp hname
  exact NameSet.contains_iff.mp (List.mem_filter.mp hn).2

/-- A volume set whose nodes are all in the inventory has no more names than nodes. -/
theorem size_le_length_chartNodes (h : ∀ n ∈ w.state.localVolumes.chartNodes, n ∈ i.nodeNames) :
    w.state.localVolumes.chartNodes.size ≤ (w.chartNodes i).length := by
  rw [← List.length_map (f := Node.name)]
  refine NameSet.size_le_length fun name hname => ?_
  obtain ⟨n, hn, rfl⟩ := List.mem_map.mp (h name hname)
  exact List.mem_map_of_mem (List.mem_filter.mpr ⟨hn, NameSet.contains_iff.mpr hname⟩)

end

/-- **The selected nodes are those of the volume set exactly where every node has its host name in
the set when it has its name there, and only then.** Where the form offers nodes of the inventory
only, it is enough to ask the nodes of the set: their host names then use up all its names. -/
theorem selectedNodes_eq_chartNodes_iff (w : Session) (i : Inventory) {namespaceName : String}
    {p : Payload} (hh : (i.nodes.map (·.hostName)).Nodup)
    (h : (w.refreshLocalVolumes i.nodeNames i.devices).state.localVolumes.payload? namespaceName =
      .ok p) :
    let refreshed := w.refreshLocalVolumes i.nodeNames i.devices
    let chart := refreshed.state.localVolumes.chartNodes
    (p.selectedNodes i = refreshed.chartNodes i ↔
      ∀ n ∈ i.nodes, n.hostName ∈ chart ↔ n.name ∈ chart) ∧
    ((∀ n ∈ w.state.localVolumes.candidates i.nodeNames, n ∈ i.nodeNames) →
      (p.selectedNodes i = refreshed.chartNodes i ↔
        ∀ n ∈ refreshed.chartNodes i, n.hostName ∈ chart)) := by
  intro refreshed chart
  have hselected := Payload.selectedNodes_of_ok (i := i) h
  have hiff : p.selectedNodes i = refreshed.chartNodes i ↔
      ∀ n ∈ i.nodes, n.hostName ∈ chart ↔ n.name ∈ chart := by
    rw [hselected]
    unfold Session.chartNodes
    simp only [filter_eq_filter_iff, NameSet.contains_iff]
    rfl
  refine ⟨hiff, fun hcandidates => ⟨fun he n hn => ?_, fun hchart => ?_⟩⟩
  · obtain ⟨hn, hname⟩ := List.mem_filter.mp hn
    exact (hiff.mp he n hn).mpr (NameSet.contains_iff.mp hname)
  · have hnames : ∀ n ∈ chart, n ∈ i.nodeNames := by
      intro n hn
      have hn' : n ∈ w.state.localVolumes.matchingNodes i.nodeNames i.devices := hn
      exact hcandidates n (LocalVolumeForm.mem_matchingNodes.mp hn').1
    rw [hselected]
    refine (filter_eq_filter_of_length_le (fun n hn hname => ?_) ?_).symm
    · exact NameSet.contains_iff.mpr (hchart n (List.mem_filter.mpr ⟨hn, hname⟩))
    · exact Nat.le_trans (length_filter_hostName_le _ hh) (size_le_length_chartNodes hnames)

/-! ### Host names with a domain -/

/-- Three nodes with a disk each, whose host names carry a domain. -/
def Inventory.threeHosts : Inventory :=
  { Inventory.threeDisks with
    nodes := ["n1", "n2", "n3"].map fun n => { name := n, hostName := n ++ ".example.com" } }

/-- A session with a name for its volume set. -/
def Session.withVolumeSet (name : String) : Session :=
  (Session.new {} .builtins).dispatch (.setLocalVolumes (.name name))

/-- A session whose volume set follows the disks of these nodes. -/
def Session.onThreeHosts : Session :=
  (Session.withVolumeSet "localblock").refreshLocalVolumes Inventory.threeHosts.nodeNames
    Inventory.threeHosts.devices

theorem selectedNodes_eq_chartNodes_iff_threeHosts : ∃ p,
    (Inventory.threeHosts.nodes.map (·.hostName)).Nodup ∧
    Session.onThreeHosts.state.localVolumes.payload? "openshift-local-storage" = .ok p ∧
    (∀ n ∈ (Session.withVolumeSet "localblock").state.localVolumes.candidates
      Inventory.threeHosts.nodeNames, n ∈ Inventory.threeHosts.nodeNames) ∧
    (p.selectedNodes .threeHosts = Session.onThreeHosts.chartNodes .threeHosts ↔
      ∀ n ∈ Session.onThreeHosts.chartNodes .threeHosts,
        n.hostName ∈ Session.onThreeHosts.state.localVolumes.chartNodes) := by
  obtain ⟨p, h⟩ : ∃ p, Session.onThreeHosts.state.localVolumes.payload?
      "openshift-local-storage" = .ok p := ⟨_, rfl⟩
  have hh : (Inventory.threeHosts.nodes.map (·.hostName)).Nodup := by decide
  have hc : ∀ n ∈ (Session.withVolumeSet "localblock").state.localVolumes.candidates
      Inventory.threeHosts.nodeNames, n ∈ Inventory.threeHosts.nodeNames := fun _ hn => hn
  exact ⟨p, hh, h, hc,
    (selectedNodes_eq_chartNodes_iff (.withVolumeSet "localblock") .threeHosts hh h).2 hc⟩

/-- The selected nodes are not always those of the volume set. -/
theorem not_selectedNodes_eq_chartNodes : ¬ ∀ (w : Session) (i : Inventory)
    (namespaceName : String) (p : Payload), i.nodeNames.Nodup →
      (i.nodes.map (·.hostName)).Nodup →
      (w.refreshLocalVolumes i.nodeNames i.devices).state.localVolumes.payload? namespaceName =
        .ok p →
      p.selectedNodes i = (w.refreshLocalVolumes i.nodeNames i.devices).chartNodes i := by
  intro hall
  obtain ⟨p, h, hne⟩ : ∃ p,
      Session.onThreeHosts.state.localVolumes.payload? "openshift-local-storage" = .ok p ∧
      (p.selectedNodes .threeHosts).map (·.name) ≠
        (Session.onThreeHosts.chartNodes .threeHosts).map (·.name) := ⟨_, rfl, by decide⟩
  exact hne (congrArg _ (hall (.withVolumeSet "localblock") .threeHosts _ p (by decide)
    (by decide) h))

end StorageSetup
