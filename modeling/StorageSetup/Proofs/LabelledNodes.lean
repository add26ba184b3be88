import Mathlib.Data.List.Nodup
import StorageSetup.Proofs.Answered
import StorageSetup.Proofs.Disks
import StorageSetup.Proofs.PlanSteps
/-!
# Labelled nodes

A plan labels the nodes that the answers choose: those of their list in its order and as often as it
names them, or else on local devices the nodes of the volume set, or else those of an action. The
gate asks for a least number of entries. Entries are nodes of their own where nothing is listed
twice, and the nodes of the volume set never are.

Key definitions: `Plan.labelledNodes`, `Capacity.leastNodes`, `Session.chosenNames`.
Key theorems: `labelledNodes_of_replay`, `leastNodes_le_of_check`, `replay_labels_enough`.
-/

namespace StorageSetup

/-- The node that an operation labels. -/
def Operation.labelledNode? : Operation → Option String
  | labelNode node _ => some node
  | _ => none

/-- The names of the nodes that a plan labels, in order. -/
def Plan.labelledNodes (p : Plan) : List String :=
  p.operations.filterMap Operation.labelledNode?

/-- The least number of nodes of a cluster. -/
def Capacity.leastNodes (c : Capacity) : Nat :=
  if c.enableArbiter then arbiterMinimumNodes else minimumNodes

/-- The names of the nodes that answers with these actions choose. -/
def Session.chosenNames (w : Session) (a : Answers) (actions : List Action) (i : Inventory) :
    List String :=
  if !a.nodes.isEmpty then a.nodes
  else if w.usesLocalDevices && !(w.chartNodes i).isEmpty then (w.chartNodes i).map (·.name)
  else (reduceAll .initial actions).nodes.map (·.name)

/-! ### Labels of a plan -/

variable {s : State} {c : Context} {r : Registry} {config : Config}

theorem Operation.onNode_of_labelledNode {op : Operation} {n : String}
    (h : op.labelledNode? = some n) : op.onNode = true := by
  cases op with
  | labelNode _ _ => rfl
  | _ => cases h

theorem filterMap_filter_of_imp {α β : Type} {p : α → Bool} {f : α → Option β}
    (h : ∀ x b, f x = some b → p x = true) (l : List α) :
    (l.filter p).filterMap f = l.filterMap f := by
  rw [List.filterMap_filter]
  refine List.filterMap_congr fun x _ => ?_
  cases hf : f x with
  | none => split_ifs <;> rfl
  | some b => rw [if_pos (h x b hf)]

theorem filterMap_labelledNode_nodeOperations (s : State) :
    (nodeOperations s).filterMap Operation.labelledNode? = s.nodes.map (·.name) := by
  have hlabels : (s.nodes.map fun n => Operation.labelNode n.name storageLabels).filterMap
      Operation.labelledNode? = s.nodes.map (·.name) := by
    rw [List.filterMap_map]
    exact congrFun (List.filterMap_eq_map (f := Node.name)) s.nodes
  have htaints : (if s.capacity.enableTaint then
      s.nodes.map fun n => Operation.taintNode n.name .storage else []).filterMap
        Operation.labelledNode? = [] := by
    rw [List.filterMap_eq_nil_iff]
    intro op hop
    split_ifs at hop
    · obtain ⟨n, _, rfl⟩ := List.mem_map.mp hop
      rfl
    · cases hop
  unfold nodeOperations
  rw [List.filterMap_append, hlabels, htaints, List.append_nil]

/-- A plan with a cluster labels the chosen nodes. -/
theorem PlanParts.labelledNodes_eq (parts : PlanParts s c r config)
    (h : .capacityAndNodes ∈ stepNames s c r) :
    parts.plan.labelledNodes = s.nodes.map (·.name) := by
  unfold Plan.labelledNodes
  rw [← filterMap_filter_of_imp (fun _ _ => Operation.onNode_of_labelledNode),
    parts.filter_onNode_operations, if_pos (parts.capacity_mem_iff.mp h),
    filterMap_labelledNode_nodeOperations]

/-! ### The gate -/

theorem Gate.length_of_arbiter (h : Gate.arbiter s = .ok ()) :
    arbiterMinimumNodes ≤ s.nodes.length := by
  unfold Gate.arbiter at h
  simp only [check_bind_eq_ok_iff, require_eq_ok_iff, decide_eq_true_eq] at h
  exact h.2.1

/-- The gate asks for enough entries. -/
theorem leastNodes_le_of_check (h : Gate.capacityAndNodes s = .ok ()) :
    s.capacity.leastNodes ≤ s.nodes.length := by
  obtain ⟨hnodes, _, harbiter⟩ := Gate.capacityAndNodes_eq_ok_iff.mp h
  unfold Capacity.leastNodes
  split_ifs with ha
  · exact Gate.length_of_arbiter (harbiter ha)
  · exact hnodes

/-! ### The chosen nodes -/

namespace Answers

theorem name_of_findNode {inventory : List Node} {name : String} {n : Node}
    (h : findNode inventory name = .ok n) : n.name = name := by
  unfold findNode at h
  split at h
  · next m hm =>
    cases h
    exact beq_iff_eq.mp (List.find?_some (p := fun n : Node => n.name == name) hm)
  · cases h

/-- A list of names is resolved name by name. -/
theorem map_name_of_mapM {inventory : List Node} : ∀ {names : List String} {named : List Node},
    names.mapM (findNode inventory) = .ok named → named.map (·.name) = names
  | [], named, h => by
    cases h
    rfl
  | name :: names, named, h => by
    rw [List.mapM_cons] at h
    obtain ⟨n, hn, h⟩ := bind_eq_ok_iff.mp h
    obtain ⟨rest, hrest, h⟩ := bind_eq_ok_iff.mp h
    cases h
    rw [List.map_cons, name_of_findNode hn, map_name_of_mapM hrest]

end Answers

namespace Session

theorem nodes_chooseNodes (w : Session) (named : List Node) (i : Inventory) :
    (w.chooseNodes named i).state.nodes =
      if !named.isEmpty then named
      else if w.usesLocalDevices && !(w.chartNodes i).isEmpty then w.chartNodes i
      else w.state.nodes := by
  unfold chooseNodes
  cases named with
  | cons n named => rfl
  | nil =>
    cases hl : w.usesLocalDevices with
    | false => rfl
    | true =>
      cases hc : w.chartNodes i with
      | nil => simp
      | cons n nodes => simp; rfl

/-- The nodes of a volume set are nodes of the inventory, each once. -/
theorem nodup_chartNodes (w : Session) {i : Inventory} (hi : i.nodeNames.Nodup) :
    ((w.chartNodes i).map (·.name)).Nodup :=
  hi.sublist (List.filter_sublist.map _)

/-- Nothing is chosen twice that is not listed twice. -/
theorem nodup_chosenNames (w : Session) {a : Answers} {actions : List Action} {i : Inventory}
    (hi : i.nodeNames.Nodup) (ha : a.nodes.Nodup)
    (hactions : a.nodes = [] → ((reduceAll .initial actions).nodes.map (·.name)).Nodup) :
    (w.chosenNames a actions i).Nodup := by
  unfold chosenNames
  split_ifs with hn hc
  · exact ha
  · exact w.nodup_chartNodes hi
  · exact hactions (List.isEmpty_iff.mp (by simpa using hn))

end Session

open Session

variable {a : Answers} {i : Inventory} {w : Session} {plan : Plan}

theorem names_of_replay (h : replay (.new c r) a i config = .ok (w, plan)) :
    ∃ actions, a.decodeActions = .ok actions ∧
      w.state.nodes.map (·.name) = w.chosenNames a actions i := by
  obtain ⟨actions, named, followed, hactions, hnamed, hfollowed, hnodes, hsame⟩ := same_of_replay h
  refine ⟨actions, hactions, ?_⟩
  have hinitial : followed.state.nodes = (reduceAll .initial actions).nodes := by
    have hf : ((Session.new c r).dispatchAll actions).state.nodes = followed.state.nodes := by
      rw [hfollowed]
      exact same_followDisks _ i (x := .nodes) (by decide)
    rw [state_dispatchAll] at hf
    exact hf.symm
  have hempty : named.isEmpty = a.nodes.isEmpty := by
    rw [← Answers.map_name_of_mapM hnamed, List.isEmpty_map]
  have hlocal : followed.usesLocalDevices = w.usesLocalDevices := by
    unfold usesLocalDevices
    rw [show followed.state.backingStorage = _ from hsame .backingStorage (by decide)]
  have hchart : followed.chartNodes i = w.chartNodes i := by
    unfold Session.chartNodes
    rw [show followed.state.localVolumes = _ from hsame .localVolumes (by decide)]
  unfold chosenNames
  rw [hnodes, nodes_chooseNodes, hempty, hlocal, hchart, hinitial]
  split_ifs
  · exact Answers.map_name_of_mapM hnamed
  · rfl
  · rfl

/-- **A plan labels the nodes that the answers choose.** -/
theorem labelledNodes_of_replay (h : replay (.new c r) a i config = .ok (w, plan))
    (hs : .capacityAndNodes ∈ stepNames w.state c r) :
    ∃ actions, a.decodeActions = .ok actions ∧
      plan.labelledNodes = w.chosenNames a actions i := by
  obtain ⟨_, _, _, _, hplan⟩ := passed_of_replay h
  obtain ⟨parts, rfl⟩ := exists_planParts hplan
  rw [parts.labelledNodes_eq hs]
  exact names_of_replay h

/-- **A plan labels as many nodes as the gate asks for, each counted as often as it is listed**, and
as many different nodes where nothing is listed twice. -/
theorem replay_labels_enough (c : Context) (r : Registry) (a : Answers) (i : Inventory)
    (config : Config) {w : Session} {plan : Plan}
    (h : replay (.new c r) a i config = .ok (w, plan)) (hi : i.nodeNames.Nodup)
    (hs : .capacityAndNodes ∈ stepNames w.state c r) :
    ∃ actions, a.decodeActions = .ok actions ∧
      plan.labelledNodes = w.chosenNames a actions i ∧
      w.state.capacity.leastNodes ≤ plan.labelledNodes.length ∧
      (a.nodes.Nodup →
        (a.nodes = [] → ((reduceAll .initial actions).nodes.map (·.name)).Nodup) →
        w.state.capacity.leastNodes ≤ (NameSet.ofList plan.labelledNodes).size) := by
  obtain ⟨hp, hl, hcontext, hregistry, hplan⟩ := passed_of_replay h
  obtain ⟨actions, hactions, hlabelled⟩ := labelledNodes_of_replay h hs
  have hgate : checkStep .capacityAndNodes w.state w.registry = .ok () := by
    refine (checkBoth_eq_ok_iff.mp (hp.all_open hl _ ?_)).1
    unfold names
    rwa [hcontext, hregistry]
  have hleast : w.state.capacity.leastNodes ≤ plan.labelledNodes.length := by
    obtain ⟨parts, rfl⟩ := exists_planParts hplan
    rw [parts.labelledNodes_eq hs, List.length_map]
    exact leastNodes_le_of_check hgate
  refine ⟨actions, hactions, hlabelled, hleast, fun hnodes hchosen => ?_⟩
  have hnodup : plan.labelledNodes.Nodup := by
    rw [hlabelled]
    exact w.nodup_chosenNames hi hnodes hchosen
  rw [NameSet.size_ofList hnodup]
  exact hleast

theorem replay_labels_enough_threeDisks : ∃ w plan,
    replay (.new {} .builtins) (.localGateway "localblock") .threeDisks {} = .ok (w, plan) ∧
    Inventory.threeDisks.nodeNames.Nodup ∧
    .capacityAndNodes ∈ stepNames w.state {} .builtins ∧
    ∃ actions, (Answers.localGateway "localblock").decodeActions = .ok actions ∧
      plan.labelledNodes = w.chosenNames (.localGateway "localblock") actions .threeDisks ∧
      w.state.capacity.leastNodes ≤ plan.labelledNodes.length ∧
      (Answers.localGateway "localblock").nodes.Nodup ∧
      ((reduceAll .initial actions).nodes.map (·.name)).Nodup ∧
      w.state.capacity.leastNodes ≤ (NameSet.ofList plan.labelledNodes).size := by
  obtain ⟨w, plan, h, hs⟩ : ∃ w plan,
      replay (.new {} .builtins) (.localGateway "localblock") .threeDisks {} = .ok (w, plan) ∧
      .capacityAndNodes ∈ stepNames w.state {} .builtins := ⟨_, _, rfl, by decide⟩
  have hi : Inventory.threeDisks.nodeNames.Nodup := by decide
  obtain ⟨actions, hactions, hlabelled, hleast, hdifferent⟩ :=
    replay_labels_enough {} .builtins (.localGateway "localblock") .threeDisks {} h hi hs
  have hnodes : (Answers.localGateway "localblock").nodes.Nodup := by decide
  -- the actions of the answers list no nodes
  have hchosen : ((reduceAll .initial actions).nodes.map (·.name)).Nodup := by
    cases hactions
    decide
  exact ⟨w, plan, h, hi, hs, actions, hactions, hlabelled, hleast, hnodes, hchosen,
    hdifferent hnodes fun _ => hchosen⟩

/-! ### One node listed three times -/

/-- Answers for the object gateway alone on an existing class, with a list of nodes. -/
def Answers.gatewayOn (nodes : List String) : Answers where
  nodes
  actions := [Action.setStorageClass ⟨"gp3", "ebs.csi.aws.com"⟩, .setDeployment .mcg].map
    Action.toJson

/-- The least number of nodes is not always one of different nodes. -/
theorem not_replay_labels_different : ¬ ∀ (a : Answers) (i : Inventory) (config : Config)
    (w : Session) (plan : Plan), replay (.new {} .builtins) a i config = .ok (w, plan) →
      i.nodeNames.Nodup → .capacityAndNodes ∈ stepNames w.state {} .builtins →
      w.state.capacity.leastNodes ≤ (NameSet.ofList plan.labelledNodes).size := by
  intro hall
  obtain ⟨w, plan, h, hs, hlt⟩ : ∃ w plan,
      replay (.new {} .builtins) (.gatewayOn ["n1", "n1", "n1"]) .threeDisks {} = .ok (w, plan) ∧
      .capacityAndNodes ∈ stepNames w.state {} .builtins ∧
      (NameSet.ofList plan.labelledNodes).size < w.state.capacity.leastNodes :=
    ⟨_, _, rfl, by decide, by decide⟩
  exact absurd (hall _ _ _ w plan h (by decide) hs) (Nat.not_le.mpr hlt)

end StorageSetup
