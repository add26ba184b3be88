import StorageSetup.Proofs.Replay
/-!
# From the answers to the plan

Going forward writes two slices only, the class that a volume set provides and the mark of the steps
reached. All else that a plan is made from is what the answers made of it: the actions come first,
then a volume set follows the disks, then the nodes are chosen.

Key definitions: `State.FollowsDisks`.
Key theorems: `Session.same_of_walks`, `same_of_replay`, `followsDisks_of_replay`.
-/

namespace StorageSetup
namespace Session

variable {w : Session}

/-! ### Going forward -/

/-- The slices that going forward writes. -/
def forwardWrites : List Slice :=
  [.stepMark, .storageClass]

theorem same_advance (w : Session) {x : Slice} (hx : x ∉ forwardWrites) :
    x.Same w.state w.advance.state := by
  have hleft : x.Same w.state w.leftState := by
    unfold leftState
    split_ifs
    · cases x <;> first | rfl | exact absurd (by decide) hx
    · exact Slice.Same.refl x _
  have hmark : x.Same w.leftState w.advance.state := by
    refine reduce_same w.leftState (.setStepIdReached _) fun h => hx ?_
    obtain rfl := List.mem_singleton.mp h
    decide
  exact hleft.trans hmark

/-- **The loop leaves all other slices.** -/
theorem same_of_walks {n : Nat} {result : Except NavigationError Session} (hw : Walks n w result)
    {x : Slice} (hx : x ∉ forwardWrites) :
    ∀ walked, result = .ok walked → x.Same w.state walked.state := by
  induction hw with
  | done _ =>
    rintro _ ⟨⟩
    exact Slice.Same.refl x _
  | refused _ _ => rintro _ ⟨⟩
  | move hl hn _ ih =>
    obtain ⟨rfl, _⟩ := eq_advance_of_next hl hn
    exact fun walked he => (same_advance _ hx).trans (ih walked he)

/-! ### The settings of the answers -/

theorem same_dispatch (w : Session) (a : Action) {x : Slice} (hx : x ∉ a.writes) :
    x.Same w.state (w.dispatch a).state :=
  reduce_same w.state a hx

theorem state_dispatchAll : ∀ (actions : List Action) (w : Session),
    (w.dispatchAll actions).state = reduceAll w.state actions
  | [], _ => rfl
  | a :: actions, w => state_dispatchAll actions (w.dispatch a)

/-- Choosing nodes writes nothing else. -/
theorem same_chooseNodes (w : Session) (named : List Node) (i : Inventory) {x : Slice}
    (hx : x ≠ .nodes) : x.Same w.state (w.chooseNodes named i).state := by
  unfold chooseNodes
  dsimp only
  generalize (if named.isEmpty && w.usesLocalDevices then w.chartNodes i else named) = nodes
  split_ifs
  · exact Slice.Same.refl x _
  · exact same_dispatch w (.setNodes nodes) fun h => hx (List.mem_singleton.mp h)

end Session

/-- Which nodes match does not depend on those that matched before. -/
theorem LocalVolumeForm.matchingNodes_chartNodes (f : LocalVolumeForm) (nodes : NameSet)
    (allNodes : List String) (devices : List Device) :
    (f.apply (.chartNodes nodes)).matchingNodes allNodes devices =
      f.matchingNodes allNodes devices := by
  unfold matchingNodes
  rfl

/-- The volume set has the nodes with matching disks, and the cluster may use as many volumes as
there are matching disks. -/
structure State.FollowsDisks (s : State) (i : Inventory) : Prop where
  chartNodes : s.localVolumes.chartNodes = s.localVolumes.matchingNodes i.nodeNames i.devices
  pvCount : s.capacity.pvCount = .ofNat (s.localVolumes.matchingDevices i.devices).length

namespace Session

variable {w : Session}

theorem localVolumes_refreshLocalVolumes (w : Session) (allNodes : List String)
    (devices : List Device) : (w.refreshLocalVolumes allNodes devices).state.localVolumes =
      w.state.localVolumes.apply
        (.chartNodes (w.state.localVolumes.matchingNodes allNodes devices)) :=
  rfl

theorem followsDisks_refreshLocalVolumes (w : Session) (i : Inventory) :
    (w.refreshLocalVolumes i.nodeNames i.devices).state.FollowsDisks i where
  chartNodes := by
    rw [localVolumes_refreshLocalVolumes, LocalVolumeForm.matchingNodes_chartNodes]
    rfl
  pvCount := by
    rw [localVolumes_refreshLocalVolumes]
    rfl

theorem followsDisks_followDisks (i : Inventory)
    (h : w.state.backingStorage.type = .localDevices) : (w.followDisks i).state.FollowsDisks i := by
  unfold followDisks usesLocalDevices
  rw [if_pos (by simpa using h)]
  exact followsDisks_refreshLocalVolumes w i

/-- Following the disks writes the volume set and the capacity. -/
theorem same_followDisks (w : Session) (i : Inventory) {x : Slice}
    (hx : x ∉ [Slice.localVolumes, .capacity]) : x.Same w.state (w.followDisks i).state := by
  unfold followDisks
  split_ifs
  · refine (same_dispatch w (.setLocalVolumes _) fun h => hx ?_).trans
      (same_dispatch _ (.setPvCount _) fun h => hx ?_)
    · exact List.mem_cons.mpr (.inl (List.mem_singleton.mp h))
    · exact List.mem_cons_of_mem _ h
  · exact Slice.Same.refl x _

end Session

open Session

/-! ### The settings of a plan -/

variable {c : Context} {r : Registry} {a : Answers} {i : Inventory} {config : Config} {w : Session}
  {plan : Plan}

/-- **A plan of answers is made from the settings of the answers**: the nodes are those chosen, the
class of a volume set and the mark of the steps reached come with the walk, and all else is as the
actions and the disks left it. -/
theorem same_of_replay (h : replay (.new c r) a i config = .ok (w, plan)) :
    ∃ actions named followed, a.decodeActions = .ok actions ∧ a.resolveNodes i.nodes = .ok named ∧
      followed = ((Session.new c r).dispatchAll actions).followDisks i ∧
      w.state.nodes = (followed.chooseNodes named i).state.nodes ∧
      ∀ x ∉ .nodes :: forwardWrites, x.Same followed.state w.state := by
  unfold replay Session.answer at h
  obtain ⟨answered, hanswer, h⟩ := bind_eq_ok_iff.mp h
  obtain ⟨actions, hactions, hanswer⟩ := bind_eq_ok_iff.mp hanswer
  obtain ⟨named, hnamed, hanswer⟩ := bind_eq_ok_iff.mp hanswer
  obtain ⟨walked, hwalk, h⟩ := bind_eq_ok_iff.mp h
  obtain ⟨_, _, h⟩ := bind_eq_ok_iff.mp h
  obtain ⟨rfl, rfl⟩ := Prod.mk.inj (Except.ok.inj h)
  obtain rfl := Except.ok.inj hanswer
  let followed := ((Session.new c r).dispatchAll actions).followDisks i
  have hstart : (followed.chooseNodes named i).current = 0 :=
    ((((atStart_new c r).dispatchAll actions).followDisks i).chooseNodes named i).current
  obtain ⟨n, result, hw⟩ := exists_walks _ _ (inBounds_of_start hstart) rfl
  have hsame : ∀ x ∉ forwardWrites, x.Same (followed.chooseNodes named i).state walked.state :=
    fun x hx => same_of_walks hw hx walked (hw.walkToEnd_eq.symm.trans (ok_of_mapError hwalk))
  refine ⟨actions, named, followed, ok_of_mapError hactions, ok_of_mapError hnamed, rfl,
    (hsame .nodes (by decide)).symm, fun x hx => ?_⟩
  rw [List.mem_cons, not_or] at hx
  exact (same_chooseNodes followed named i hx.1).trans (hsame x hx.2)

/-- On local devices the volume set of a plan follows the disks of the inventory. -/
theorem followsDisks_of_replay (h : replay (.new c r) a i config = .ok (w, plan))
    (ht : w.state.backingStorage.type = .localDevices) : w.state.FollowsDisks i := by
  obtain ⟨actions, _, followed, _, _, hfollowed, _, hsame⟩ := same_of_replay h
  have hb : followed.state.backingStorage = w.state.backingStorage :=
    hsame .backingStorage (by decide)
  have hl : followed.state.localVolumes = w.state.localVolumes := hsame .localVolumes (by decide)
  have hc : followed.state.capacity = w.state.capacity := hsame .capacity (by decide)
  have hf : followed.state.FollowsDisks i := by
    have hanswered : ((Session.new c r).dispatchAll actions).state.backingStorage =
        followed.state.backingStorage := by
      rw [hfollowed]
      exact same_followDisks _ i (x := .backingStorage) (by decide)
    rw [hfollowed]
    exact followsDisks_followDisks i (by rw [hanswered, hb, ht])
  exact ⟨by rw [← hl]; exact hf.chartNodes, by rw [← hl, ← hc]; exact hf.pvCount⟩

end StorageSetup
