import StorageSetup.Proofs.Session
/-!
# Settings behind the session

Gates are passed when a step is left. What they saw can change afterwards in one way only: the nodes
with matching disks follow the disks of the cluster, so the number of them that the gate of the
volume set asked for can be lost. Every other condition of the steps behind a session holds on,
whatever is done to it.

Key definitions: `checkSettings`, `Session.Behind`, `Session.Charted`.
Key theorems: `Session.behind_dispatchAll`, `Session.behind_refreshLocalVolumes`,
`Session.behind_advance`, `Session.behind_setContext`.
-/

namespace StorageSetup

/-- The gate of a step but for the number of nodes with matching disks. -/
def checkSettings (n : StepName) (s : State) (r : Registry) : Check :=
  if n = .createLocalVolumeSet then Gate.volumeSettings s else checkStep n s r

/-- The whole gate of a step is that of its settings and, for the volume set, enough nodes. -/
theorem checkStep_eq_ok_iff {n : StepName} {s : State} {r : Registry} :
    checkStep n s r = .ok () ↔ checkSettings n s r = .ok () ∧
      (n = .createLocalVolumeSet → minimumNodes ≤ s.localVolumes.chartNodes.size) := by
  by_cases hn : n = .createLocalVolumeSet
  · subst hn
    simp only [checkSettings, if_true, forall_const]
    exact Gate.localVolumeSet_eq_ok_iff
  · simp only [checkSettings, hn, if_false, false_implies, and_true]

/-- The gate of the settings depends on the slices the gate reads. -/
theorem checkSettings_congr {n : StepName} {s t : State} (r : Registry)
    (h : ∀ x ∈ n.reads, x.Same s t) : checkSettings n s r = checkSettings n t r := by
  unfold checkSettings
  split_ifs with hn
  · subst hn
    have hl : s.localVolumes = t.localVolumes := h .localVolumes (by decide)
    unfold Gate.volumeSettings
    rw [hl]
  · exact checkStep_congr r h

/-- Neither the nodes with matching disks nor the number of volumes are among the settings. -/
theorem checkSettings_setChartNodes (n : StepName) (s : State) (r : Registry) (nodes : NameSet) :
    checkSettings n (reduce s (.setLocalVolumes (.chartNodes nodes))) r = checkSettings n s r := by
  cases n <;> rfl

theorem checkSettings_setPvCount (n : StepName) (s : State) (r : Registry) (count : UInt32) :
    checkSettings n (reduce s (.setPvCount count)) r = checkSettings n s r := by
  cases n <;> rfl

namespace Session

/-- The settings of the steps behind the session are complete. -/
def Behind (w : Session) : Prop :=
  ∀ n ∈ w.names.take w.current, checkSettings n w.state w.registry = .ok ()

/-- Once the step of the volume set is behind, enough nodes have matching disks. -/
def Charted (w : Session) : Prop :=
  w.state.backingStorage.type = .localDevices → 1 < w.current →
    minimumNodes ≤ w.state.localVolumes.chartNodes.size

variable {w : Session}

theorem behind_of_start (h : w.current = 0) : w.Behind := by
  intro n hn
  rw [h] at hn
  cases hn

/-- The volume set is behind a session on local devices from its third step on. -/
theorem volumeSet_mem_behind (ht : w.state.backingStorage.type = .localDevices)
    (h1 : 1 < w.current) : .createLocalVolumeSet ∈ w.names.take w.current := by
  have h3 := Flow.three_lt_length_local w.state.backingStorage.deployment
    w.context.hasMultipleClusters
  have hv :=
    (Flow.volumeSet_iff_second _ _ 1 (Nat.lt_of_le_of_lt (by decide) h3)).mpr ⟨⟨_, rfl⟩, rfl⟩
  have hn : w.names = (Flow.internal true w.state.backingStorage.deployment).visible
      w.context.hasMultipleClusters := by
    unfold names stepNames
    rw [Flow.of_local _ _ ht, Flow.steps_eq_visible]
  rw [← hn] at hv
  exact mem_take_of_getElem? hv h1

theorem type_of_volumeSet_mem (h : .createLocalVolumeSet ∈ w.names) :
    w.state.backingStorage.type = .localDevices := by
  obtain ⟨i, hi⟩ := List.mem_iff_getElem?.mp h
  have hlt := (List.getElem?_eq_some_iff.mp hi).1
  obtain ⟨⟨d, hd⟩, _⟩ := (Flow.volumeSet_iff_second _ _ i hlt).mp hi
  exact Flow.type_of_local hd

/-- On local devices the review stands behind the volume set. -/
theorem one_lt_of_review (hb : w.InBounds) (hr : w.currentStep.name = .reviewAndCreate)
    (ht : w.state.backingStorage.type = .localDevices) : 1 < w.current := by
  have hl := (isLastStep_iff w).mp ((review_iff_isLastStep hb).mp hr)
  have h3 : 3 < w.names.length := three_lt_length_names ht
  omega

/-! ### Editing the current step -/

theorem names_reduceAll (w : Session) {actions : List Action}
    (h : ∀ a ∈ actions, .backingStorage ∉ a.writes) :
    names { w with state := reduceAll w.state actions } = w.names :=
  (stepNames_congr _ _ (reduceAll_same actions w.state h)).symm

theorem dispatchAll_of_not_writes : ∀ (actions : List Action) {w : Session}, w.InBounds →
    (∀ a ∈ actions, .backingStorage ∉ a.writes) →
    w.dispatchAll actions = { w with state := reduceAll w.state actions }
  | [], _, _, _ => rfl
  | a :: actions, w, hb, h => by
    have ha : .backingStorage ∉ a.writes := h a List.mem_cons_self
    have hb' : InBounds { w with state := reduce w.state a } := inBounds_reduce hb ha
    show (w.dispatch a).dispatchAll actions = _
    rw [dispatch_of_not_writes hb ha,
      dispatchAll_of_not_writes actions hb' fun b hm => h b (List.mem_cons_of_mem _ hm)]
    rfl

/-- On a step behind the first, actions of its form write nothing that a gate behind it reads. -/
theorem not_mem_reads_of_edits (hb : w.InBounds) {m : StepName} (hm : m ∈ w.names.take w.current)
    {x : Slice} (hx : x ∈ w.currentStep.name.edits) : x ∉ m.reads :=
  Flow.not_mem_reads_of_edits _ _ w.current hb _ (getElem?_names_current hb) m hm x hx

/-- The backing storage is behind every step but the first. -/
theorem backing_mem_behind (h : 0 < w.current) : .backingStorage ∈ w.names.take w.current := by
  have h2 := w.length_names.1
  have hf := (Flow.backing_iff_first _ _ 0 (Nat.lt_of_lt_of_le Nat.two_pos h2)).mpr rfl
  exact mem_take_of_getElem? hf h

/-- Actions that write what the form of the current step edits. -/
def Edits (w : Session) (actions : List Action) : Prop :=
  ∀ a ∈ actions, a.writes ⊆ w.currentStep.name.edits

theorem Edits.not_writes {actions : List Action} (h : w.Edits actions) {x : Slice}
    (hx : x ∉ w.currentStep.name.edits) : ∀ a ∈ actions, x ∉ a.writes :=
  fun a ha hw => hx (h a ha hw)

/-- Behind the first step an edit keeps the place and the list of steps. -/
theorem dispatchAll_of_edits {actions : List Action} (hb : w.InBounds) (h0 : 0 < w.current)
    (h : w.Edits actions) :
    w.dispatchAll actions = { w with state := reduceAll w.state actions } := by
  refine dispatchAll_of_not_writes actions hb (h.not_writes fun hx => ?_)
  exact not_mem_reads_of_edits hb (backing_mem_behind h0) hx (by decide)

/-- An edit changes no gate behind the session. -/
theorem same_of_edits {actions : List Action} (hb : w.InBounds) (h : w.Edits actions)
    {m : StepName} (hm : m ∈ w.names.take w.current) :
    ∀ x ∈ m.reads, x.Same w.state (reduceAll w.state actions) :=
  fun _ hx => reduceAll_same actions w.state
    (h.not_writes fun hx' => not_mem_reads_of_edits hb hm hx' hx)

theorem inBounds_dispatchAll : ∀ (actions : List Action) {w : Session}, w.InBounds →
    (w.dispatchAll actions).InBounds
  | [], _, h => h
  | _ :: actions, _, _ => inBounds_dispatchAll actions (inBounds_clamp _)

theorem current_dispatchAll_of_start (actions : List Action) (h : w.current = 0) :
    (w.dispatchAll actions).current = 0 :=
  (AtStart.dispatchAll actions ⟨h, rfl, rfl⟩).current

theorem behind_dispatchAll {actions : List Action} (hb : w.InBounds) (hw : w.Behind)
    (h : w.Edits actions) : (w.dispatchAll actions).Behind := by
  rcases Nat.eq_zero_or_pos w.current with h0 | h0
  · exact behind_of_start (current_dispatchAll_of_start actions h0)
  · have hnames := names_reduceAll w (h.not_writes fun hx =>
      not_mem_reads_of_edits hb (backing_mem_behind h0) hx (by decide))
    rw [dispatchAll_of_edits hb h0 h]
    intro n hn
    rw [hnames] at hn
    rw [← checkSettings_congr w.registry (same_of_edits hb h hn)]
    exact hw n hn

/-- Behind the volume set an edit leaves its form alone. -/
theorem localVolumes_of_edits {actions : List Action} (hb : w.InBounds) (h : w.Edits actions)
    (ht : w.state.backingStorage.type = .localDevices) (h1 : 1 < w.current) :
    (reduceAll w.state actions).localVolumes = w.state.localVolumes :=
  (same_of_edits hb h (volumeSet_mem_behind ht h1) .localVolumes (by decide)).symm

theorem backingStorage_of_edits {actions : List Action} (hb : w.InBounds) (h : w.Edits actions)
    (h0 : 0 < w.current) : (reduceAll w.state actions).backingStorage = w.state.backingStorage :=
  (same_of_edits hb h (backing_mem_behind h0) .backingStorage (by decide)).symm

theorem charted_dispatchAll {actions : List Action} (hb : w.InBounds) (hw : w.Charted)
    (h : w.Edits actions) : (w.dispatchAll actions).Charted := by
  rcases Nat.eq_zero_or_pos w.current with h0 | h0
  · intro _ h1
    rw [current_dispatchAll_of_start actions h0] at h1
    exact absurd h1 (by decide)
  · rw [dispatchAll_of_edits hb h0 h]
    intro ht h1
    change (reduceAll w.state actions).backingStorage.type = _ at ht
    rw [backingStorage_of_edits hb h h0] at ht
    show _ ≤ (reduceAll w.state actions).localVolumes.chartNodes.size
    rw [localVolumes_of_edits hb h ht h1]
    exact hw ht h1

/-! ### Following the disks -/

section

variable (allNodes : List String) (devices : List Device)

/-- What follows the disks is the nodes with matching disks and the number of volumes. -/
theorem refreshLocalVolumes_eq (hb : w.InBounds) : ∃ count,
    w.refreshLocalVolumes allNodes devices = { w with
      state := reduce (reduce w.state (.setLocalVolumes (.chartNodes
        (w.state.localVolumes.matchingNodes allNodes devices)))) (.setPvCount count) } := by
  let nodes := w.state.localVolumes.matchingNodes allNodes devices
  let charted := { w.state.localVolumes with chartNodes := nodes }
  refine ⟨.ofNat (charted.matchingDevices devices).length, ?_⟩
  unfold refreshLocalVolumes
  dsimp only
  have hw : .backingStorage ∉ (Action.setLocalVolumes (.chartNodes
      (w.state.localVolumes.matchingNodes allNodes devices))).writes := by simp [Action.writes]
  rw [dispatch_of_not_writes hb hw]
  exact dispatch_of_not_writes (inBounds_reduce hb hw) (by simp [Action.writes])

theorem behind_refreshLocalVolumes (hb : w.InBounds) (hw : w.Behind) :
    (w.refreshLocalVolumes allNodes devices).Behind := by
  obtain ⟨count, he⟩ := refreshLocalVolumes_eq allNodes devices hb
  rw [he]
  intro n hn
  show checkSettings n (reduce (reduce _ _) _) _ = _
  rw [checkSettings_setPvCount, checkSettings_setChartNodes]
  exact hw n hn

end

/-! ### Moves -/

theorem localVolumes_advance (w : Session) :
    w.advance.state.localVolumes = w.state.localVolumes := by
  show w.leftState.localVolumes = _
  unfold leftState
  split_ifs <;> rfl

theorem checkSettings_advance (hb : w.InBounds) {n : StepName} (hn : n ∈ w.names)
    (h : checkSettings n w.state w.registry = .ok ()) :
    checkSettings n w.advance.state w.registry = .ok () := by
  unfold checkSettings at h ⊢
  split_ifs at h ⊢
  · unfold Gate.volumeSettings
    rw [localVolumes_advance]
    exact h
  · exact checkStep_advance hb hn h

theorem behind_advance (hb : w.InBounds) (hw : w.Behind)
    (hc : w.check w.currentStep.name = .ok ()) : w.advance.Behind := by
  intro n hn
  rcases (mem_behind_advance_iff hb).mp hn with hn | rfl
  · exact checkSettings_advance hb (List.mem_of_mem_take hn) (hw n hn)
  · exact checkSettings_advance hb (name_currentStep_mem hb)
      (checkStep_eq_ok_iff.mp (checkBoth_eq_ok_iff.mp hc).1).1

/-- Leaving the step of the volume set takes enough nodes. -/
theorem charted_advance (hb : w.InBounds) (hw : w.Charted)
    (hc : w.check w.currentStep.name = .ok ()) : w.advance.Charted := by
  intro ht h1
  rw [backingStorage_advance] at ht
  rw [current_advance] at h1
  rw [localVolumes_advance]
  by_cases hv : w.current = 1
  · have hname := (volumeSet_iff hb).mpr ⟨ht, hv⟩
    exact (checkStep_eq_ok_iff.mp (checkBoth_eq_ok_iff.mp hc).1).2 hname
  · exact hw ht (by omega)

theorem inBounds_back (hb : w.InBounds) : w.back.InBounds := by
  unfold InBounds at hb ⊢
  show w.current - 1 < w.names.length
  omega

theorem behind_back (hw : w.Behind) : w.back.Behind := by
  intro n hn
  change n ∈ w.names.take (w.current - 1) at hn
  exact hw n ((List.take_prefix_take_left (Nat.sub_le _ _)).subset hn)

theorem charted_back (hw : w.Charted) : w.back.Charted := by
  intro ht h1
  change 1 < w.current - 1 at h1
  exact hw ht (by omega)

theorem eq_of_jumpTo {id : UInt32} {jumped : Session} (h : w.jumpTo id = .ok jumped) :
    w.canJumpTo id = true ∧ jumped = { w with current := id.toNat - 1 } := by
  by_cases hj : w.canJumpTo id = true
  · rw [jumpTo_of_canJumpTo hj] at h
    exact ⟨hj, (Except.ok.inj h).symm⟩
  · unfold jumpTo at h
    rw [if_neg hj] at h
    cases h

theorem inBounds_jumpTo {id : UInt32} {jumped : Session} (h : w.jumpTo id = .ok jumped) :
    jumped.InBounds := by
  obtain ⟨hj, rfl⟩ := eq_of_jumpTo h
  obtain ⟨h1, h2, _, _⟩ := (canJumpTo_iff w id).mp hj
  show id.toNat - 1 < w.names.length
  omega

theorem behind_jumpTo {id : UInt32} {jumped : Session} (h : w.jumpTo id = .ok jumped) :
    jumped.Behind := by
  obtain ⟨hj, rfl⟩ := eq_of_jumpTo h
  obtain ⟨_, _, _, hopen⟩ := (canJumpTo_iff w id).mp hj
  intro n hn
  exact (checkStep_eq_ok_iff.mp (checkBoth_eq_ok_iff.mp (hopen n hn)).1).1

theorem charted_jumpTo {id : UInt32} {jumped : Session} (h : w.jumpTo id = .ok jumped) :
    jumped.Charted := by
  obtain ⟨hj, rfl⟩ := eq_of_jumpTo h
  obtain ⟨_, _, _, hopen⟩ := (canJumpTo_iff w id).mp hj
  intro ht h1
  have hmem : .createLocalVolumeSet ∈ w.names.take (id.toNat - 1) :=
    volumeSet_mem_behind (w := { w with current := id.toNat - 1 }) ht h1
  exact (checkStep_eq_ok_iff.mp (checkBoth_eq_ok_iff.mp (hopen _ hmem)).1).2 rfl

/-- Facts about the cluster put no step behind the session whose settings are not complete. -/
theorem behind_setContext (hb : w.InBounds) (hw : w.Behind) (c : Context) :
    (w.setContext c).Behind := by
  intro n hn
  rw [current_setContext] at hn
  rcases stepNames_take_of_context w.state w.context c w.registry hb hn with rfl | hn
  · rfl
  · exact hw n hn

end Session
end StorageSetup
