import Mathlib.Tactic.Tauto
import StorageSetup.Proofs.Gate
/-!
# Moves of a session

A session inside its list of steps moves in three ways only: it stays on the last step, it is
refused at a closed gate, or it advances to the following step. Advancing marks the step reached,
and behind the volume set it takes the class that the volume set provides; it closes no gate and
keeps the list of steps.

Key definitions: `Session.names`, `Session.InBounds`, `Session.advance`.
Key theorems: `Session.next_cases`, `Session.eq_of_next`, `Session.check_advance`,
`Session.canJumpTo_iff`.
-/

namespace StorageSetup
namespace Session

/-- The names of the steps. -/
def names (w : Session) : List StepName :=
  stepNames w.state w.context w.registry

/-- The place of the session is a place of its list. -/
def InBounds (w : Session) : Prop :=
  w.current < w.names.length

variable {w : Session}

theorem length_steps (w : Session) : w.steps.length = w.names.length :=
  length_computeSteps _ _ _

theorem length_names (w : Session) : 2 ≤ w.names.length ∧ w.names.length ≤ 6 :=
  length_stepNames _ _ _

theorem three_lt_length_names (ht : w.state.backingStorage.type = .localDevices) :
    3 < w.names.length := by
  unfold names stepNames
  rw [Flow.of_local _ _ ht]
  exact Flow.three_lt_length_local _ _

/-- A session with the list of steps of another is within it where its place is. -/
theorem inBounds_of_names {v : Session} (hn : v.names = w.names)
    (h : v.current < w.names.length) : v.InBounds := by
  unfold InBounds
  rw [hn]
  exact h

theorem inBounds_of_start (h : w.current = 0) : w.InBounds := by
  have h2 := w.length_names.1
  unfold InBounds
  omega

theorem min_current (h : w.InBounds) : min w.current (w.steps.length - 1) = w.current := by
  rw [length_steps]
  unfold InBounds at h
  omega

theorem clamp_of_inBounds (h : w.InBounds) : w.clamp = w := by
  unfold clamp
  rw [min_current h]

theorem inBounds_clamp (w : Session) : w.clamp.InBounds := by
  have h : w.clamp.current = min w.current (w.names.length - 1) := by
    rw [← length_steps]
    rfl
  have h2 := w.length_names.1
  refine inBounds_of_names (w := w) rfl ?_
  omega

/-- Other facts about the cluster keep the place, as far as there are steps. -/
theorem current_setContext (w : Session) (c : Context) : (w.setContext c).current =
    min w.current ((stepNames w.state c w.registry).length - 1) := by
  rw [← length_computeSteps]
  rfl

theorem inBounds_new (c : Context) (r : Registry) : (new c r).InBounds :=
  inBounds_of_start rfl

/-- The step in place `i`. -/
theorem getElem?_steps (w : Session) (i : Nat) : w.steps[i]? = w.names[i]?.map fun n =>
    ⟨1 + .ofNat i, n, decide (1 + .ofNat i ≤ w.state.stepIdReached)⟩ :=
  computeSteps_getElem? _ _ _ _

theorem forall_steps (w : Session) (p : StepName → Prop) :
    (∀ step ∈ w.steps, p step.name) ↔ ∀ n ∈ w.names, p n := by
  rw [← show w.steps.map (·.name) = w.names from map_name_computeSteps _ _ _, List.forall_mem_map]

theorem name_mem_names {step : Step} (h : step ∈ w.steps) : step.name ∈ w.names :=
  (w.forall_steps (· ∈ w.names)).mpr (fun _ hn => hn) step h

theorem currentStep_eq (h : w.InBounds) : w.currentStep =
    ⟨1 + .ofNat w.current, w.names.get ⟨w.current, h⟩,
      decide (1 + .ofNat w.current ≤ w.state.stepIdReached)⟩ := by
  unfold currentStep
  rw [min_current h, List.getD_eq_getElem?_getD, getElem?_steps, List.getElem?_eq_getElem h]
  rfl

theorem getElem?_names_current (h : w.InBounds) :
    w.names[w.current]? = some w.currentStep.name := by
  rw [currentStep_eq h, List.getElem?_eq_getElem h]
  rfl

theorem name_currentStep_mem (h : w.InBounds) : w.currentStep.name ∈ w.names :=
  List.mem_of_getElem? (getElem?_names_current h)

theorem isLastStep_iff (w : Session) : w.isLastStep = true ↔ w.names.length ≤ w.current + 1 := by
  unfold isLastStep
  rw [length_steps, decide_eq_true_eq]

/-- The last step is the review. -/
theorem review_iff_isLastStep (h : w.InBounds) :
    w.currentStep.name = .reviewAndCreate ↔ w.isLastStep = true := by
  have hr := Flow.review_iff_last _ _ w.current h
  have hc := getElem?_names_current h
  unfold names stepNames at hc
  rw [Flow.steps_eq_visible] at hc
  rw [hc, Option.some.injEq] at hr
  rw [hr, isLastStep_iff]
  unfold InBounds at h
  show w.current + 1 = w.names.length ↔ _
  omega

/-- A step in an earlier place stands before the place. -/
theorem mem_take_of_getElem? {i j : Nat} {n : StepName} (h : w.names[i]? = some n) (hi : i < j) :
    n ∈ w.names.take j := by
  apply List.mem_of_getElem?
  rw [List.getElem?_take_of_lt hi, h]

/-- The steps up to the current one are those behind and the current one. -/
theorem mem_take_succ_iff (h : w.InBounds) {n : StepName} :
    n ∈ w.names.take (w.current + 1) ↔ n ∈ w.names.take w.current ∨ n = w.currentStep.name := by
  rw [List.take_add_one, getElem?_names_current h, List.mem_append, Option.toList_some,
    List.mem_singleton]

/-- On the last step every other step is behind. -/
theorem mem_names_of_last (h : w.InBounds) (hl : w.isLastStep = true) {n : StepName}
    (hn : n ∈ w.names) : n ∈ w.names.take w.current ∨ n = .reviewAndCreate := by
  have hle : w.names.length ≤ w.current + 1 := (isLastStep_iff w).mp hl
  rwa [← List.take_of_length_le hle, mem_take_succ_iff h, (review_iff_isLastStep h).mpr hl] at hn

/-- The volume set is the current step on local devices in the second place. -/
theorem volumeSet_iff (h : w.InBounds) : w.currentStep.name = .createLocalVolumeSet ↔
    w.state.backingStorage.type = .localDevices ∧ w.current = 1 := by
  have hv := Flow.volumeSet_iff_second _ _ w.current h
  have hc := getElem?_names_current h
  unfold names stepNames at hc
  rw [Flow.steps_eq_visible] at hc
  rw [hc, Option.some.injEq] at hv
  rw [hv]
  constructor
  · rintro ⟨⟨d, hd⟩, h1⟩
    exact ⟨Flow.type_of_local hd, h1⟩
  · rintro ⟨ht, h1⟩
    exact ⟨⟨_, Flow.of_local _ _ ht⟩, h1⟩

/-! ### The first step -/

variable {c : Context} {r : Registry}

/-- A session on its first step in a cluster with its vendors. -/
structure AtStart (c : Context) (r : Registry) (w : Session) : Prop where
  current : w.current = 0
  context : w.context = c
  registry : w.registry = r

theorem atStart_new (c : Context) (r : Registry) : (new c r).AtStart c r :=
  ⟨rfl, rfl, rfl⟩

theorem AtStart.dispatch (h : w.AtStart c r) (a : Action) : (w.dispatch a).AtStart c r where
  current := by
    show min w.current _ = 0
    rw [h.current, Nat.zero_min]
  context := h.context
  registry := h.registry

theorem AtStart.dispatchAll : ∀ (actions : List Action) {w : Session}, w.AtStart c r →
    (w.dispatchAll actions).AtStart c r
  | [], _, h => h
  | a :: actions, _, h => AtStart.dispatchAll actions (h.dispatch a)

/-! ### Reachable sessions -/

/-- The sessions that the operations of the driver lead to. -/
inductive Reachable (c : Context) (r : Registry) : Session → Prop
  | new : Reachable c r (new c r)
  | dispatch {w : Session} (a : Action) : Reachable c r w → Reachable c r (w.dispatch a)
  | setContext {w : Session} (c' : Context) : Reachable c r w → Reachable c r (w.setContext c')
  | next {w moved : Session} {step : Step} :
    Reachable c r w → w.next = .ok (moved, step) → Reachable c r moved
  | back {w : Session} : Reachable c r w → Reachable c r w.back
  | jumpTo {w jumped : Session} {id : UInt32} :
    Reachable c r w → w.jumpTo id = .ok jumped → Reachable c r jumped
  | refreshLocalVolumes {w : Session} (allNodes : List String) (devices : List Device) :
    Reachable c r w → Reachable c r (w.refreshLocalVolumes allNodes devices)

/-! ### Actions that keep the list of steps -/

theorem names_reduce (w : Session) {a : Action} (ha : .backingStorage ∉ a.writes) :
    names { w with state := reduce w.state a } = w.names :=
  (stepNames_congr _ _ (reduce_same w.state a ha)).symm

theorem inBounds_reduce (h : w.InBounds) {a : Action} (ha : .backingStorage ∉ a.writes) :
    InBounds { w with state := reduce w.state a } :=
  inBounds_of_names (names_reduce w ha) h

/-- An action that leaves the backing storage keeps the place. -/
theorem dispatch_of_not_writes (h : w.InBounds) {a : Action} (ha : .backingStorage ∉ a.writes) :
    w.dispatch a = { w with state := reduce w.state a } :=
  clamp_of_inBounds (inBounds_reduce h ha)

/-! ### Advancing -/

/-- The settings on leaving the current step. -/
def leftState (w : Session) : State :=
  if w.currentStep.name = .createLocalVolumeSet then w.state.withVolumeClass else w.state

/-- The session behind the current step, before the following step is marked. -/
def moved (w : Session) : Session :=
  { w with state := w.leftState, current := w.current + 1 }

/-- The session on the following step. -/
def advance (w : Session) : Session :=
  { w.moved with state := reduce w.leftState (.setStepIdReached (1 + .ofNat (w.current + 1))) }

theorem backingStorage_leftState (w : Session) :
    w.leftState.backingStorage = w.state.backingStorage := by
  unfold leftState
  split_ifs <;> rfl

theorem backingStorage_advance (w : Session) :
    w.advance.state.backingStorage = w.state.backingStorage :=
  backingStorage_leftState w

theorem current_advance (w : Session) : w.advance.current = w.current + 1 :=
  rfl

theorem names_moved (w : Session) : w.moved.names = w.names :=
  stepNames_congr _ _ (backingStorage_leftState w)

theorem names_advance (w : Session) : w.advance.names = w.names :=
  stepNames_congr _ _ (backingStorage_leftState w)

theorem inBounds_moved (h : w.current + 1 < w.names.length) : w.moved.InBounds :=
  inBounds_of_names (names_moved w) h

theorem inBounds_advance (h : w.current + 1 < w.names.length) : w.advance.InBounds :=
  inBounds_of_names (names_advance w) h

/-- An advance puts the current step behind. -/
theorem mem_behind_advance_iff (h : w.InBounds) {n : StepName} :
    n ∈ w.advance.names.take w.advance.current ↔
      n ∈ w.names.take w.current ∨ n = w.currentStep.name := by
  rw [names_advance]
  exact mem_take_succ_iff h

theorem leave_eq (h : w.InBounds) :
    w.leave w.currentStep.name = { w with state := w.leftState } := by
  unfold leave leftState
  split_ifs
  · exact dispatch_of_not_writes h (by simp [Action.writes])
  · rfl

/-- An open gate before the last step lets the session advance. -/
theorem next_of_open (h : w.current + 1 < w.names.length)
    (hc : w.check w.currentStep.name = .ok ()) : w.next = .ok (w.advance, w.moved.currentStep) := by
  have hl : w.isLastStep = false := by
    rw [Bool.eq_false_iff, Ne, isLastStep_iff]
    omega
  have hmoved : clamp { w.leave w.currentStep.name with
      current := (w.leave w.currentStep.name).current + 1 } = w.moved := by
    rw [leave_eq (Nat.lt_of_succ_lt h)]
    exact clamp_of_inBounds (inBounds_moved h)
  have hid : w.moved.currentStep.id = 1 + .ofNat (w.current + 1) := by
    rw [currentStep_eq (inBounds_moved h)]
    rfl
  have hmark : w.moved.dispatch (.setStepIdReached (1 + .ofNat (w.current + 1))) = w.advance :=
    dispatch_of_not_writes (inBounds_moved h) (by simp [Action.writes])
  unfold next
  simp only [hc, hl, hmoved, hid, hmark, Bool.false_eq_true, if_false]

/-- Nothing follows the last step, whose gates are always open. -/
theorem next_of_last (h : w.InBounds) (hl : w.isLastStep = true) :
    w.next = .ok (w, w.currentStep) := by
  have hc : w.check w.currentStep.name = .ok () := by
    rw [(review_iff_isLastStep h).mpr hl]
    rfl
  unfold next
  simp only [hc, hl, if_true]

theorem next_of_closed {reason : Refusal} (hc : w.check w.currentStep.name = .error reason) :
    w.next = .error (.closed w.currentStep.name reason) := by
  unfold next
  simp only [hc]

/-- **What a move forward can do.** -/
theorem next_cases (h : w.InBounds) :
    (∃ reason, w.next = .error (.closed w.currentStep.name reason) ∧
      w.check w.currentStep.name = .error reason) ∨
    (w.next = .ok (w, w.currentStep) ∧ w.isLastStep = true) ∨
    (w.next = .ok (w.advance, w.moved.currentStep) ∧ w.current + 1 < w.names.length ∧
      w.check w.currentStep.name = .ok ()) := by
  by_cases hl : w.isLastStep = true
  · exact .inr (.inl ⟨next_of_last h hl, hl⟩)
  · have hlt : w.current + 1 < w.names.length := by
      rw [isLastStep_iff] at hl
      omega
    cases hc : w.check w.currentStep.name with
    | error reason => exact .inl ⟨reason, next_of_closed hc, rfl⟩
    | ok _ => exact .inr (.inr ⟨next_of_open hlt hc, hlt, rfl⟩)

/-- A move forward that is not refused stays on the last step or advances through an open gate. -/
theorem eq_of_next {moved : Session} {step : Step} (hb : w.InBounds)
    (h : w.next = .ok (moved, step)) :
    (moved = w ∧ w.isLastStep = true) ∨
    (moved = w.advance ∧ w.current + 1 < w.names.length ∧
      w.check w.currentStep.name = .ok ()) := by
  rcases next_cases hb with ⟨_, he, _⟩ | ⟨he, hl⟩ | ⟨he, hlt, hc⟩
  · rw [he] at h
    cases h
  · rw [he] at h
    cases h
    exact .inl ⟨rfl, hl⟩
  · rw [he] at h
    cases h
    exact .inr ⟨rfl, hlt, hc⟩

/-! ### Gates under an advance -/

theorem leftState_eq_of_not (hb : w.InBounds)
    (h : ¬(w.state.backingStorage.type = .localDevices ∧ w.current = 1)) :
    w.leftState = w.state := by
  unfold leftState
  rw [if_neg (by rwa [volumeSet_iff hb])]

theorem leftState_eq_of_volumeSet (hb : w.InBounds)
    (ht : w.state.backingStorage.type = .localDevices) (hc : w.current = 1) :
    w.leftState = w.state.withVolumeClass := by
  unfold leftState
  rw [if_pos ((volumeSet_iff hb).mpr ⟨ht, hc⟩)]

/-- **An advance closes no gate of the session.** -/
theorem checkStep_advance (hb : w.InBounds) {n : StepName} (hn : n ∈ w.names)
    (h : checkStep n w.state w.registry = .ok ()) :
    checkStep n w.advance.state w.registry = .ok () := by
  show checkStep n (reduce w.leftState _) w.registry = .ok ()
  rw [checkStep_reduce _ _ (n.not_mem_writes_setStepIdReached _)]
  by_cases hv : w.state.backingStorage.type = .localDevices ∧ w.current = 1
  · rw [leftState_eq_of_volumeSet hb hv.1 hv.2]
    refine checkStep_withVolumeClass hv.1 ?_ h
    have hl := Flow.of_local w.context w.registry hv.1
    unfold names stepNames at hn
    rw [hl] at hn
    exact Flow.vendor_not_mem_internal _ _ _ n hn
  · rw [leftState_eq_of_not hb hv]
    exact h

theorem checkCluster_advance (w : Session) (n : StepName) :
    checkCluster n w.advance.state w.context w.registry =
      checkCluster n w.state w.context w.registry := by
  show checkCluster n (reduce w.leftState _) _ _ = _
  rw [checkCluster_reduce _ _ _ (n.not_mem_writes_setStepIdReached _)]
  unfold leftState
  split_ifs
  · exact checkCluster_withVolumeClass _ _ _ _
  · rfl

theorem check_advance (hb : w.InBounds) {n : StepName} (hn : n ∈ w.names)
    (h : w.check n = .ok ()) : w.advance.check n = .ok () := by
  obtain ⟨hs, hc⟩ := checkBoth_eq_ok_iff.mp h
  refine checkBoth_eq_ok_iff.mpr ⟨checkStep_advance hb hn hs, ?_⟩
  exact (checkCluster_advance w n).trans hc

/-! ### Jumping -/

/-- The numbers of the steps do not wrap around. -/
theorem numbers_lt_size (w : Session) : (1 : UInt32).toNat + w.names.length < UInt32.size := by
  have h6 := w.length_names.2
  rw [UInt32.toNat_one]
  exact Nat.lt_of_le_of_lt (Nat.add_le_add_left h6 1) (by decide)

/-- The number of the step in place `i`. -/
theorem toNat_stepNumber (w : Session) {i : Nat} (h : i < w.names.length) :
    (1 + UInt32.ofNat i).toNat = i + 1 := by
  have hsize : i + 1 < UInt32.size := by
    have hn := w.numbers_lt_size
    rw [UInt32.toNat_one] at hn
    omega
  have hi : (UInt32.ofNat i).toNat = i := UInt32.toNat_ofNat_of_lt' (Nat.lt_of_succ_lt hsize)
  rw [UInt32.add_comm, toNat_succ (by rwa [hi]), hi]

/-- A number from one to the number of steps finds the step in its place. -/
theorem find?_steps (w : Session) {id : UInt32} (h : 1 ≤ id.toNat) :
    w.steps.find? (·.id == id) = w.steps[id.toNat - 1]? :=
  find?_numberSteps _ id 1 w.names w.numbers_lt_size h

theorem takeWhile_steps (w : Session) (id : UInt32) :
    w.steps.takeWhile (·.id < id) = w.steps.take (id.toNat - 1) :=
  takeWhile_numberSteps _ id 1 w.names w.numbers_lt_size

theorem one_le_id_of_mem {step : Step} (h : step ∈ w.steps) : 1 ≤ step.id.toNat := by
  obtain ⟨i, hi⟩ := List.mem_iff_getElem?.mp h
  rw [getElem?_steps] at hi
  obtain ⟨n, hn, rfl⟩ := Option.map_eq_some_iff.mp hi
  rw [w.toNat_stepNumber (List.getElem?_eq_some_iff.mp hn).1]
  omega

/-- **A jump leads to a step reached before, behind open gates.** -/
theorem canJumpTo_iff (w : Session) (id : UInt32) : w.canJumpTo id = true ↔
    1 ≤ id.toNat ∧ id.toNat ≤ w.names.length ∧ id ≤ w.state.stepIdReached ∧
      ∀ n ∈ w.names.take (id.toNat - 1), w.check n = .ok () := by
  have hnames : (w.steps.take (id.toNat - 1)).map (·.name) = w.names.take (id.toNat - 1) := by
    rw [List.map_take]
    exact congrArg _ (map_name_computeSteps _ _ _)
  have hall : ((w.steps.takeWhile (·.id < id)).all fun s => (w.check s.name).isOk) = true ↔
      ∀ n ∈ w.names.take (id.toNat - 1), w.check n = .ok () := by
    rw [takeWhile_steps, ← hnames]
    simp only [List.all_eq_true, isOk_iff, List.forall_mem_map]
  unfold canJumpTo
  by_cases h1 : 1 ≤ id.toNat
  · rw [find?_steps w h1, getElem?_steps]
    by_cases h2 : id.toNat - 1 < w.names.length
    · have hid : 1 + UInt32.ofNat (id.toNat - 1) = id := by
        refine UInt32.toNat_inj.mp ?_
        rw [w.toNat_stepNumber h2]
        omega
      simp only [List.getElem?_eq_getElem h2, Option.map_some, hid, Bool.and_eq_true,
        decide_eq_true_eq, hall]
      have h3 : id.toNat ≤ w.names.length := by omega
      tauto
    · rw [List.getElem?_eq_none (by omega)]
      have h3 : ¬ id.toNat ≤ w.names.length := by omega
      simp only [Option.map_none, Bool.false_eq_true, h3, false_and, and_false]
  · have hnone : w.steps.find? (·.id == id) = none := by
      rw [List.find?_eq_none]
      intro step hstep he
      exact h1 (beq_iff_eq.mp he ▸ one_le_id_of_mem hstep)
    simp only [hnone, Bool.false_eq_true, h1, false_and]

/-- A jump changes the place and nothing else. -/
theorem jumpTo_of_canJumpTo {id : UInt32} (h : w.canJumpTo id = true) :
    w.jumpTo id = .ok { w with current := id.toNat - 1 } := by
  have h1 : 1 ≤ id.toNat := ((canJumpTo_iff w id).mp h).1
  have hid : (id - 1).toNat = id.toNat - 1 := UInt32.toNat_sub_of_le _ _ h1
  unfold jumpTo
  rw [if_pos h, hid]

end Session
end StorageSetup
