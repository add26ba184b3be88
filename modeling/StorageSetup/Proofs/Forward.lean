import StorageSetup.Proofs.Reachable
/-!
# Moving forward

A move forward is a program of several writes: the class on leaving the volume set, the place, the
mark of the steps reached, and behind each of them the place is brought inside the list again. None
of the writes changes the list, so the place is never moved a second time; and a move that is
refused is refused before the first write. What is left of the program is one step: to the following
place, or to none.

Key definitions: `Session.forward`, `Session.leftBehind`, `Session.MovesTo`.
Key theorems: `Session.run_forward`, `numberSteps_max`, `Session.movesTo_advance`,
`Session.next_atomic`.
-/

namespace StorageSetup

/-! ### The mark in the list -/

/-- Raising the mark sets the flags of the steps up to it and changes nothing else in the list. -/
theorem numberSteps_max (reached mark : UInt32) : ∀ (id : UInt32) (l : List StepName),
    numberSteps (max reached mark) id l = (numberSteps reached id l).map fun t =>
      { t with canJumpTo := t.canJumpTo || decide (t.id ≤ mark) }
  | _, [] => rfl
  | id, n :: l => by
    have hle : id ≤ max reached mark ↔ id ≤ reached ∨ id ≤ mark := by
      show id ≤ (if reached ≤ mark then mark else reached) ↔ _
      simp only [UInt32.le_iff_toNat_le]
      split_ifs <;> omega
    have hflag : decide (id ≤ max reached mark) =
        (decide (id ≤ reached) || decide (id ≤ mark)) := by
      rw [decide_eq_decide.mpr hle, Bool.decide_or]
    rw [numberSteps, numberSteps, List.map_cons, numberSteps_max reached mark (id + 1) l, hflag]

namespace Session

/-! ### The writes of a move -/

/-- The gates of the current step. -/
def pass : EStateM NavigationError Session Step := do
  let w ← get
  match w.check w.currentStep.name with
  | .error reason => throw (.closed w.currentStep.name reason)
  | .ok _ => return w.currentStep

/-- The writes on leaving a step, in their order. -/
def walkOn (step : Step) : EStateM NavigationError Session Step := do
  if step.name = .createLocalVolumeSet then
    modify fun w => w.dispatch (.setStorageClass ⟨w.state.localVolumes.name, noProvisioner⟩)
  modify fun w => { w with current := w.current + 1 }
  modify clamp
  let reached := (← get).currentStep
  modify fun w => w.dispatch (.setStepIdReached reached.id)
  return reached

/-- A move forward as a program that writes in place: a failure keeps what was written before it. -/
def forward : EStateM NavigationError Session Step := do
  let step ← pass
  if (← get).isLastStep then return step
  walkOn step

/-- The session that a move forward leaves behind, refused or not. -/
def leftBehind (w : Session) : Session :=
  match forward.run w with
  | .ok _ v => v
  | .error _ v => v

theorem run_pass (w : Session) : pass.run w = (match w.check w.currentStep.name with
    | .error reason => .error (.closed w.currentStep.name reason) w
    | .ok _ => .ok w.currentStep w) := by
  unfold pass
  rw [EStateM.run_bind, EStateM.run_get]
  cases hc : w.check w.currentStep.name with
  | error reason =>
    simp only [hc]
    rfl
  | ok _ =>
    simp only [hc]
    rfl

theorem run_walkOn (w : Session) (step : Step) : (walkOn step).run w =
    (let left := w.leave step.name
     let moved := clamp { left with current := left.current + 1 }
     .ok moved.currentStep (moved.dispatch (.setStepIdReached moved.currentStep.id))) := by
  unfold walkOn leave
  by_cases hs : step.name = .createLocalVolumeSet
  · rw [if_pos hs, if_pos hs]
    rfl
  · rw [if_neg hs, if_neg hs]
    rfl

/-- **A move that is refused has written nothing.** -/
theorem run_forward (w : Session) : forward.run w =
    match w.next with
    | .error e => .error e w
    | .ok (moved, step) => .ok step moved := by
  unfold forward
  rw [EStateM.run_bind, run_pass]
  cases hc : w.check w.currentStep.name with
  | error reason => rw [next_of_closed hc]
  | ok _ =>
    by_cases hl : w.isLastStep = true
    · simp [next, hc, hl]
    · simp [next, hc, hl, run_walkOn]

theorem leftBehind_of_error {w : Session} {e : NavigationError} (h : w.next = .error e) :
    w.leftBehind = w := by
  unfold leftBehind
  rw [run_forward, h]

theorem leftBehind_of_ok {w moved : Session} {step : Step} (h : w.next = .ok (moved, step)) :
    w.leftBehind = moved := by
  unfold leftBehind
  rw [run_forward, h]

/-! ### One step -/

/-- A session is moved to the following step of its list and marks it as reached; on leaving a
volume set it takes the class that the volume set provides. Nothing else changes. -/
structure MovesTo (w moved : Session) (step : Step) : Prop where
  following : w.steps[w.current + 1]? = some step
  number : step.id.toNat = w.currentStep.id.toNat + 1
  currentStep : moved.currentStep = { step with canJumpTo := true }
  steps : moved.steps = w.steps.map fun t =>
    { t with canJumpTo := t.canJumpTo || decide (t.id ≤ step.id) }
  eq : moved =
    { w with
      current := w.current + 1
      state :=
        { w.state with
          stepIdReached := max w.state.stepIdReached step.id
          storageClass :=
            if w.currentStep.name = .createLocalVolumeSet then
              ⟨w.state.localVolumes.name, noProvisioner⟩
            else w.state.storageClass } }

variable {w : Session}

theorem stepIdReached_leftState (w : Session) :
    w.leftState.stepIdReached = w.state.stepIdReached := by
  unfold leftState
  split_ifs <;> rfl

theorem steps_eq (w : Session) : w.steps = numberSteps w.state.stepIdReached 1 w.names :=
  rfl

theorem steps_moved (w : Session) : w.moved.steps = w.steps := by
  have hmark : w.moved.state.stepIdReached = w.state.stepIdReached := stepIdReached_leftState w
  rw [steps_eq, steps_eq, names_moved, hmark]

/-- An advance keeps the list of steps but for the flags up to the step it reaches. -/
theorem steps_advance (hlt : w.current + 1 < w.names.length) :
    w.advance.steps = w.steps.map fun t =>
      { t with canJumpTo := t.canJumpTo || decide (t.id ≤ w.moved.currentStep.id) } := by
  have hmark : w.advance.state.stepIdReached =
      max w.state.stepIdReached w.moved.currentStep.id := by
    rw [currentStep_eq (inBounds_moved hlt), ← stepIdReached_leftState w]
    rfl
  rw [steps_eq, steps_eq, names_advance, hmark, numberSteps_max]

/-- **An advance is one step.** -/
theorem movesTo_advance (h : w.InBounds) (hlt : w.current + 1 < w.names.length) :
    w.MovesTo w.advance w.moved.currentStep := by
  have hfollowing : w.steps[w.current + 1]? = some w.moved.currentStep := by
    rw [← steps_moved]
    exact getElem?_steps_current (inBounds_moved hlt)
  have hsteps := steps_advance hlt
  refine ⟨hfollowing, ?_, ?_, hsteps, ?_⟩
  · rw [currentStep_eq (inBounds_moved hlt), currentStep_eq h, w.toNat_stepNumber h]
    exact w.toNat_stepNumber hlt
  · have hplace : w.advance.steps[w.current + 1]? = some w.advance.currentStep :=
      getElem?_steps_current (inBounds_advance hlt)
    rw [hsteps, List.getElem?_map, hfollowing, Option.map_some, Option.some.injEq] at hplace
    rw [← hplace, decide_eq_true (UInt32.le_refl _), Bool.or_true]
  · have hid : w.moved.currentStep.id = 1 + .ofNat (w.current + 1) := by
      rw [currentStep_eq (inBounds_moved hlt)]
      rfl
    unfold advance moved leftState at *
    rw [hid]
    split_ifs <;> rfl

/-! ### The move -/

/-- A move is refused just where the current step is blocked, and with its reason. -/
theorem next_eq_error_iff {e : NavigationError} : w.next = .error e ↔
    ∃ reason, w.blockingReason = some reason ∧ e = .closed w.currentStep.name reason := by
  unfold blockingReason
  cases hc : w.check w.currentStep.name with
  | error reason =>
    rw [next_of_closed hc]
    simp [eq_comm]
  | ok _ =>
    have hopen : w.next ≠ .error e := by
      unfold next
      simp only [hc]
      split_ifs <;> exact nofun
    simp [hopen]

theorem canGoNext_iff : w.canGoNext = true ↔
    w.current + 1 < w.names.length ∧ w.check w.currentStep.name = .ok () := by
  have hopen : w.blockingReason = none ↔ w.check w.currentStep.name = .ok () := by
    unfold blockingReason
    cases w.check w.currentStep.name <;> simp
  unfold canGoNext
  rw [Bool.and_eq_true, Bool.not_eq_true', Bool.eq_false_iff, Ne, isLastStep_iff, Nat.not_le,
    Option.isNone_iff_eq_none, hopen]

/-- A session that cannot go on is left as it was: refused, or on its last step. -/
theorem leftBehind_of_not_canGoNext (h : w.InBounds) (hno : w.canGoNext = false) :
    w.leftBehind = w := by
  rcases next_cases h with ⟨_, hn, _⟩ | ⟨hn, _⟩ | ⟨_, hgo⟩
  · exact leftBehind_of_error hn
  · exact leftBehind_of_ok hn
  · rw [canGoNext_iff.mpr hgo] at hno
    cases hno

theorem exists_movesTo_of_canGoNext (h : w.InBounds) (hgo : w.canGoNext = true) :
    ∃ step, w.next = .ok (w.leftBehind, step) ∧ w.MovesTo w.leftBehind step := by
  obtain ⟨hlt, hc⟩ := canGoNext_iff.mp hgo
  have hn := next_of_open hlt hc
  rw [leftBehind_of_ok hn]
  exact ⟨_, hn, movesTo_advance h hlt⟩

/-- A move to the following step changes the current step. -/
theorem MovesTo.currentStep_ne {moved : Session} {step : Step} (h : w.MovesTo moved step) :
    moved.currentStep ≠ w.currentStep := by
  intro hsame
  have hnumber := h.number
  rw [← hsame, h.currentStep] at hnumber
  dsimp only at hnumber
  omega

/-- **A move forward is made whole or not at all, and it is one step.** It is refused just where the
current step is blocked, with that reason, and a refused move has written nothing. It changes the
current step just where the session can go on, and then to the following step of the same list. -/
theorem next_atomic {c : Context} {r : Registry} (h : Reachable c r w) :
    ((∃ e, w.next = .error e) ↔ ∃ reason, w.blockingReason = some reason) ∧
    (∀ e, w.next = .error e → forward.run w = .error e w ∧
      ∃ reason, w.blockingReason = some reason ∧ e = .closed w.currentStep.name reason) ∧
    (∀ moved step, w.next = .ok (moved, step) → forward.run w = .ok step moved) ∧
    (w.leftBehind.currentStep ≠ w.currentStep ↔ w.canGoNext = true) ∧
    (w.canGoNext = false → w.leftBehind = w) ∧
    (w.canGoNext = true →
      ∃ step, w.next = .ok (w.leftBehind, step) ∧ w.MovesTo w.leftBehind step) := by
  have hb : w.InBounds := (placed_of_reachable h).inBounds
  refine ⟨?_, fun e he => ⟨?_, next_eq_error_iff.mp he⟩, ?_, ⟨?_, ?_⟩,
    leftBehind_of_not_canGoNext hb, exists_movesTo_of_canGoNext hb⟩
  · constructor
    · rintro ⟨e, he⟩
      obtain ⟨reason, hr, _⟩ := next_eq_error_iff.mp he
      exact ⟨reason, hr⟩
    · rintro ⟨reason, hr⟩
      exact ⟨_, next_eq_error_iff.mpr ⟨reason, hr, rfl⟩⟩
  · rw [run_forward, he]
  · intro moved step hn
    rw [run_forward, hn]
  · intro hne
    by_contra hno
    rw [Bool.not_eq_true] at hno
    exact hne (by rw [leftBehind_of_not_canGoNext hb hno])
  · intro hgo
    obtain ⟨_, _, hmoves⟩ := exists_movesTo_of_canGoNext hb hgo
    exact hmoves.currentStep_ne

theorem next_atomic_leavingVolumeSet :
    ∃ w, nexts 1 ((new {} .builtins).dispatchAll gatewaySettings) = .ok w ∧
      Reachable {} .builtins w ∧ w.currentStep.name = .createLocalVolumeSet ∧
      w.canGoNext = true ∧
      ∃ step, w.next = .ok (w.leftBehind, step) ∧ w.MovesTo w.leftBehind step := by
  obtain ⟨w, hw⟩ : ∃ w, nexts 1 ((new {} .builtins).dispatchAll gatewaySettings) = .ok w := ⟨_, rfl⟩
  have hr : Reachable {} .builtins w := reachable_nexts 1 (reachable_dispatchAll _ .new) hw
  obtain ⟨_, _, _, _, _, hmoves⟩ := next_atomic hr
  have hgo : w.canGoNext = true := by
    cases hw
    decide
  have hname : w.currentStep.name = .createLocalVolumeSet := by
    cases hw
    decide
  exact ⟨w, hw, hr, hname, hgo, hmoves hgo⟩

end Session
end StorageSetup
