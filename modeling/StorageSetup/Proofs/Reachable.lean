import Mathlib.Data.List.Nodup
import StorageSetup.Proofs.ActionRuns
import StorageSetup.Proofs.Jump
import StorageSetup.Proofs.Settings
import StorageSetup.Screen.Event
/-!
# Reachable sessions

Whatever is done to a session, its place is a place of its list of steps and its first step counts
as reached. The list starts with the backing storage, ends with the review, names no step twice and
is numbered from one. A session can be sent to the steps of a prefix of the list that always holds
the first step: it ends with the last step that was reached, with the first step whose gate is closed
or with the list, whatever comes first.

Key definitions: `Session.Placed`, `Session.jumpBound`.
Key theorems: `Session.placed_of_reachable`, `Session.canJumpTo_iff_le`,
`Session.reachable_spec`.
-/

namespace StorageSetup

/-! ### The list of steps -/

/-- No flow names a step twice. -/
theorem Flow.nodup_visible (f : Flow) (b : Bool) : (f.visible b).Nodup := by
  rcases f with ⟨_ | _, _ | _⟩ | _ | _ | _ | _ <;> cases b <;> decide

theorem nodup_stepNames (s : State) (c : Context) (r : Registry) : (stepNames s c r).Nodup :=
  Flow.nodup_visible _ _

/-- The members of a prefix satisfy a test just where the prefix ends before the first failure. -/
theorem forall_mem_take_iff {α : Type} (p : α → Bool) : ∀ (l : List α) (k : Nat), k ≤ l.length →
    ((∀ x ∈ l.take k, p x = true) ↔ k ≤ l.findIdx fun x => !p x)
  | _, 0, _ => by simp
  | x :: l, k + 1, h => by
    have ih := forall_mem_take_iff p l k (Nat.le_of_succ_le_succ h)
    rw [List.take_succ_cons, List.forall_mem_cons, ih, List.findIdx_cons]
    cases p x <;> simp

/-- The mark of the steps reached never goes back. -/
theorem stepIdReached_le_reduce (s : State) (a : Action) :
    s.stepIdReached ≤ (reduce s a).stepIdReached :=
  (isGreatest_reduce s a).2 (.inl rfl)

namespace Session

variable {w : Session}

theorem name_of_first (w : Session) : w.names[0]? = some .backingStorage :=
  (Flow.backing_iff_first _ _ 0 (Nat.lt_of_lt_of_le Nat.two_pos w.length_names.1)).mpr rfl

theorem name_of_last (w : Session) : w.names[w.names.length - 1]? = some .reviewAndCreate := by
  have h2 := w.length_names.1
  refine (Flow.review_iff_last _ _ _ ?_).mpr ?_
  · show w.names.length - 1 < w.names.length
    omega
  · show w.names.length - 1 + 1 = w.names.length
    omega

theorem map_name_steps (w : Session) : w.steps.map (·.name) = w.names :=
  map_name_computeSteps _ _ _

/-- The steps are numbered from one. -/
theorem map_id_steps (w : Session) :
    w.steps.map (·.id.toNat) = List.range' 1 w.steps.length := by
  refine List.ext_getElem? fun i => ?_
  rw [List.getElem?_map, getElem?_steps, length_steps]
  by_cases hi : i < w.names.length
  · rw [List.getElem?_eq_getElem hi, List.getElem?_range' hi, Option.map_some, Option.map_some,
      w.toNat_stepNumber hi, Nat.one_mul, Nat.add_comm]
  · rw [List.getElem?_eq_none (by omega), List.getElem?_eq_none (by rw [List.length_range']; omega)]
    rfl

theorem getElem?_steps_current (h : w.InBounds) : w.steps[w.current]? = some w.currentStep := by
  rw [getElem?_steps, currentStep_eq h, List.getElem?_eq_getElem h]
  rfl

/-! ### Where a session can be sent -/

/-- The place of the first step whose gate is closed, or the number of steps. -/
def firstClosed (w : Session) : Nat :=
  w.names.findIdx fun n => !(w.check n).isOk

/-- The number of the last step that a session can be sent to. -/
def jumpBound (w : Session) : Nat :=
  min w.state.stepIdReached.toNat (min w.names.length (w.firstClosed + 1))

/-- **A session can be sent to the steps up to a number.** -/
theorem canJumpTo_iff_le (w : Session) (id : UInt32) :
    w.canJumpTo id = true ↔ 1 ≤ id.toNat ∧ id.toNat ≤ w.jumpBound := by
  rw [canJumpTo_iff, UInt32.le_iff_toNat_le]
  unfold jumpBound
  by_cases hid : id.toNat - 1 ≤ w.names.length
  · have hopen : (∀ n ∈ w.names.take (id.toNat - 1), w.check n = .ok ()) ↔
        id.toNat - 1 ≤ w.firstClosed := by
      simp only [← isOk_iff]
      exact forall_mem_take_iff _ _ _ hid
    rw [hopen]
    omega
  · omega

/-- A refused jump names the step that was asked for. -/
theorem jumpTo_of_not_canJumpTo {id : UInt32} (h : w.canJumpTo id = false) :
    w.jumpTo id = .error (.cannotJump id) := by
  unfold jumpTo
  rw [h]
  rfl

/-! ### What the operations keep -/

/-- The place of a session is a place of its list, and its first step counts as reached. -/
structure Placed (w : Session) : Prop where
  inBounds : w.InBounds
  reached : 1 ≤ w.state.stepIdReached

theorem placed_new (c : Context) (r : Registry) : (new c r).Placed where
  inBounds := inBounds_new c r
  reached := UInt32.le_refl 1

theorem Placed.dispatch (h : w.Placed) (a : Action) : (w.dispatch a).Placed where
  inBounds := inBounds_clamp _
  reached := UInt32.le_trans h.reached (stepIdReached_le_reduce w.state a)

theorem Placed.setContext (h : w.Placed) (c : Context) : (w.setContext c).Placed where
  inBounds := inBounds_clamp _
  reached := h.reached

theorem Placed.advance (h : w.Placed) (hlt : w.current + 1 < w.names.length) :
    w.advance.Placed where
  inBounds := inBounds_advance hlt
  reached := by
    have hleft : w.leftState.stepIdReached = w.state.stepIdReached := by
      unfold leftState
      split_ifs <;> rfl
    refine UInt32.le_trans h.reached ?_
    rw [← hleft]
    exact stepIdReached_le_reduce _ _

theorem Placed.next {moved : Session} {step : Step} (h : w.Placed)
    (hn : w.next = .ok (moved, step)) : moved.Placed := by
  rcases eq_of_next h.inBounds hn with ⟨rfl, _⟩ | ⟨rfl, hlt, _⟩
  · exact h
  · exact h.advance hlt

theorem Placed.back (h : w.Placed) : w.back.Placed where
  inBounds := inBounds_back h.inBounds
  reached := h.reached

theorem Placed.jumpTo {id : UInt32} {jumped : Session} (h : w.Placed)
    (hj : w.jumpTo id = .ok jumped) : jumped.Placed where
  inBounds := inBounds_jumpTo hj
  reached := by
    obtain ⟨_, rfl⟩ := eq_of_jumpTo hj
    exact h.reached

theorem Placed.refreshLocalVolumes (h : w.Placed) (allNodes : List String)
    (devices : List Device) : (w.refreshLocalVolumes allNodes devices).Placed :=
  (h.dispatch _).dispatch _

/-- Every reachable session is in its place. -/
theorem placed_of_reachable {c : Context} {r : Registry} (h : Reachable c r w) : w.Placed := by
  induction h with
  | new => exact placed_new c r
  | dispatch a _ ih => exact ih.dispatch a
  | setContext c' _ ih => exact ih.setContext c'
  | next _ hn ih => exact ih.next hn
  | back _ ih => exact ih.back
  | jumpTo _ hj ih => exact ih.jumpTo hj
  | refreshLocalVolumes allNodes devices _ ih => exact ih.refreshLocalVolumes allNodes devices

/-- The first step can always be jumped to. -/
theorem Placed.one_le_jumpBound (h : w.Placed) : 1 ≤ w.jumpBound := by
  have h1 : 1 ≤ w.state.stepIdReached.toNat := UInt32.le_iff_toNat_le.mp h.reached
  have h2 := w.length_names.1
  unfold jumpBound
  omega

/-- **What holds of every reachable session.** Its place holds its current step, whose number is one
more than the place. The steps start with the backing storage, end with the review, have distinct
names and are numbered from one. The first step counts as reached, and the numbers the session can
be sent to are those from one to its bound. A refused jump leaves a screen with its session as it
was, but for the notice. -/
theorem reachable_spec {c : Context} {r : Registry} (h : Reachable c r w) :
    (w.current < w.steps.length ∧ w.steps[w.current]? = some w.currentStep ∧
      w.currentStep.id.toNat = w.current + 1) ∧
    (w.steps.map (·.name)).head? = some .backingStorage ∧
    (w.steps.map (·.name)).getLast? = some .reviewAndCreate ∧
    (w.steps.map (·.name)).Nodup ∧
    w.steps.map (·.id.toNat) = List.range' 1 w.steps.length ∧
    1 ≤ w.state.stepIdReached ∧
    (1 ≤ w.jumpBound ∧ w.jumpBound ≤ w.steps.length ∧
      ∀ id : UInt32, w.canJumpTo id = true ↔ 1 ≤ id.toNat ∧ id.toNat ≤ w.jumpBound) ∧
    ∀ id : UInt32, w.canJumpTo id = false → w.jumpTo id = .error (.cannotJump id) ∧
      ∀ s : Screen, s.session = w →
        s.jumpTo id = { s with notice := some (.refused (.cannotJump id)) } := by
  have hp : w.Placed := placed_of_reachable h
  rw [map_name_steps, length_steps]
  refine ⟨⟨hp.inBounds, getElem?_steps_current hp.inBounds, ?_⟩, ?_, ?_, nodup_stepNames _ _ _,
    ?_, hp.reached, ⟨hp.one_le_jumpBound, ?_, w.canJumpTo_iff_le⟩,
    fun id hid => ⟨jumpTo_of_not_canJumpTo hid, ?_⟩⟩
  · rw [currentStep_eq hp.inBounds]
    exact w.toNat_stepNumber hp.inBounds
  · rw [List.head?_eq_getElem?, name_of_first]
  · rw [List.getLast?_eq_getElem?, name_of_last]
  · rw [map_id_steps, length_steps]
  · unfold jumpBound
    omega
  · rintro s rfl
    unfold Screen.jumpTo
    rw [jumpTo_of_not_canJumpTo hid]
    rfl

/-- A session on its third step that is sent to storage outside the cluster. The list is then as
short as it can be. -/
def shortened : Except NavigationError Session := do
  let walked ← nexts 2 ((new {} .builtins).dispatchAll gatewaySettings)
  .ok (walked.dispatch (.setBackingType .external))

theorem reachable_spec_shortened : ∃ w, shortened = .ok w ∧ Reachable {} .builtins w ∧
    w.current = 1 ∧ w.steps[w.current]? = some w.currentStep ∧ w.jumpBound = 1 ∧
    ∀ id : UInt32, w.canJumpTo id = true ↔ 1 ≤ id.toNat ∧ id.toNat ≤ w.jumpBound := by
  obtain ⟨walked, hw⟩ : ∃ walked,
      nexts 2 ((new {} .builtins).dispatchAll gatewaySettings) = .ok walked := ⟨_, rfl⟩
  have hr : Reachable {} .builtins (walked.dispatch (.setBackingType .external)) :=
    (reachable_nexts 2 (reachable_dispatchAll _ .new) hw).dispatch _
  obtain ⟨⟨_, hc, _⟩, _, _, _, _, _, ⟨_, _, hj⟩, _⟩ := reachable_spec hr
  have hs : shortened = .ok (walked.dispatch (.setBackingType .external)) := by
    unfold shortened
    rw [hw]
    rfl
  cases hw
  exact ⟨_, hs, hr, by decide, hc, by decide, hj⟩

end Session
end StorageSetup
