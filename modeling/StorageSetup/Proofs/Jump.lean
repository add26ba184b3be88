import StorageSetup.Proofs.Replay
/-!
# Jumping and walking

A jump sets the place of a session and nothing else. Going back to the first step and walking to the
same place passes the same gates, and each of its moves succeeds; but a walk over the volume set
takes the class that the volume set provides, and a jump over it does not. So the two agree, but for
a class that is not that of the volume set: its name was changed after its step had been left.

Key definitions: `Session.backs`, `Session.nexts`, `Session.walkedTo`.
Key theorems: `Session.next_walkedTo`, `Session.nexts_walkedTo`, `Session.jumpTo_agrees_iff`.
-/

namespace StorageSetup
namespace Session

/-- So many moves back. -/
def backs : Nat → Session → Session
  | 0, w => w
  | n + 1, w => backs n w.back

/-- So many moves forward, as long as none is refused. -/
def nexts : Nat → Session → Except NavigationError Session
  | 0, w => .ok w
  | n + 1, w =>
    match w.next with
    | .error e => .error e
    | .ok (moved, _) => nexts n moved

theorem backs_eq : ∀ (n : Nat) (w : Session), backs n w = { w with current := w.current - n }
  | 0, _ => rfl
  | n + 1, w => by
    rw [backs, backs_eq n, Nat.add_comm n 1, Nat.sub_add_eq]
    rfl

variable {w : Session}

/-- The session after walking from the first step to the place `i`. -/
def walkedTo (w : Session) (i : Nat) : Session :=
  { w with
    state := if w.state.backingStorage.type = .localDevices ∧ 1 < i then w.state.withVolumeClass
      else w.state
    current := i }

theorem backingStorage_walkedTo (w : Session) (i : Nat) :
    (w.walkedTo i).state.backingStorage = w.state.backingStorage := by
  unfold walkedTo
  dsimp only
  split_ifs <;> rfl

theorem stepIdReached_walkedTo (w : Session) (i : Nat) :
    (w.walkedTo i).state.stepIdReached = w.state.stepIdReached := by
  unfold walkedTo
  dsimp only
  split_ifs <;> rfl

theorem steps_walkedTo (w : Session) (i : Nat) : (w.walkedTo i).steps = w.steps := by
  have hf : Flow.of (w.walkedTo i).state w.context w.registry =
      Flow.of w.state w.context w.registry := Flow.of_congr _ _ (backingStorage_walkedTo w i)
  unfold steps computeSteps
  rw [stepIdReached_walkedTo]
  exact congrArg (fun f : Flow => numberSteps _ 1 (f.steps w.context)) hf

theorem names_walkedTo (w : Session) (i : Nat) : (w.walkedTo i).names = w.names :=
  stepNames_congr _ _ (backingStorage_walkedTo w i)

/-- A gate that is open stays open on the walk. -/
theorem check_walkedTo {n : StepName} (hn : n ∈ w.names) (h : w.check n = .ok ()) (i : Nat) :
    (w.walkedTo i).check n = .ok () := by
  by_cases hv : w.state.backingStorage.type = .localDevices ∧ 1 < i
  · obtain ⟨hs, hc⟩ := checkBoth_eq_ok_iff.mp h
    have hvendor : n ≠ .createStorageClass ∧ n ≠ .connectionDetails := by
      unfold names stepNames at hn
      rw [Flow.of_local w.context w.registry hv.1] at hn
      exact Flow.vendor_not_mem_internal _ _ _ n hn
    unfold walkedTo Session.check
    rw [if_pos hv]
    exact checkBoth_eq_ok_iff.mpr ⟨checkStep_withVolumeClass hv.1 hvendor hs,
      (checkCluster_withVolumeClass _ _ _ _).trans hc⟩
  · unfold walkedTo Session.check
    rw [if_neg hv]
    exact h

/-- A mark that was reached before is reached still. -/
theorem reduce_setStepIdReached_of_le {s : State} {id : UInt32} (h : id ≤ s.stepIdReached) :
    reduce s (.setStepIdReached id) = s := by
  have hmax : max s.stepIdReached id = s.stepIdReached := by
    show (if s.stepIdReached ≤ id then id else s.stepIdReached) = s.stepIdReached
    split_ifs with h'
    · exact UInt32.le_antisymm h h'
    · rfl
  show { s with stepIdReached := max s.stepIdReached id } = s
  rw [hmax]

/-- The settings on leaving the step in place `i` of the walk are those in the next place. -/
theorem leftState_walkedTo {i : Nat} (h : i < w.names.length) :
    (w.walkedTo i).leftState = (w.walkedTo (i + 1)).state := by
  have hb : (w.walkedTo i).InBounds := inBounds_of_names (names_walkedTo w i) h
  have ht : (w.walkedTo i).state.backingStorage.type = w.state.backingStorage.type := by
    rw [backingStorage_walkedTo]
  by_cases hv : w.state.backingStorage.type = .localDevices ∧ i = 1
  · obtain ⟨hl, rfl⟩ := hv
    rw [leftState_eq_of_volumeSet hb (ht.trans hl) rfl]
    unfold walkedTo
    rw [if_neg (by omega), if_pos ⟨hl, by omega⟩]
  · rw [leftState_eq_of_not hb fun hv' => hv ⟨ht.symm.trans hv'.1, hv'.2⟩]
    unfold walkedTo
    have hiff : (w.state.backingStorage.type = .localDevices ∧ 1 < i) ↔
        (w.state.backingStorage.type = .localDevices ∧ 1 < i + 1) := by
      constructor
      · exact fun h => ⟨h.1, by omega⟩
      · exact fun h => ⟨h.1, by have : i ≠ 1 := fun hi => hv ⟨h.1, hi⟩; omega⟩
    simp only [hiff]

/-- **One move of the walk**, to a step that was reached before. -/
theorem next_walkedTo {i : Nat} (h : i + 1 < w.names.length)
    (hreached : i + 2 ≤ w.state.stepIdReached.toNat)
    (hopen : ∀ n ∈ w.names.take (i + 1), w.check n = .ok ()) :
    ∃ step, (w.walkedTo i).next = .ok (w.walkedTo (i + 1), step) := by
  have hlt : (w.walkedTo i).current + 1 < (w.walkedTo i).names.length := by
    rw [names_walkedTo]
    exact h
  have hname : (w.walkedTo i).currentStep.name ∈ w.names.take (i + 1) := by
    rw [← names_walkedTo w i]
    exact (mem_take_succ_iff (Nat.lt_of_succ_lt hlt)).mpr (.inr rfl)
  have hcheck : (w.walkedTo i).check (w.walkedTo i).currentStep.name = .ok () :=
    check_walkedTo (List.mem_of_mem_take hname) (hopen _ hname) i
  have hid : 1 + UInt32.ofNat (i + 1) ≤ (w.walkedTo (i + 1)).state.stepIdReached := by
    rw [stepIdReached_walkedTo, UInt32.le_iff_toNat_le, w.toNat_stepNumber h]
    omega
  have hadvance : (w.walkedTo i).advance = w.walkedTo (i + 1) := by
    unfold advance
    rw [leftState_walkedTo (Nat.lt_of_succ_lt h)]
    change { (w.walkedTo (i + 1)) with
      state := reduce (w.walkedTo (i + 1)).state
        (.setStepIdReached (1 + UInt32.ofNat (i + 1))) } = _
    rw [reduce_setStepIdReached_of_le hid]
  exact ⟨_, by rw [next_of_open hlt hcheck, hadvance]⟩

/-- The walk to a step that was reached before, behind open gates. -/
theorem nexts_walkedTo : ∀ (k i : Nat), i + k < w.names.length →
    i + k + 1 ≤ w.state.stepIdReached.toNat →
    (∀ n ∈ w.names.take (i + k), w.check n = .ok ()) →
    nexts k (w.walkedTo i) = .ok (w.walkedTo (i + k))
  | 0, _, _, _, _ => rfl
  | k + 1, i, h, hreached, hopen => by
    have hsub : w.names.take (i + 1) ⊆ w.names.take (i + (k + 1)) :=
      (List.take_prefix_take_left (by omega)).subset
    obtain ⟨step, hstep⟩ := next_walkedTo (w := w) (i := i) (by omega) (by omega)
      fun n hn => hopen n (hsub hn)
    have ih := nexts_walkedTo k (i + 1) (by omega) (by omega)
      (by rwa [Nat.add_right_comm i 1 k])
    rw [nexts, hstep]
    show nexts k (w.walkedTo (i + 1)) = _
    rw [ih, Nat.add_right_comm i 1 k]
    rfl

/-- **Where a jump is allowed, walking there from the first step succeeds; the two agree on the
place, the step and the cluster, and on the settings but for the class of a volume set that is
jumped over.** -/
theorem jumpTo_agrees_iff (w : Session) (id : UInt32) (h : w.canJumpTo id = true) :
    ∃ jumped walked, w.jumpTo id = .ok jumped ∧
      (∀ n, w.current ≤ n → (w.backs n).nexts (id.toNat - 1) = .ok walked) ∧
      jumped.current = walked.current ∧ jumped.currentStep = walked.currentStep ∧
      jumped.context = walked.context ∧
      walked.state = (if w.state.backingStorage.type = .localDevices ∧ 2 < id.toNat then
        { jumped.state with storageClass := ⟨w.state.localVolumes.name, noProvisioner⟩ }
        else jumped.state) ∧
      (jumped.state = walked.state ↔
        (w.state.backingStorage.type = .localDevices ∧ 2 < id.toNat →
          w.state.storageClass = ⟨w.state.localVolumes.name, noProvisioner⟩)) := by
  obtain ⟨h1, h2, h3, hopen⟩ := (canJumpTo_iff w id).mp h
  rw [UInt32.le_iff_toNat_le] at h3
  have hstart : ∀ n, w.current ≤ n → w.backs n = w.walkedTo 0 := by
    intro n hn
    rw [backs_eq, Nat.sub_eq_zero_of_le hn]
    unfold walkedTo
    rw [if_neg (by omega)]
  have hwalk : nexts (id.toNat - 1) (w.walkedTo 0) = .ok (w.walkedTo (id.toNat - 1)) := by
    have hrun := nexts_walkedTo (w := w) (id.toNat - 1) 0 (by omega) (by omega)
      (by rwa [Nat.zero_add])
    rwa [Nat.zero_add] at hrun
  have hstate : (w.walkedTo (id.toNat - 1)).state =
      if w.state.backingStorage.type = .localDevices ∧ 2 < id.toNat then w.state.withVolumeClass
      else w.state := by
    have hiff : 1 < id.toNat - 1 ↔ 2 < id.toNat := by omega
    unfold walkedTo
    simp only [hiff]
  have hstep : currentStep { w with current := id.toNat - 1 } =
      (w.walkedTo (id.toNat - 1)).currentStep := by
    unfold currentStep
    rw [steps_walkedTo]
    rfl
  refine ⟨_, w.walkedTo (id.toNat - 1), jumpTo_of_canJumpTo h,
    fun n hn => by rw [hstart n hn, hwalk], rfl, hstep, rfl, hstate, ?_⟩
  rw [hstate]
  split_ifs with hjumped
  · rw [State.eq_withVolumeClass_iff]
    exact ⟨fun hc _ => hc, fun hc => hc hjumped⟩
  · exact ⟨fun _ hj => absurd hj hjumped, fun _ => rfl⟩

/-! ### A renamed volume set -/

/-- The settings of a volume set on local devices with the object gateway alone. -/
def gatewaySettings : List Action :=
  [.setBackingType .localDevices, .setDeployment .mcg, .setLocalVolumes (.name "alpha"),
    .setLocalVolumes (.chartNodes (.ofList ["n1", "n2", "n3"]))]

/-- A session that has left the step of the volume set, gone back to it and renamed the set. -/
def renamed : Except NavigationError Session := do
  let walked ← nexts 2 ((new {} .builtins).dispatchAll gatewaySettings)
  .ok (walked.back.dispatch (.setLocalVolumes (.name "beta")))

theorem reachable_dispatchAll {c : Context} {r : Registry} : ∀ (actions : List Action)
    {w : Session}, Reachable c r w → Reachable c r (w.dispatchAll actions)
  | [], _, h => h
  | a :: actions, _, h => reachable_dispatchAll actions (h.dispatch a)

theorem reachable_nexts {c : Context} {r : Registry} : ∀ (n : Nat) {w moved : Session},
    Reachable c r w → nexts n w = .ok moved → Reachable c r moved
  | 0, _, _, h, he => by
    cases he
    exact h
  | n + 1, w, _, h, he => by
    rw [nexts] at he
    split at he
    · cases he
    · next hn => exact reachable_nexts n (h.next hn) he

theorem reachable_renamed {w : Session} (h : renamed = .ok w) : Reachable {} .builtins w := by
  obtain ⟨walked, hw, h⟩ := bind_eq_ok_iff.mp h
  cases h
  exact ((reachable_nexts 2 (reachable_dispatchAll _ .new) hw).back).dispatch _

/-- Jumping behind the renamed set keeps its old class, walking there takes the new one. -/
theorem renamed_spec : ∃ w, renamed = .ok w ∧ w.canJumpTo 3 = true ∧ ∃ jumped walked,
    w.jumpTo 3 = .ok jumped ∧ (w.backs w.current).nexts 2 = .ok walked ∧
      jumped.state.storageClass.name = "alpha" ∧ walked.state.storageClass.name = "beta" :=
  ⟨_, rfl, by decide, _, _, rfl, rfl, by decide, by decide⟩

theorem jumpTo_agrees_iff_renamed : ∃ w, renamed = .ok w ∧ w.canJumpTo 3 = true ∧
    ∃ jumped walked, w.jumpTo 3 = .ok jumped ∧
      (∀ n, w.current ≤ n → (w.backs n).nexts 2 = .ok walked) ∧
      (jumped.state = walked.state ↔
        (w.state.backingStorage.type = .localDevices ∧ 2 < (3 : UInt32).toNat →
          w.state.storageClass = ⟨w.state.localVolumes.name, noProvisioner⟩)) := by
  obtain ⟨w, hw, hj, _⟩ := renamed_spec
  obtain ⟨jumped, walked, hjumped, hwalked, _, _, _, _, hiff⟩ := jumpTo_agrees_iff w 3 hj
  exact ⟨w, hw, hj, jumped, walked, hjumped, hwalked, hiff⟩

/-- The two do not always agree on the settings. -/
theorem not_jumpTo_agrees : ¬ ∀ w, Reachable {} .builtins w → ∀ id, w.canJumpTo id = true →
    ∃ jumped walked, w.jumpTo id = .ok jumped ∧
      (w.backs w.current).nexts (id.toNat - 1) = .ok walked ∧ jumped.state = walked.state := by
  intro hall
  obtain ⟨w, hw, hj, jumped, walked, hjumped, hwalked, halpha, hbeta⟩ := renamed_spec
  obtain ⟨jumped', walked', hjumped', hwalked', hsame⟩ := hall w (reachable_renamed hw) 3 hj
  obtain rfl : jumped = jumped' := Except.ok.inj (hjumped.symm.trans hjumped')
  obtain rfl : walked = walked' := Except.ok.inj (hwalked.symm.trans hwalked')
  rw [hsame, hbeta] at halpha
  exact absurd halpha (by decide)

end Session
end StorageSetup
