import Mathlib.Tactic.SplitIfs
import StorageSetup.Wizard.Session
/-!
# The list of steps

The steps of a session are the steps of its flow, numbered from one. Every flow starts with the
backing storage, ends with the review and has at most six steps, none twice; and the flow depends
on the backing storage and the cluster alone. Where the cluster changes under a session, the steps
before its place stay what they were, up to the step of data protection.

Key definitions: `Flow.visible`, `stepNames`.
Key theorems: `computeSteps_getElem?`, `Flow.review_iff_last`, `Flow.of_congr`,
`stepNames_take_of_context`.
-/

namespace StorageSetup

/-! ### Numbering -/

theorem length_numberSteps (reached : UInt32) : ∀ (id : UInt32) (l : List StepName),
    (numberSteps reached id l).length = l.length
  | _, [] => rfl
  | id, _ :: l => by simp [numberSteps, length_numberSteps reached (id + 1) l]

theorem map_name_numberSteps (reached : UInt32) : ∀ (id : UInt32) (l : List StepName),
    (numberSteps reached id l).map (·.name) = l
  | _, [] => rfl
  | id, _ :: l => by simp [numberSteps, map_name_numberSteps reached (id + 1) l]

/-- The step in place `i` carries the number `id + i`. -/
theorem numberSteps_getElem? (reached : UInt32) : ∀ (id : UInt32) (l : List StepName) (i : Nat),
    (numberSteps reached id l)[i]? =
      l[i]?.map fun n => ⟨id + .ofNat i, n, decide (id + .ofNat i ≤ reached)⟩
  | _, [], _ => rfl
  | id, n :: l, 0 => by simp [numberSteps]
  | id, n :: l, i + 1 => by
    have hid : id + 1 + .ofNat i = id + .ofNat (i + 1) :=
      calc id + 1 + .ofNat i = id + (1 + .ofNat i) := UInt32.add_assoc id 1 _
        _ = id + (.ofNat i + 1) := congrArg (id + ·) (UInt32.add_comm 1 _)
        _ = id + .ofNat (i + 1) := congrArg (id + ·) (UInt32.ofNat_add i 1).symm
    rw [numberSteps, List.getElem?_cons_succ, numberSteps_getElem? reached (id + 1) l i, hid,
      List.getElem?_cons_succ]

theorem toNat_succ {id : UInt32} (h : id.toNat + 1 < UInt32.size) :
    (id + 1).toNat = id.toNat + 1 := by
  rw [UInt32.toNat_add, UInt32.toNat_one]
  exact Nat.mod_eq_of_lt h

/-- The steps numbered below `k` are the first ones. -/
theorem takeWhile_numberSteps (reached k : UInt32) : ∀ (id : UInt32) (l : List StepName),
    id.toNat + l.length < UInt32.size →
    (numberSteps reached id l).takeWhile (·.id < k) =
      (numberSteps reached id l).take (k.toNat - id.toNat)
  | _, [], _ => by simp [numberSteps]
  | id, n :: l, h => by
    rw [List.length_cons] at h
    have hid : (id + 1).toNat = id.toNat + 1 := toNat_succ (by omega)
    have ih := takeWhile_numberSteps reached k (id + 1) l (by omega)
    rw [numberSteps, List.takeWhile_cons]
    by_cases hk : id < k
    · have hlt : id.toNat < k.toNat := UInt32.lt_iff_toNat_lt.mp hk
      obtain ⟨m, hm⟩ : ∃ m, k.toNat - id.toNat = m + 1 := ⟨k.toNat - id.toNat - 1, by omega⟩
      rw [if_pos (by simpa using hk), ih, hm, List.take_succ_cons, hid]
      congr 2
      omega
    · have hle : k.toNat ≤ id.toNat := by
        have := mt UInt32.lt_iff_toNat_lt.mpr hk
        omega
      rw [if_neg (by simpa using hk), Nat.sub_eq_zero_of_le hle, List.take_zero]

/-- The step numbered `k` stands in the place of its number. -/
theorem find?_numberSteps (reached k : UInt32) : ∀ (id : UInt32) (l : List StepName),
    id.toNat + l.length < UInt32.size → id.toNat ≤ k.toNat →
    (numberSteps reached id l).find? (·.id == k) =
      (numberSteps reached id l)[k.toNat - id.toNat]?
  | _, [], _, _ => by simp [numberSteps]
  | id, n :: l, h, hk => by
    rw [List.length_cons] at h
    have hid : (id + 1).toNat = id.toNat + 1 := toNat_succ (by omega)
    rw [numberSteps, List.find?_cons]
    by_cases he : id = k
    · subst he; simp
    · have hne : id.toNat ≠ k.toNat := fun h => he (UInt32.toNat_inj.mp h)
      obtain ⟨m, hm⟩ : ∃ m, k.toNat - id.toNat = m + 1 := ⟨k.toNat - id.toNat - 1, by omega⟩
      have ih := find?_numberSteps reached k (id + 1) l (by omega) (by omega)
      have hbeq : ((id == k) : Bool) = false := beq_false_of_ne he
      simp only [hbeq]
      rw [ih, hm, List.getElem?_cons_succ, hid]
      congr 1
      omega

/-! ### The steps of a flow -/

/-- The vendor depends on the backing storage alone. -/
theorem Registry.selected?_congr {s t : State} (r : Registry)
    (h : s.backingStorage = t.backingStorage) : r.selected? s = r.selected? t := by
  unfold Registry.selected? State.isExternal
  rw [h]

namespace Flow

/-- The steps of a flow with the step of data protection or without it. -/
def visible (f : Flow) (protection : Bool) : List StepName :=
  f.allSteps.filter fun n => n != .dataProtection || protection

theorem steps_eq_visible (f : Flow) (c : Context) : f.steps c = f.visible c.hasMultipleClusters :=
  rfl

theorem length_visible (f : Flow) (b : Bool) :
    2 ≤ (f.visible b).length ∧ (f.visible b).length ≤ 6 := by
  rcases f with ⟨_ | _, _ | _⟩ | _ | _ | _ | _ <;> cases b <;> decide

/-- The review is the last step and no other. -/
theorem review_iff_last (f : Flow) (b : Bool) : ∀ i < (f.visible b).length,
    (f.visible b)[i]? = some .reviewAndCreate ↔ i + 1 = (f.visible b).length := by
  rcases f with ⟨_ | _, _ | _⟩ | _ | _ | _ | _ <;> cases b <;> decide

/-- The backing storage is the first step and no other. -/
theorem backing_iff_first (f : Flow) (b : Bool) : ∀ i < (f.visible b).length,
    (f.visible b)[i]? = some .backingStorage ↔ i = 0 := by
  rcases f with ⟨_ | _, _ | _⟩ | _ | _ | _ | _ <;> cases b <;> decide

/-- The volume set is the second step on local devices and no step of another flow. -/
theorem volumeSet_iff_second (f : Flow) (b : Bool) : ∀ i < (f.visible b).length,
    (f.visible b)[i]? = some .createLocalVolumeSet ↔ (∃ d, f = internal true d) ∧ i = 1 := by
  rcases f with ⟨_ | _, _ | _⟩ | _ | _ | _ | _ <;> cases b <;> simp <;> decide

/-- A flow with local devices has more than three steps, so the volume set is not the last one. -/
theorem three_lt_length_local (d : Deployment) (b : Bool) :
    3 < ((internal true d).visible b).length := by
  cases d <;> cases b <;> decide

/-! ### The flow of a session -/

/-- The flow depends on the backing storage alone. -/
theorem of_congr {s t : State} (c : Context) (r : Registry)
    (h : s.backingStorage = t.backingStorage) : Flow.of s c r = Flow.of t c r := by
  unfold Flow.of
  rw [r.selected?_congr h, h]

theorem of_local {s : State} (c : Context) (r : Registry)
    (h : s.backingStorage.type = .localDevices) :
    Flow.of s c r = internal true s.backingStorage.deployment := by
  simp only [Flow.of, h]

theorem type_of_local {s : State} {c : Context} {r : Registry} {d : Deployment}
    (h : Flow.of s c r = internal true d) : s.backingStorage.type = .localDevices := by
  unfold Flow.of at h
  split at h
  · cases h
  · assumption
  · split at h
    · cases h
    · split_ifs at h

/-- Flows that one choice of storage can lead to in different clusters. -/
def Related (f g : Flow) : Prop :=
  f = g ∨ (f = thirdParty ∧ g = thirdPartyAttached) ∨ (f = thirdPartyAttached ∧ g = thirdParty)

theorem related_of (s : State) (c c' : Context) (r : Registry) :
    Related (Flow.of s c r) (Flow.of s c' r) := by
  unfold Flow.of
  split
  · exact .inl rfl
  · exact .inl rfl
  · split
    · exact .inl rfl
    · split_ifs <;> simp [Related]

/-- Steps before a place of the one flow are steps before it in the other, except for the step of
data protection. -/
theorem take_visible_of_related {f g : Flow} (h : Related f g) (b b' : Bool) :
    ∀ i < (f.visible b).length, ∀ n ∈ (g.visible b').take (min i ((g.visible b').length - 1)),
      n = .dataProtection ∨ n ∈ (f.visible b).take i := by
  rcases h with rfl | ⟨rfl, rfl⟩ | ⟨rfl, rfl⟩
  · rcases f with ⟨_ | _, _ | _⟩ | _ | _ | _ | _ <;> cases b <;> cases b' <;> decide
  · cases b <;> cases b' <;> decide
  · cases b <;> cases b' <;> decide

end Flow

/-- The names of the steps for the settings. -/
def stepNames (s : State) (c : Context) (r : Registry) : List StepName :=
  (Flow.of s c r).steps c

theorem computeSteps_getElem? (s : State) (c : Context) (r : Registry) (i : Nat) :
    (computeSteps s c r)[i]? = (stepNames s c r)[i]?.map fun n =>
      ⟨1 + .ofNat i, n, decide (1 + .ofNat i ≤ s.stepIdReached)⟩ :=
  numberSteps_getElem? _ _ _ _

theorem length_computeSteps (s : State) (c : Context) (r : Registry) :
    (computeSteps s c r).length = (stepNames s c r).length :=
  length_numberSteps _ _ _

theorem map_name_computeSteps (s : State) (c : Context) (r : Registry) :
    (computeSteps s c r).map (·.name) = stepNames s c r :=
  map_name_numberSteps _ _ _

theorem length_stepNames (s : State) (c : Context) (r : Registry) :
    2 ≤ (stepNames s c r).length ∧ (stepNames s c r).length ≤ 6 :=
  Flow.length_visible _ _

theorem stepNames_congr {s t : State} (c : Context) (r : Registry)
    (h : s.backingStorage = t.backingStorage) : stepNames s c r = stepNames t c r := by
  rw [stepNames, Flow.of_congr c r h, stepNames]

/-- Where the cluster changes, the steps before the place of a session are steps before its old
place, except for the step of data protection. -/
theorem stepNames_take_of_context (s : State) (c c' : Context) (r : Registry) {i : Nat}
    (hi : i < (stepNames s c r).length) {n : StepName}
    (hn : n ∈ (stepNames s c' r).take (min i ((stepNames s c' r).length - 1))) :
    n = .dataProtection ∨ n ∈ (stepNames s c r).take i :=
  Flow.take_visible_of_related (Flow.related_of s c c' r) _ _ i hi n hn

end StorageSetup
