import Mathlib.Order.Bounds.Basic
import StorageSetup.Proofs.Slice
/-!
# Runs of actions, slice by slice

An action that changes no mode writes one slice and looks at no other, so a run of such actions makes
of a slice what the actions that write it make of it, in their order and whatever stands between
them. Two such actions that write different slices can change places, and so can two writes of
different fields of one vendor's form. The mark of the steps reached is raised by the actions that
carry a mark and kept by all others, the changes of a mode included: a run ends with the greatest
mark it met.

Key definitions: `Action.IsModeChange`.
Key theorems: `isGreatest_reduce`, `stepIdReached_exact`, `Slice.Same.reduce`,
`same_reduceAll_filter`, `reduceAll_eq_of_filter`, `slices_independent`.
-/

namespace StorageSetup

/-! ### The mark of the steps reached -/

/-- An action leaves the greater one of the mark there was and the mark it carries. -/
theorem isGreatest_reduce (s : State) (a : Action) :
    IsGreatest {n | n = s.stepIdReached ∨ a = .setStepIdReached n} (reduce s a).stepIdReached := by
  by_cases ha : .stepMark ∈ a.writes
  · obtain ⟨id, rfl⟩ : ∃ id, a = .setStepIdReached id := by
      cases a with
      | setStepIdReached id => exact ⟨id, rfl⟩
      | _ => simp [Action.writes] at ha
    have hmax : (reduce s (.setStepIdReached id)).stepIdReached =
        if s.stepIdReached ≤ id then id else s.stepIdReached := rfl
    rw [hmax]
    split_ifs with hle
    · refine ⟨.inr rfl, ?_⟩
      rintro n (rfl | h)
      · exact hle
      · cases h
        exact UInt32.le_refl _
    · refine ⟨.inl rfl, ?_⟩
      rintro n (rfl | h)
      · exact UInt32.le_refl _
      · cases h
        exact UInt32.le_of_lt (UInt32.not_le.mp hle)
  · have hsame : s.stepIdReached = (reduce s a).stepIdReached := reduce_same s a ha
    rw [← hsame]
    refine ⟨.inl rfl, ?_⟩
    rintro n (rfl | rfl)
    · exact UInt32.le_refl _
    · exact absurd (List.mem_singleton.mpr rfl) ha

/-- A run leaves the greatest one of the mark there was and the marks its actions carry. -/
theorem isGreatest_reduceAll : ∀ (actions : List Action) (s : State),
    IsGreatest {n | n = s.stepIdReached ∨ .setStepIdReached n ∈ actions}
      (reduceAll s actions).stepIdReached
  | [], s => by
    refine ⟨.inl rfl, ?_⟩
    rintro n (rfl | h)
    · exact UInt32.le_refl _
    · cases h
  | a :: actions, s => by
    obtain ⟨hone, hbound⟩ := isGreatest_reduce s a
    obtain ⟨hrun, hrest⟩ := isGreatest_reduceAll actions (reduce s a)
    have hstep : (reduce s a).stepIdReached ≤ (reduceAll s (a :: actions)).stepIdReached :=
      hrest (.inl rfl)
    refine ⟨?_, ?_⟩
    -- The mark at the end is the one after the first action or carried by a later one.
    · rcases hrun with h | h
      · rcases hone with h' | h'
        · exact .inl (h.trans h')
        · have ha : .setStepIdReached (reduceAll s (a :: actions)).stepIdReached = a :=
            (congrArg Action.setStepIdReached h).trans h'.symm
          exact .inr (List.mem_cons.mpr (.inl ha))
      · exact .inr (List.mem_cons_of_mem _ h)
    · rintro n (h | h)
      · exact UInt32.le_trans (hbound (.inl h)) hstep
      · rcases List.mem_cons.mp h with h | h
        · exact UInt32.le_trans (hbound (.inr h.symm)) hstep
        · exact hrest (.inr h)

/-- **The mark of the steps reached is an exact high-water mark.** After any actions it is the
greatest one of the mark there was and the marks that the actions carry, whatever changes of the
mode and resets are among them; and further actions never lower it. -/
theorem stepIdReached_exact (s : State) (actions : List Action) :
    IsGreatest {n | n = s.stepIdReached ∨ .setStepIdReached n ∈ actions}
      (reduceAll s actions).stepIdReached ∧
    ∀ further : List Action,
      (reduceAll s actions).stepIdReached ≤ (reduceAll s (actions ++ further)).stepIdReached := by
  refine ⟨isGreatest_reduceAll actions s, fun further => ?_⟩
  have happend : reduceAll s (actions ++ further) = reduceAll (reduceAll s actions) further :=
    List.foldl_append
  rw [happend]
  exact (isGreatest_reduceAll further _).2 (.inl rfl)

/-! ### One slice each -/

/-- The action changes one of the modes. -/
def Action.IsModeChange : Action → Prop
  | setBackingType _ | setDeployment _ => True
  | _ => False

/-- An action that changes no mode writes one slice. -/
theorem Action.exists_writes_eq {a : Action} (ha : ¬ a.IsModeChange) : ∃ x, a.writes = [x] := by
  cases a with
  | setBackingType v => exact absurd trivial ha
  | setDeployment v => exact absurd trivial ha
  | _ => exact ⟨_, rfl⟩

/-- **An action that changes no mode looks at no slice but the one it writes.** -/
theorem Slice.Same.reduce {x : Slice} {s t : State} {a : Action} (ha : ¬ a.IsModeChange)
    (h : x.Same s t) : x.Same (reduce s a) (reduce t a) := by
  by_cases hx : x ∈ a.writes
  · cases a with
    | setBackingType v => exact absurd trivial ha
    | setDeployment v => exact absurd trivial ha
    | _ =>
      obtain rfl := List.mem_singleton.mp hx
      simp only [Slice.Same] at h
      simp only [Slice.Same, StorageSetup.reduce, State.mapPostgresTls, State.mapPostgres, h]
  · have hs : x.Same s (StorageSetup.reduce s a) := reduce_same s a hx
    have ht : x.Same t (StorageSetup.reduce t a) := reduce_same t a hx
    exact hs.symm.trans (h.trans ht)

/-- **A run makes of a slice what the actions that write it make of it.** -/
theorem same_reduceAll_filter {x : Slice} : ∀ (actions : List Action) {s t : State},
    (∀ a ∈ actions, ¬ a.IsModeChange) → x.Same s t →
      x.Same (reduceAll s actions) (reduceAll t (actions.filter fun a => x ∈ a.writes))
  | [], _, _, _, hst => hst
  | a :: actions, s, t, h, hst => by
    obtain ⟨ha, hrest⟩ := List.forall_mem_cons.mp h
    by_cases hx : x ∈ a.writes
    · rw [List.filter_cons_of_pos (by simpa using hx)]
      exact same_reduceAll_filter actions hrest (hst.reduce ha)
    · rw [List.filter_cons_of_neg (by simpa using hx)]
      have hkept : x.Same (reduce s a) t := (reduce_same s a hx).symm.trans hst
      exact same_reduceAll_filter actions hrest hkept

/-- **The order of actions on different slices does not matter.** Two lists of actions that change
no mode and have the same actions for each slice in the same order lead to the same settings. -/
theorem reduceAll_eq_of_filter {as bs : List Action} (ha : ∀ a ∈ as, ¬ a.IsModeChange)
    (hb : ∀ b ∈ bs, ¬ b.IsModeChange)
    (h : ∀ x : Slice, (as.filter fun a => x ∈ a.writes) = bs.filter fun b => x ∈ b.writes)
    (s : State) : reduceAll s as = reduceAll s bs := by
  refine Slice.eq_of_same fun x => ?_
  have has := same_reduceAll_filter as ha (Slice.Same.refl x s)
  have hbs := same_reduceAll_filter bs hb (Slice.Same.refl x s)
  rw [h x] at has
  exact has.trans hbs.symm

/-- Two actions that change no mode and write different slices can change places. -/
theorem reduce_comm {a b : Action} (ha : ¬ a.IsModeChange) (hb : ¬ b.IsModeChange)
    (h : a.writes ≠ b.writes) (s : State) : reduce (reduce s a) b = reduce (reduce s b) a := by
  obtain ⟨x, hx⟩ := Action.exists_writes_eq ha
  obtain ⟨y, hy⟩ := Action.exists_writes_eq hb
  have hne : x ≠ y := fun he => h (by rw [hx, hy, he])
  -- No slice is written by both, so the two orders have the same actions for each slice.
  have horder : reduceAll s [a, b] = reduceAll s [b, a] := by
    refine reduceAll_eq_of_filter (by simp [ha, hb]) (by simp [ha, hb]) (fun z => ?_) s
    by_cases hz : z = x
    · simp [hx, hy, hz, hne]
    · by_cases hzy : z = y <;> simp [hx, hy, hz, hzy, hne.symm]
  exact horder

/-- **The slices are independent.** Of two actions that change no mode and write different slices
either can come first; each such action writes one slice and leaves every other one as it was; and
writes of different fields of one vendor's form can change places too. -/
theorem slices_independent (s : State) :
    (∀ a b : Action, ¬ a.IsModeChange → ¬ b.IsModeChange → a.writes ≠ b.writes →
      reduce (reduce s a) b = reduce (reduce s b) a) ∧
    (∀ a : Action, ¬ a.IsModeChange → ∃ x, a.writes = [x] ∧ ∀ y ≠ x, y.Same s (reduce s a)) ∧
    ∀ c d : FieldChange, c.field ≠ d.field →
      reduce (reduce s (.setCreateStorageClass c)) (.setCreateStorageClass d) =
        reduce (reduce s (.setCreateStorageClass d)) (.setCreateStorageClass c) ∧
      reduce (reduce s (.setConnectionDetails c)) (.setConnectionDetails d) =
        reduce (reduce s (.setConnectionDetails d)) (.setConnectionDetails c) := by
  refine ⟨fun a b ha hb h => reduce_comm ha hb h s, fun a ha => ?_, fun c d h => ⟨?_, ?_⟩⟩
  · obtain ⟨x, hx⟩ := Action.exists_writes_eq ha
    refine ⟨x, hx, fun y hy => reduce_same s a ?_⟩
    rw [hx]
    exact fun hm => hy (List.mem_singleton.mp hm)
  · simp only [reduce, Dict.insert_comm _ h]
  · simp only [reduce, Dict.insert_comm _ h]

/-- The arbiter is switched off, which clears its place, before or after a class is chosen, and a
vendor gets a user and a password in either order. -/
theorem slices_independent_arbiter :
    let s : State := { capacity := { enableArbiter := true, arbiterLocation := "zone-a" } }
    let choice : Action := .setStorageClass ⟨"gp3", "ebs.csi.aws.com"⟩
    let user : FieldChange := ⟨"username", "admin"⟩
    let password : FieldChange := ⟨"password", "hunter2"⟩
    ¬ (Action.enableArbiter false).IsModeChange ∧ ¬ choice.IsModeChange ∧
      (Action.enableArbiter false).writes ≠ choice.writes ∧
      reduce (reduce s (.enableArbiter false)) choice =
        reduce (reduce s choice) (.enableArbiter false) ∧
      Slice.security.Same s (reduce s (.enableArbiter false)) ∧
      user.field ≠ password.field ∧
      reduce (reduce s (.setCreateStorageClass user)) (.setCreateStorageClass password) =
        reduce (reduce s (.setCreateStorageClass password)) (.setCreateStorageClass user) := by
  intro s choice user password
  obtain ⟨hcomm, hframe, hfields⟩ := slices_independent s
  have harbiter : ¬ (Action.enableArbiter false).IsModeChange := id
  have hclass : ¬ choice.IsModeChange := id
  have hne : (Action.enableArbiter false).writes ≠ choice.writes := by decide
  have hfield : user.field ≠ password.field := by decide
  obtain ⟨x, hx, hsame⟩ := hframe _ harbiter
  obtain rfl : .capacity = x := List.singleton_inj.mp hx
  exact ⟨harbiter, hclass, hne, hcomm _ _ harbiter hclass hne, hsame .security (by decide), hfield,
    (hfields _ _ hfield).1⟩

end StorageSetup
