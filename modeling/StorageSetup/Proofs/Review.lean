import Mathlib.Data.List.Induction
import StorageSetup.Proofs.Submit
/-!
# The plan under review

The review shows a plan that was made when the step was entered; a submission makes the plan of the
settings anew. Whatever is done on the screen keeps the two in step. An inventory that arrives on the
review does not: it changes the settings and the facts about the cluster, or puts the walk onto the
review from elsewhere, and makes no plan.

Key definitions: `Screen.Agrees`.
Key theorems: `Screen.agrees_handle`, `Screen.agrees_after`, `Screen.exists_entered`,
`Screen.plan_on_review`.
-/

namespace StorageSetup

namespace Session

variable {w : Session}

/-- A walk is put onto the review by no edit. -/
theorem isLastStep_of_edits {actions : List Action} (hb : w.InBounds) (h : w.Edits actions)
    (hl : (w.dispatchAll actions).isLastStep = true) : w.isLastStep = true := by
  rw [isLastStep_iff] at hl ⊢
  rcases Nat.eq_zero_or_pos w.current with h0 | h0
  · have h2 := (w.dispatchAll actions).length_names.1
    rw [current_dispatchAll_of_start actions h0] at hl
    omega
  · have hnames := names_reduceAll w (h.not_writes fun hx =>
      not_mem_reads_of_edits hb (backing_mem_behind h0) hx (by decide))
    rw [dispatchAll_of_edits hb h0 h, hnames] at hl
    exact hl

theorem isLastStep_followDisks (hb : w.InBounds) (i : Inventory) :
    (w.followDisks i).isLastStep = w.isLastStep := by
  obtain ⟨hnames, hcurrent⟩ := names_followDisks hb i
  rw [Bool.eq_iff_iff, isLastStep_iff, isLastStep_iff, hnames, hcurrent]

theorem inBounds_following (hb : w.InBounds) (i : Option Inventory) : (w.following i).InBounds := by
  cases i with
  | none => exact hb
  | some i => exact inBounds_followDisks hb i

theorem isLastStep_following (hb : w.InBounds) (i : Option Inventory) :
    (w.following i).isLastStep = w.isLastStep := by
  cases i with
  | none => rfl
  | some i => exact isLastStep_followDisks hb i

end Session

namespace Screen

variable {s s' : Screen}

/-- On the review the plan that is shown is the plan of the settings. -/
def Agrees (s : Screen) : Prop :=
  s.step = .reviewAndCreate → s.plan = some s.planned

theorem Entered.agrees (h : s.Entered) : s.Agrees := by
  intro hr
  rw [h, if_pos hr]

/-- A new screen stands on its first step without a plan. -/
theorem entered_new (config : Config) (r : Registry) : (Screen.new config r).Entered := by
  have hr : (Screen.new config r).step ≠ .reviewAndCreate := by
    intro hr
    have hl := (Session.isLastStep_iff _).mp
      ((Session.review_iff_isLastStep (Session.inBounds_new {} r)).mp hr)
    have h2 := (Session.new {} r).length_names.1
    have h0 : (Session.new {} r).current = 0 := rfl
    omega
  unfold Entered
  rw [if_neg hr]
  rfl

/-! ### One event -/

/-- Where walk, configuration and plan stay, so does the agreement. -/
theorem agrees_of_same (hs : s'.session = s.session) (hc : s'.config = s.config)
    (hp : s'.plan = s.plan) (h : s.Agrees) : s'.Agrees := by
  intro hr
  have hplanned : s'.planned = s.planned := by
    unfold planned
    rw [hs, hc]
  have hr : s.step = .reviewAndCreate := by
    unfold step at hr ⊢
    rwa [hs] at hr
  rw [hp, hplanned]
  exact h hr

/-- The rows of the summary make nothing. -/
theorem step_ne_review_of_makes {row : Row} {actions : List Action} (hrow : row ∈ s.rows)
    (hmade : row.Makes actions) : s.step ≠ .reviewAndCreate := by
  intro hr
  unfold rows at hrow
  rw [hr] at hrow
  unfold Row.Makes at hmade
  rw [Form.readOnly_of_mem_reviewRows hrow] at hmade
  exact hmade

/-- An edit does not lead onto the review. -/
theorem Handled.agrees (hg : s.Guarded) (h : Handled s s') (ha : s.Agrees) : s'.Agrees := by
  obtain ⟨hmoved, hinventory, hconfig⟩ := h
  cases hmoved with
  | stayed hs hp => exact agrees_of_same hs hconfig hp ha
  | @edited row actions hrow hmade hs _ =>
    intro hr
    -- the walk would have to stand on the review already, whose rows make nothing
    have hedits := edits_of_makes hrow hmade
    have hb := Session.inBounds_dispatchAll actions hg.inBounds
    have hb' : s'.session.InBounds := hs ▸ Session.inBounds_following hb _
    have hl := (Session.review_iff_isLastStep hb').mp hr
    rw [hs, Session.isLastStep_following hb] at hl
    have hlast := Session.isLastStep_of_edits hg.inBounds hedits hl
    exact absurd ((Session.review_iff_isLastStep hg.inBounds).mpr hlast)
      (step_ne_review_of_makes hrow hmade)
  | next _ he => exact he.agrees
  | back _ he => exact he.agrees
  | jumped _ he => exact he.agrees

/-- **Only an inventory that arrives can part the plan under review from that of the settings.** -/
theorem agrees_handle (files : Files) (hg : s.Guarded) (ha : s.Agrees) {e : Event}
    (he : ∀ i, e ≠ .inventory (.ok i)) : (s.handle files e).1.Agrees := by
  cases e with
  | key k => exact (handled_press files k s).agrees hg ha
  | inventory result =>
    cases result with
    | ok i => exact absurd rfl (he i)
    | error message => exact agrees_of_same rfl rfl rfl ha
  | finished failure => cases failure <;> exact agrees_of_same rfl rfl rfl ha
  | _ => exact agrees_of_same rfl rfl rfl ha

/-- A plan is made when a step is entered and at no other time. -/
theorem entered_or_plan_handle (files : Files) (s : Screen) (e : Event) :
    (s.handle files e).1.Entered ∨ (s.handle files e).1.plan = s.plan := by
  cases e with
  | key k =>
    cases (handled_press files k s).moved with
    | stayed _ hp => exact .inr hp
    | edited _ _ _ hp => exact .inr hp
    | next _ he => exact .inl he
    | back _ he => exact .inl he
    | jumped _ he => exact .inl he
  | inventory result =>
    right
    cases result with
    | ok i =>
      show (s.showInventory (.ok i)).plan = _
      rw [showInventory_eq]
    | error message => rfl
  | finished failure => cases failure <;> exact .inr rfl
  | _ => exact .inr rfl

/-! ### Runs -/

theorem agrees_after : ∀ (events : List (Files × Event)) {s : Screen}, s.Guarded → s.Agrees →
    (∀ e ∈ events, ∀ i, e.2 ≠ .inventory (.ok i)) → (s.after events).Agrees
  | [], _, _, ha, _ => ha
  | e :: events, _, hg, ha, he =>
    agrees_after events (guarded_handle e.1 hg e.2)
      (agrees_handle e.1 hg ha (he e List.mem_cons_self))
      fun e' h => he e' (List.mem_cons_of_mem _ h)

/-- The plan that is shown was made at the last time a step was entered. -/
theorem exists_entered (hs : s.Entered) (events : List (Files × Event)) : ∃ before rest,
    events = before ++ rest ∧ (s.after before).Entered ∧
      ∀ mid, mid <+: rest → ((s.after before).after mid).plan = (s.after before).plan := by
  induction events using List.reverseRecOn with
  | nil => exact ⟨[], [], rfl, hs, fun mid hmid => by rw [List.prefix_nil.mp hmid]; rfl⟩
  | append_singleton events e ih =>
    obtain ⟨before, rest, hevents, hentered, hplan⟩ := ih
    -- the last event enters a step, or the plan before it is still there
    have hlast : s.after (events ++ [e]) = ((s.after events).handle e.1 e.2).1 := after_append _ _ _
    rcases entered_or_plan_handle e.1 (s.after events) e.2 with he | hp
    · refine ⟨events ++ [e], [], (List.append_nil _).symm, hlast ▸ he, fun mid hmid => ?_⟩
      rw [List.prefix_nil.mp hmid]
      rfl
    · refine ⟨before, rest ++ [e], by rw [hevents, List.append_assoc], hentered, fun mid hmid => ?_⟩
      rcases List.prefix_concat_iff.mp hmid with rfl | hmid
      · rw [← after_append, ← List.append_assoc, ← hevents, hlast, hp, hevents, after_append]
        exact hplan rest List.prefix_rfl
      · exact hplan mid hmid

/-- **Where the plan under review is that of the settings.** On the review, the plan that is shown
is the plan of the settings if it was so at some time and no inventory has arrived since. In any
case it was made when a step was last entered, so it is the plan of the settings exactly if that
step was the review and the settings of then lead to the same plan. -/
theorem plan_on_review (config : Config) (r : Registry) (events : List (Files × Event)) :
    let s := (Screen.new config r).after events
    s.step = .reviewAndCreate →
      (∀ before rest, events = before ++ rest →
        let t := (Screen.new config r).after before
        (t.step = .reviewAndCreate → t.plan = some t.planned) →
        (∀ e ∈ rest, ∀ i, e.2 ≠ .inventory (.ok i)) → s.plan = some s.planned) ∧
      ∃ before rest, events = before ++ rest ∧
        let t := (Screen.new config r).after before
        t.Entered ∧ (∀ mid, mid <+: rest → (t.after mid).plan = t.plan) ∧
        (s.plan = some s.planned ↔ t.step = .reviewAndCreate ∧ t.planned = s.planned) := by
  intro s hr
  constructor
  · intro before rest hevents t ha he
    have hs : s = t.after rest := by rw [← after_append, ← hevents]
    have hg : t.Guarded := guarded_after before (guarded_new config r)
    rw [hs] at hr ⊢
    exact agrees_after rest hg ha he hr
  · obtain ⟨before, rest, hevents, hentered, hplan⟩ :=
      exists_entered (entered_new config r) events
    refine ⟨before, rest, hevents, hentered, hplan, ?_⟩
    have hs : s = ((Screen.new config r).after before).after rest := by
      rw [← after_append, ← hevents]
    have hkept : s.plan = ((Screen.new config r).after before).plan :=
      hs ▸ hplan rest List.prefix_rfl
    rw [hkept, hentered]
    split_ifs with ht
    · rw [Option.some.injEq]
      exact (and_iff_right ht).symm
    · exact iff_of_false nofun fun h => ht h.1

/-! ### An inventory on the review -/

theorem plan_on_review_eventsToReview :
    let s := (Screen.new {} .builtins).after eventsToReview
    s.step = .reviewAndCreate ∧ s.plan = some s.planned := by
  intro s
  have hr : s.step = .reviewAndCreate := by decide
  refine ⟨hr, (plan_on_review {} .builtins eventsToReview hr).1
    [(noFiles, .inventory (.ok .threeDisks))] (keysToReview.map fun k => (noFiles, .key k)) rfl
    (fun ht => absurd ht (by decide)) ?_⟩
  intro e he i
  obtain ⟨k, _, rfl⟩ := List.mem_map.mp he
  exact nofun

/-- The same cluster with storage on it. -/
def threeDisksWithStorage : Inventory :=
  { Inventory.threeDisks with storageClusters := [{ name := "ocs-storagecluster" }] }

/-- What is shown on the review is not always what a submission carries out. -/
theorem not_plan_on_review : ¬ ∀ events : List (Files × Event),
    let s := (Screen.new {} .builtins).after events
    s.step = .reviewAndCreate → s.submission = .idle → s.plan = some s.planned := by
  intro hall
  let events := eventsToReview ++ [(noFiles, .inventory (.ok threeDisksWithStorage))]
  let s := (Screen.new {} .builtins).after events
  have hplan : s.plan = some s.planned := hall events (by decide) (by decide)
  have hshown : s.plan.any Except.isOk = true := by decide
  rw [hplan] at hshown
  exact absurd hshown (by decide)

end Screen
end StorageSetup
