import StorageSetup.Proofs.Press
import StorageSetup.Proofs.Replay
/-!
# Gates at the submission

On the screen a step is left through its gate and edited in its form alone, so the settings of all
steps behind the walk stay complete, whatever keys are pressed and whatever arrives from outside. A
submission is asked for on the review, with all other steps behind it. What can be lost on the way
is the number of nodes with matching disks: an inventory that arrives after the step of the volume
set was left replaces them. The planner checks the steps against the cluster once more, but not that
number.

Key definitions: `Session.Follows`, `Screen.Guarded`.
Key theorems: `Screen.guarded_handle`, `Screen.charted_handle`, `Screen.submit_behind_gates`.
-/

namespace StorageSetup

namespace Session

variable {w : Session} {i : Inventory}

/-- On local devices the nodes of the volume set are those with matching disks. -/
def Follows (w : Session) (i : Inventory) : Prop :=
  w.state.backingStorage.type = .localDevices → w.state.localVolumes.chartNodes =
    w.state.localVolumes.matchingNodes i.nodeNames i.devices

/-! ### Following an inventory -/

theorem followDisks_of_local (hb : w.InBounds) (ht : w.state.backingStorage.type = .localDevices) :
    ∃ count, w.followDisks i = { w with
      state := reduce (reduce w.state (.setLocalVolumes (.chartNodes
        (w.state.localVolumes.matchingNodes i.nodeNames i.devices)))) (.setPvCount count) } := by
  unfold followDisks usesLocalDevices
  rw [if_pos (decide_eq_true ht)]
  exact refreshLocalVolumes_eq _ _ hb

theorem followDisks_of_not_local (ht : w.state.backingStorage.type ≠ .localDevices) :
    w.followDisks i = w := by
  unfold followDisks usesLocalDevices
  rw [if_neg (by simpa using ht)]

theorem inBounds_followDisks (hb : w.InBounds) (i : Inventory) : (w.followDisks i).InBounds := by
  unfold followDisks refreshLocalVolumes
  dsimp only
  split_ifs
  · exact inBounds_clamp _
  · exact hb

/-- Following the disks moves no step and no place. -/
theorem names_followDisks (hb : w.InBounds) (i : Inventory) :
    (w.followDisks i).names = w.names ∧ (w.followDisks i).current = w.current := by
  by_cases ht : w.state.backingStorage.type = .localDevices
  · obtain ⟨count, he⟩ := followDisks_of_local (i := i) hb ht
    rw [he]
    exact ⟨stepNames_congr _ _ rfl, rfl⟩
  · rw [followDisks_of_not_local ht]
    exact ⟨rfl, rfl⟩

theorem behind_followDisks (hb : w.InBounds) (hw : w.Behind) (i : Inventory) :
    (w.followDisks i).Behind := by
  unfold followDisks
  split_ifs
  · exact behind_refreshLocalVolumes _ _ hb hw
  · exact hw

theorem follows_followDisks (hb : w.InBounds) (i : Inventory) : (w.followDisks i).Follows i := by
  intro ht
  by_cases hl : w.state.backingStorage.type = .localDevices
  · obtain ⟨count, he⟩ := followDisks_of_local (i := i) hb hl
    rw [he]
    rfl
  · rw [followDisks_of_not_local hl] at ht
    exact absurd ht hl

/-- After an edit behind the volume set the disks are followed already. -/
theorem charted_followDisks (hb : w.InBounds) (hw : w.Charted)
    (hf : 1 < w.current → w.Follows i) : (w.followDisks i).Charted := by
  by_cases hl : w.state.backingStorage.type = .localDevices
  · obtain ⟨count, he⟩ := followDisks_of_local (i := i) hb hl
    rw [he]
    intro ht h1
    show _ ≤ (w.state.localVolumes.matchingNodes i.nodeNames i.devices).size
    rw [← hf h1 hl]
    exact hw hl h1
  · rw [followDisks_of_not_local hl]
    exact hw

/-- An edit behind the volume set leaves the disks followed. -/
theorem follows_dispatchAll {actions : List Action} (hb : w.InBounds) (h : w.Edits actions)
    (hf : w.Follows i) (h1 : 1 < (w.dispatchAll actions).current) :
    (w.dispatchAll actions).Follows i := by
  have h0 : 0 < w.current := by
    rcases Nat.eq_zero_or_pos w.current with h0 | h0
    · rw [current_dispatchAll_of_start actions h0] at h1
      exact absurd h1 (by decide)
    · exact h0
  rw [dispatchAll_of_edits hb h0 h] at h1 ⊢
  intro ht
  change (reduceAll w.state actions).backingStorage.type = _ at ht
  rw [backingStorage_of_edits hb h h0] at ht
  show (reduceAll w.state actions).localVolumes.chartNodes =
    (reduceAll w.state actions).localVolumes.matchingNodes _ _
  rw [localVolumes_of_edits hb h ht h1]
  exact hf ht

theorem follows_advance (hf : w.Follows i) : w.advance.Follows i := by
  intro ht
  rw [backingStorage_advance] at ht
  rw [localVolumes_advance]
  exact hf ht

end Session

namespace Screen

theorem after_append (s : Screen) (before rest : List (Files × Event)) :
    s.after (before ++ rest) = (s.after before).after rest :=
  List.foldl_append

/-- What holds of the screen at all times. -/
structure Guarded (s : Screen) : Prop where
  inBounds : s.session.InBounds
  behind : s.session.Behind
  follows : ∀ i, s.inventory.value? = some i → s.session.Follows i

theorem guarded_new (config : Config) (r : Registry) : (Screen.new config r).Guarded where
  inBounds := Session.inBounds_new _ _
  behind := Session.behind_of_start rfl
  follows i h := by cases h

/-! ### One event -/

variable {s s' : Screen}

/-- What a row of the form makes is an edit of the current step. -/
theorem edits_of_makes {row : Row} {actions : List Action} (hrow : row ∈ s.rows)
    (hmade : row.Makes actions) : s.session.Edits actions :=
  Form.rows_within _ _ _ row hrow actions hmade

theorem guarded_of_session (hg : s.Guarded) (h : s'.session = s.session)
    (hi : ∀ i, s'.inventory.value? = some i → s.inventory.value? = some i) : s'.Guarded where
  inBounds := h ▸ hg.inBounds
  behind := h ▸ hg.behind
  follows i hs := h ▸ hg.follows i (hi i hs)

/-- A key keeps what holds at all times. -/
theorem Handled.guarded (h : Handled s s') (hg : s.Guarded) : s'.Guarded := by
  obtain ⟨hmoved, hinventory, _⟩ := h
  cases hmoved with
  | stayed h _ => exact guarded_of_session hg h fun i hi => by rwa [hinventory] at hi
  | @edited row actions hrow hmade h _ =>
    have hedits := edits_of_makes hrow hmade
    have hb := Session.inBounds_dispatchAll actions hg.inBounds
    have hw := Session.behind_dispatchAll hg.inBounds hg.behind hedits
    cases hv : s.inventory.value? with
    | none =>
      rw [hv] at h
      exact ⟨h ▸ hb, h ▸ hw, fun i hi => by rw [hinventory, hv] at hi; cases hi⟩
    | some i =>
      rw [hv] at h
      refine ⟨h ▸ Session.inBounds_followDisks hb i, h ▸ Session.behind_followDisks hb hw i,
        fun j hj => ?_⟩
      rw [hinventory, hv] at hj
      cases hj
      rw [h]
      exact Session.follows_followDisks hb i
  | next h _ =>
    rcases Session.eq_of_next hg.inBounds h with ⟨he, _⟩ | ⟨he, hlt, hc⟩
    · exact guarded_of_session hg he fun i hi => by rwa [hinventory] at hi
    · refine ⟨he ▸ Session.inBounds_advance hlt,
        he ▸ Session.behind_advance hg.inBounds hg.behind hc, fun i hi => ?_⟩
      rw [hinventory] at hi
      rw [he]
      exact Session.follows_advance (hg.follows i hi)
  | back h _ =>
    refine ⟨h ▸ Session.inBounds_back hg.inBounds, h ▸ Session.behind_back hg.behind,
      fun i hi => ?_⟩
    rw [hinventory] at hi
    rw [h]
    exact hg.follows i hi
  | jumped h _ =>
    refine ⟨Session.inBounds_jumpTo h, Session.behind_jumpTo h, fun i hi => ?_⟩
    rw [hinventory] at hi
    rw [(Session.eq_of_jumpTo h).2]
    exact hg.follows i hi

/-- A key keeps the number of nodes that the gate of the volume set asked for. -/
theorem Handled.charted (h : Handled s s') (hg : s.Guarded) (hs : s.session.Charted) :
    s'.session.Charted := by
  obtain ⟨hmoved, _, _⟩ := h
  cases hmoved with
  | stayed h _ => exact h ▸ hs
  | edited hrow hmade h _ =>
    have hedits := edits_of_makes hrow hmade
    have hw := Session.charted_dispatchAll hg.inBounds hs hedits
    rw [h]
    cases hv : s.inventory.value? with
    | none => exact hw
    | some i =>
      exact Session.charted_followDisks (Session.inBounds_dispatchAll _ hg.inBounds) hw
        (Session.follows_dispatchAll hg.inBounds hedits (hg.follows i hv))
  | next h _ =>
    rcases Session.eq_of_next hg.inBounds h with ⟨he, _⟩ | ⟨he, _, hc⟩
    · exact he ▸ hs
    · exact he ▸ Session.charted_advance hg.inBounds hs hc
  | back h _ => exact h ▸ Session.charted_back hs
  | jumped h _ => exact Session.charted_jumpTo h

/-- An inventory is followed as soon as it is here. -/
theorem guarded_showInventory (hg : s.Guarded) (i : Inventory) :
    (s.showInventory (.ok i)).Guarded := by
  have hb : (s.session.setContext i.context).InBounds := Session.inBounds_clamp _
  rw [showInventory_eq]
  exact {
    inBounds := Session.inBounds_followDisks hb i
    behind := Session.behind_followDisks hb
      (Session.behind_setContext hg.inBounds hg.behind i.context) i
    follows := fun j hj => by
      cases hj
      exact Session.follows_followDisks hb i }

/-- **Every event keeps what holds at all times.** -/
theorem guarded_handle (files : Files) (hg : s.Guarded) (e : Event) :
    (s.handle files e).1.Guarded := by
  cases e with
  | key k => exact (handled_press files k s).guarded hg
  | loading => exact guarded_of_session hg rfl fun i hi => by cases hi
  | inventory result =>
    cases result with
    | ok i => exact guarded_showInventory hg i
    | error message => exact guarded_of_session hg rfl fun i hi => by cases hi
  | finished failure =>
    cases failure <;> exact guarded_of_session hg rfl fun i hi => hi
  | _ => exact guarded_of_session hg rfl fun i hi => hi

/-- **Only an inventory that arrives can take nodes from the volume set behind the walk.** -/
theorem charted_handle (files : Files) (hg : s.Guarded) (hs : s.session.Charted) {e : Event}
    (he : ∀ i, e ≠ .inventory (.ok i)) : (s.handle files e).1.session.Charted := by
  cases e with
  | key k => exact (handled_press files k s).charted hg hs
  | inventory result =>
    cases result with
    | ok i => exact absurd rfl (he i)
    | error message => exact hs
  | finished failure => cases failure <;> exact hs
  | _ => exact hs

/-! ### Runs -/

theorem guarded_after : ∀ (events : List (Files × Event)) {s : Screen}, s.Guarded →
    (s.after events).Guarded
  | [], _, h => h
  | e :: events, _, h => guarded_after events (guarded_handle e.1 h e.2)

theorem charted_after : ∀ (events : List (Files × Event)) {s : Screen}, s.Guarded →
    s.session.Charted → (∀ e ∈ events, ∀ i, e.2 ≠ .inventory (.ok i)) →
    (s.after events).session.Charted
  | [], _, _, hs, _ => hs
  | e :: events, _, hg, hs, he =>
    charted_after events (guarded_handle e.1 hg e.2)
      (charted_handle e.1 hg hs (he e List.mem_cons_self))
      fun e' h => he e' (List.mem_cons_of_mem _ h)

/-- On the review the settings of all steps are complete. -/
theorem Guarded.settings_of_review (hg : s.Guarded) (hr : s.step = .reviewAndCreate) :
    ∀ n ∈ s.session.names, checkSettings n s.session.state s.session.registry = .ok () := by
  intro n hn
  have hl := (Session.review_iff_isLastStep hg.inBounds).mp hr
  rcases Session.mem_names_of_last hg.inBounds hl hn with hn | rfl
  · exact hg.behind n hn
  · rfl

/-- All gates are open on the review where the volume set has nodes enough. -/
theorem Guarded.open_iff (hg : s.Guarded) (hr : s.step = .reviewAndCreate) :
    (∀ n ∈ s.session.names, checkStep n s.session.state s.session.registry = .ok ()) ↔
      (s.session.state.backingStorage.type = .localDevices →
        minimumNodes ≤ s.session.state.localVolumes.chartNodes.size) := by
  constructor
  · intro h ht
    have hv := h _ (volumeSet_mem_stepNames s.session.context s.session.registry ht)
    exact (checkStep_eq_ok_iff.mp hv).2 rfl
  · intro h n hn
    refine checkStep_eq_ok_iff.mpr ⟨hg.settings_of_review hr n hn, ?_⟩
    rintro rfl
    exact h (Session.type_of_volumeSet_mem hn)

/-- The planner checks every step against the cluster. -/
theorem checkCluster_of_planned {plan : Plan} (h : s.planned = .ok plan) :
    ∀ n ∈ s.session.names,
      checkCluster n s.session.state s.session.context s.session.registry = .ok () := by
  unfold planned at h
  rw [planSubmission_eq] at h
  obtain ⟨_, hconflicts, _⟩ := bind_eq_ok_iff.mp h
  rw [checkConflicts_eq_ok_iff, map_name_computeSteps] at hconflicts
  exact hconflicts

/-- **What a submission leaves behind.** Whatever happened before, where a key asks for a submission
and there is a plan, no step clashes with the cluster and the settings of all steps are complete.
The one condition that may have been lost is the number of nodes with matching disks, and it is lost
only to an inventory that arrived after the step of the volume set was left. -/
theorem submit_behind_gates (config : Config) (r : Registry) (events : List (Files × Event))
    (files : Files) (k : Key) :
    let s := (Screen.new config r).after events
    (s.press files k).2 = some .submit → ∀ plan, s.planned = .ok plan →
      (∀ step ∈ s.session.steps,
        checkCluster step.name s.session.state s.session.context s.session.registry = .ok () ∧
        (step.name ≠ .createLocalVolumeSet →
          checkStep step.name s.session.state s.session.registry = .ok ()) ∧
        (step.name = .createLocalVolumeSet →
          Text.isBlank s.session.state.localVolumes.name = false ∧
          s.session.state.localVolumes.isValid = true)) ∧
      ((∀ step ∈ s.session.steps,
          checkStep step.name s.session.state s.session.registry = .ok ()) ↔
        (s.session.state.backingStorage.type = .localDevices →
          minimumNodes ≤ s.session.state.localVolumes.chartNodes.size)) ∧
      ∀ before rest, events = before ++ rest →
        ((Screen.new config r).after before).session.current ≤ 1 →
        (∀ e ∈ rest, ∀ i, e.2 ≠ .inventory (.ok i)) →
        ∀ step ∈ s.session.steps,
          checkStep step.name s.session.state s.session.registry = .ok () := by
  intro s hsubmit plan hplan
  have hg : s.Guarded := guarded_after events (guarded_new config r)
  have hr : s.step = .reviewAndCreate := (step_of_submit hsubmit).1
  have hopen : (∀ step ∈ s.session.steps,
      checkStep step.name s.session.state s.session.registry = .ok ()) ↔ _ :=
    (s.session.forall_steps _).trans (hg.open_iff hr)
  refine ⟨?_, hopen, fun before rest hevents hcurrent hrest => hopen.mpr fun ht => ?_⟩
  · intro step hstep
    have hn := Session.name_mem_names hstep
    have hsettings := hg.settings_of_review hr _ hn
    refine ⟨checkCluster_of_planned hplan _ hn, fun hne => ?_, fun he => ?_⟩
    · exact checkStep_eq_ok_iff.mpr ⟨hsettings, fun he => absurd he hne⟩
    · rw [he] at hsettings
      exact Gate.volumeSettings_eq_ok_iff.mp hsettings
  · have hs : s = ((Screen.new config r).after before).after rest := by
      rw [← after_append, ← hevents]
    have hcharted : s.session.Charted := by
      rw [hs]
      exact charted_after rest (guarded_after before (guarded_new config r))
        (fun _ h1 => absurd h1 (by omega)) hrest
    exact hcharted ht (Session.one_lt_of_review hg.inBounds hr ht)

/-! ### An inventory on the review -/

/-- No file can be read. -/
def noFiles : Files :=
  fun _ => none

/-- The keys that set up the object gateway alone on the local devices of three nodes, up to the
review. -/
def keysToReview : List Key :=
  [.enter, .down, .enter, .char 'n', .enter, .char 'a', .enter, .char 'n', .down, .enter, .down,
    .enter, .down, .enter, .char 'n', .char 'n']

/-- The inventory arrives, and the keys are pressed. -/
def eventsToReview : List (Files × Event) :=
  (noFiles, .inventory (.ok .threeDisks)) :: keysToReview.map fun k => (noFiles, .key k)

/-- The same cluster with its disks gone. -/
def disksGone : Inventory :=
  { Inventory.threeDisks with devices := [] }

theorem submit_behind_gates_eventsToReview :
    let s := (Screen.new {} .builtins).after eventsToReview
    (s.press noFiles .enter).2 = some .submit ∧ (∃ plan, s.planned = .ok plan) ∧
      ∀ step ∈ s.session.steps,
        checkStep step.name s.session.state s.session.registry = .ok () := by
  intro s
  have hsubmit : (s.press noFiles .enter).2 = some .submit := by decide
  obtain ⟨plan, hplan⟩ : ∃ plan, s.planned = .ok plan := exists_of_isOk (by decide)
  refine ⟨hsubmit, ⟨plan, hplan⟩, ?_⟩
  refine (submit_behind_gates {} .builtins eventsToReview noFiles .enter hsubmit plan hplan).2.2
    [(noFiles, .inventory (.ok .threeDisks))] (keysToReview.map fun k => (noFiles, .key k)) rfl
    (by decide) ?_
  intro e he i
  obtain ⟨k, _, rfl⟩ := List.mem_map.mp he
  exact nofun

/-- A submission can leave the gate of the volume set closed. -/
theorem not_submit_behind_open_gates : ¬ ∀ (events : List (Files × Event)) (files : Files)
    (k : Key),
    let s := (Screen.new {} .builtins).after events
    (s.press files k).2 = some .submit → ∀ plan, s.planned = .ok plan →
      ∀ step ∈ s.session.steps,
        checkStep step.name s.session.state s.session.registry = .ok () := by
  intro hall
  let events := eventsToReview ++ [(noFiles, .inventory (.ok disksGone))]
  let s := (Screen.new {} .builtins).after events
  have hsubmit : (s.press noFiles .enter).2 = some .submit := by decide
  obtain ⟨plan, hplan⟩ : ∃ plan, s.planned = .ok plan := exists_of_isOk (by decide)
  have hopen := hall events noFiles .enter hsubmit plan hplan
  rw [Session.forall_steps s.session fun n => checkStep n _ _ = .ok ()] at hopen
  have hv := hopen .createLocalVolumeSet (by decide)
  exact absurd (Gate.localVolumeSet_eq_ok_iff.mp hv).2 (by decide)

end Screen
end StorageSetup
