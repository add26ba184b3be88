import StorageSetup.Proofs.Submit
/-!
# One submission

What the screen asks for is done outside it, and the outside reports back by events. Where it
reports of a submission only after a key has asked for one, and before the next key, a submission is
asked for once, and the first report freezes the screen. A text that is being edited would still
take keys then, but the key that asks for a submission was pressed on the form, and only a key opens
an editor.

Key definitions: `Screen.Frozen`, `Screen.Request`, `Screen.Orderly`, `Screen.commands`.
Key theorems: `Screen.press_of_frozen`, `Screen.Request.Holds.handle`, `Screen.one_submission`.
-/

namespace StorageSetup

namespace Screen

variable {s : Screen} {files : Files} {k : Key}

/-- A submission has started, and no text is being edited. -/
def Frozen (s : Screen) : Prop :=
  s.submission ≠ .idle ∧ s.editing = none

/-! ### Keys and the submission -/

/-- **A key leaves a frozen screen, and can ask for nothing but to leave it.** -/
theorem press_of_frozen (h : s.Frozen) (files : Files) (k : Key) :
    (s.press files k).1 = s ∧
      ((s.press files k).2 = none ∨ (s.press files k).2 = some .quit) := by
  obtain ⟨hstarted, hediting⟩ := h
  unfold press
  split
  · next htext => cases hediting.symm.trans htext
  · next hidle => exact absurd hidle hstarted
  · refine ⟨rfl, ?_⟩
    dsimp only
    split_ifs
    · exact .inr rfl
    · exact .inl rfl

/-- A key asks for a submission where there is none, and where no text is being edited. -/
theorem idle_of_submit (h : (s.press files k).2 = some .submit) :
    s.submission = .idle ∧ s.editing = none := by
  unfold press at h
  split at h
  · cases h
  · next hediting hidle => exact ⟨hidle, hediting⟩
  · dsimp only at h
    split_ifs at h
    cases h

theorem submission_dispatch (s : Screen) (actions : List Action) :
    (s.dispatch actions).submission = s.submission := by
  unfold dispatch clampSelection
  rw [refreshLocalVolumes_eq]

theorem submission_pressInEditor (s : Screen) (files : Files) (text : String) (k : Key) :
    (s.pressInEditor files text k).submission = s.submission := by
  cases k with
  | enter =>
    unfold pressInEditor commit
    dsimp only
    split
    · exact submission_dispatch _ _
    · rfl
  | _ => rfl

theorem submission_activate (s : Screen) : s.activate.1.submission = s.submission := by
  unfold activate
  split
  · exact submission_dispatch _ _
  all_goals rfl

theorem submission_follow (s : Screen) (moved : Except NavigationError Session) :
    (s.follow moved).submission = s.submission := by
  cases moved <;> rfl

theorem submission_select (s : Screen) : s.selectPrevious.submission = s.submission ∧
    s.selectNext.submission = s.submission := by
  unfold selectPrevious selectNext
  dsimp only
  split_ifs <;> exact ⟨rfl, rfl⟩

theorem submission_pressOnForm (s : Screen) (k : Key) :
    (s.pressOnForm k).1.submission = s.submission := by
  unfold pressOnForm
  split
  case h_4 | h_5 => exact (submission_select s).1
  case h_6 | h_7 => exact (submission_select s).2
  case h_8 | h_9 => exact submission_activate s
  case h_10 | h_11 | h_12 | h_13 | h_14 | h_15 => exact submission_follow s _
  case h_16 =>
    split
    · exact submission_follow s _
    · rfl
  all_goals rfl

/-- **The submission is not changed by keys.** -/
theorem submission_press (s : Screen) (files : Files) (k : Key) :
    (s.press files k).1.submission = s.submission := by
  unfold press
  split
  · exact submission_pressInEditor s files _ k
  · exact submission_pressOnForm s k
  · rfl

/-! ### The outside -/

/-- An event reports of the submission. -/
def Event.isReport : Event → Bool
  | progress _ _ | finished _ => true
  | _ => false

/-- How far the outside is with the submission that the screen asks for. -/
inductive Request where
  | unasked
  /-- A key has asked for it, and there is no report yet. -/
  | asked
  | answered
  deriving DecidableEq

/-- The outside reports of nothing that was not asked for, and reports before the next key. -/
def Request.allows : Request → Event → Bool
  | unasked, e => !e.isReport
  | asked, .key _ => false
  | _, _ => true

/-- The request after an event and what the screen asks for at it. -/
def Request.following (x : Request) (e : Event) (c : Option Command) : Request :=
  if e.isReport then answered else if c = some .submit then asked else x

/-- The outside is in order with the screen all along. -/
def Orderly : Request → Screen → List (Files × Event) → Prop
  | _, _, [] => True
  | x, s, e :: events => x.allows e.2 = true ∧
      Orderly (x.following e.2 (s.handle e.1 e.2).2) (s.handle e.1 e.2).1 events

instance decidableOrderly : ∀ x s events, Decidable (Orderly x s events)
  | _, _, [] => isTrue trivial
  | x, s, e :: events =>
    have := decidableOrderly (x.following e.2 (s.handle e.1 e.2).2) (s.handle e.1 e.2).1 events
    inferInstanceAs (Decidable (_ ∧ _))

/-- What the screen asks for at several events. -/
def commands (s : Screen) : List (Files × Event) → List Command
  | [] => []
  | e :: events => (s.handle e.1 e.2).2.toList ++ (s.handle e.1 e.2).1.commands events

/-! ### One event -/

/-- What holds of the screen while a request is as it is. -/
def Request.Holds : Request → Screen → Prop
  | unasked, s => s.submission = .idle
  | asked, s => s.submission = .idle ∧ s.editing = none
  | answered, s => s.Frozen

namespace Request

variable {x : Request} {e : Event}

theorem following_of_submit {c : Option Command} (x : Request) (k : Key)
    (hsubmit : c = some .submit) : x.following (.key k) c = asked := by
  rw [following, if_neg nofun, if_pos hsubmit]

/-- A submission is asked for by a key, and for the first time. -/
theorem Holds.unasked_of_submit (h : x.Holds s) (ha : x.allows e = true)
    (hsubmit : (s.handle files e).2 = some .submit) : x = unasked ∧ ∃ k, e = .key k := by
  cases e with
  | key k =>
    refine ⟨?_, k, rfl⟩
    cases x with
    | unasked => rfl
    | asked => cases ha
    | answered => exact absurd (idle_of_submit hsubmit).1 h.1
  | finished failure => cases failure <;> cases hsubmit
  | _ => cases hsubmit

theorem Holds.of_same {s' : Screen} (h : x.Holds s) (hsubmission : s'.submission = s.submission)
    (hediting : s'.editing = s.editing) : x.Holds s' := by
  cases x <;> simpa only [Holds, Frozen, hsubmission, hediting] using h

/-- After a report the screen is frozen. -/
theorem frozen_of_report (h : x.Holds s) (ha : x.allows e = true) (hreport : e.isReport = true) :
    (s.handle files e).1.Frozen := by
  have hediting : s.editing = none := by
    cases x with
    | unasked =>
      rw [allows, hreport] at ha
      cases ha
    | asked => exact h.2
    | answered => exact h.2
  cases e with
  | progress index operation => exact ⟨nofun, hediting⟩
  | finished failure => cases failure <;> exact ⟨nofun, hediting⟩
  | _ => cases hreport

/-- A key leaves what holds. -/
theorem Holds.press (h : x.Holds s) (ha : x.allows (.key k) = true) :
    (x.following (.key k) (s.press files k).2).Holds (s.press files k).1 := by
  by_cases hsubmit : (s.press files k).2 = some .submit
  · -- such a key changes nothing, and was not pressed in an editor
    rw [following_of_submit x k hsubmit, (step_of_submit hsubmit).2]
    exact idle_of_submit hsubmit
  · rw [following, if_neg nofun, if_neg hsubmit]
    cases x with
    | unasked => exact (submission_press s files k).trans h
    | asked => cases ha
    | answered =>
      rw [(press_of_frozen h files k).1]
      exact h

/-- **Every event that the outside may make keeps what holds.** -/
theorem Holds.handle (h : x.Holds s) (ha : x.allows e = true) :
    (x.following e (s.handle files e).2).Holds (s.handle files e).1 := by
  by_cases hreport : e.isReport = true
  · rw [following, if_pos hreport]
    exact frozen_of_report h ha hreport
  · cases e with
    | key k => exact h.press ha
    | progress index operation => exact absurd rfl hreport
    | finished failure => exact absurd rfl hreport
    | inventory result =>
      cases result with
      | ok i =>
        have hshown : (s.handle files (.inventory (.ok i))).1 = _ := showInventory_eq s i
        rw [hshown]
        exact h.of_same rfl rfl
      | error message => exact h.of_same rfl rfl
    | _ => exact h.of_same rfl rfl

/-! ### Runs -/

/-- The request after several events. -/
def after (x : Request) (s : Screen) : List (Files × Event) → Request
  | [] => x
  | e :: events => (x.following e.2 (s.handle e.1 e.2).2).after (s.handle e.1 e.2).1 events

/-- A request that was made once is not forgotten. -/
theorem following_ne_unasked (hx : x ≠ unasked) (e : Event) (c : Option Command) :
    x.following e c ≠ unasked := by
  unfold following
  split_ifs
  · exact nofun
  · exact nofun
  · exact hx

theorem Holds.after : ∀ (events : List (Files × Event)) {x : Request} {s : Screen}, x.Holds s →
    Orderly x s events → (x.after s events).Holds (s.after events)
  | [], _, _, h, _ => h
  | _ :: events, _, _, h, ho => Holds.after events (h.handle ho.1) ho.2

theorem after_ne_unasked : ∀ (events : List (Files × Event)) {x : Request} (s : Screen),
    x ≠ unasked → x.after s events ≠ unasked
  | [], _, _, hx => hx
  | _ :: events, _, _, hx => after_ne_unasked events _ (following_ne_unasked hx _ _)

/-- A report answers the request, and no event takes that back. -/
theorem Holds.following_eq_answered (h : x.Holds s) (ha : x.allows e = true)
    (hx : x = answered ∨ e.isReport = true) : x.following e (s.handle files e).2 = answered := by
  unfold following
  split_ifs with hreport hsubmit
  · rfl
  · have hunasked := (h.unasked_of_submit ha hsubmit).1
    rcases hx with hx | hx
    · cases hunasked.symm.trans hx
    · exact absurd hx hreport
  · exact hx.resolve_right hreport

theorem Holds.after_eq_answered : ∀ (events : List (Files × Event)) {x : Request} {s : Screen},
    x.Holds s → Orderly x s events → (x = answered ∨ ∃ e ∈ events, e.2.isReport = true) →
    x.after s events = answered
  | [], _, _, _, _, hx => hx.resolve_right nofun
  | _ :: events, _, _, h, ho, hx => by
    refine after_eq_answered events (h.handle ho.1) ho.2 ?_
    rcases hx with hx | ⟨e', he', hreport⟩
    · exact .inl (h.following_eq_answered ho.1 (.inl hx))
    · rcases List.mem_cons.mp he' with rfl | he'
      · exact .inl (h.following_eq_answered ho.1 (.inr hreport))
      · exact .inr ⟨e', he', hreport⟩

theorem eq_answered_of_key (hx : x ≠ unasked) (ha : x.allows (.key k) = true) : x = answered := by
  cases x with
  | unasked => exact absurd rfl hx
  | asked => cases ha
  | answered => rfl

/-- A submission is asked for once at most, and not again after it was asked for. -/
theorem Holds.count_commands_le : ∀ (events : List (Files × Event)) {x : Request} {s : Screen},
    x.Holds s → Orderly x s events →
    (s.commands events).count .submit ≤ if x = unasked then 1 else 0
  | [], _, _, _, _ => Nat.zero_le _
  | e :: events, x, s, h, ho => by
    have ih := count_commands_le events (h.handle ho.1) ho.2
    rw [commands, List.count_append]
    by_cases hsubmit : (s.handle e.1 e.2).2 = some .submit
    · obtain ⟨hx, k, hk⟩ := h.unasked_of_submit ho.1 hsubmit
      rw [hk] at hsubmit ih ⊢
      rw [following_of_submit x k hsubmit, if_neg nofun] at ih
      rw [hsubmit, if_pos hx]
      exact Nat.add_le_add_left ih 1
    · have hnone : (s.handle e.1 e.2).2.toList.count .submit = 0 :=
        List.count_eq_zero.mpr fun hmem => hsubmit (Option.mem_toList.mp hmem)
      rw [hnone, Nat.zero_add]
      by_cases hx : x = unasked
      · rw [if_pos hx]
        exact Nat.le_trans ih (by split_ifs <;> decide)
      · rw [if_neg hx]
        rwa [if_neg (following_ne_unasked hx _ _)] at ih

end Request

theorem orderly_append : ∀ (before : List (Files × Event)) {rest : List (Files × Event)}
    {x : Request} {s : Screen}, Orderly x s (before ++ rest) ↔
      Orderly x s before ∧ Orderly (x.after s before) (s.after before) rest
  | [], _, _, _ => (true_and _).symm.to_iff
  | _ :: before, _, _, _ => by
    show _ ∧ Orderly _ _ (before ++ _) ↔ (_ ∧ Orderly _ _ before) ∧ _
    rw [orderly_append before, and_assoc]
    rfl

/-- **One submission, and nothing after it.** Where the outside is in order, a submission is asked
for once at most. It is asked for on the review while there is none; from the first report on there
is one; and no later key changes anything or asks for more than to leave. -/
theorem one_submission (config : Config) (r : Registry) (events : List (Files × Event))
    (h : Orderly .unasked (Screen.new config r) events) :
    ((Screen.new config r).commands events).count .submit ≤ 1 ∧
    ∀ before files k rest, events = before ++ (files, .key k) :: rest →
      let s := (Screen.new config r).after before
      (s.press files k).2 = some .submit →
      s.submission = .idle ∧ s.step = .reviewAndCreate ∧
      (∀ mid, mid <+: rest → (∃ e ∈ mid, e.2.isReport = true) →
        let m := (s.press files k).1.after mid
        m.submission ≠ .idle ∧ m.editing = none) ∧
      ∀ mid files' k' post, rest = mid ++ (files', .key k') :: post →
        let m := (s.press files k).1.after mid
        m.submission ≠ .idle ∧ (m.press files' k').1 = m ∧
          ((m.press files' k').2 = none ∨ (m.press files' k').2 = some .quit) := by
  have hnew : Request.unasked.Holds (Screen.new config r) := rfl
  refine ⟨hnew.count_commands_le events h, ?_⟩
  rintro before files k rest rfl s hsubmit
  obtain ⟨hbefore, hkey, hrest⟩ := (orderly_append before).mp h
  have hs := hnew.after before hbefore
  -- the key makes the request, and every event of the rest comes after it
  have hasked : ((Request.unasked.after (Screen.new config r) before).following (.key k)
      (s.press files k).2) = .asked := Request.following_of_submit _ k hsubmit
  have hholds : Request.asked.Holds (s.press files k).1 := hasked ▸ hs.press hkey
  change Orderly (Request.following _ _ (s.press files k).2) (s.press files k).1 rest at hrest
  rw [hasked] at hrest
  have hfrozen (mid : List (Files × Event)) (ho : Orderly .asked (s.press files k).1 mid)
      (ha : Request.asked.after (s.press files k).1 mid = .answered) :
      ((s.press files k).1.after mid).Frozen := by
    have hmid := hholds.after mid ho
    rwa [ha] at hmid
  refine ⟨(idle_of_submit hsubmit).1, (step_of_submit hsubmit).1, ?_, ?_⟩
  · rintro mid ⟨post, rfl⟩ hreport
    have ho := ((orderly_append mid).mp hrest).1
    exact hfrozen mid ho (hholds.after_eq_answered mid ho (.inr hreport))
  · rintro mid files' k' post rfl
    obtain ⟨ho, hkey', _⟩ := (orderly_append mid).mp hrest
    have hm := hfrozen mid ho
      (Request.eq_answered_of_key (Request.after_ne_unasked mid _ nofun) hkey')
    exact ⟨hm.1, press_of_frozen hm files' k'⟩

/-! ### A submission that fails -/

/-- A submission makes progress while the inventory is loaded again and a key is pressed, and then
fails. -/
def eventsOfFailure : List (Files × Event) :=
  [.loading, .progress 0 "first", .inventory (.ok .threeDisks), .key .enter, .progress 1 "second",
    .finished (some (1, "refused"))].map fun e => (noFiles, e)

theorem one_submission_refused :
    let s := (Screen.new {} .builtins).after eventsToReview
    let m := (s.press noFiles .enter).1.after eventsOfFailure
    Orderly .unasked (Screen.new {} .builtins) (eventsToReview ++ (noFiles, .key .enter) ::
      (eventsOfFailure ++ [(noFiles, .key (.char 'n'))])) ∧
    (s.press noFiles .enter).2 = some .submit ∧
    m.submission ≠ .idle ∧ (m.press noFiles (.char 'n')).1 = m := by
  intro s m
  have ho : Orderly .unasked (Screen.new {} .builtins) (eventsToReview ++ (noFiles, .key .enter) ::
      (eventsOfFailure ++ [(noFiles, .key (.char 'n'))])) := by
    decide +kernel
  have hsubmit : (s.press noFiles .enter).2 = some .submit := by decide
  have hlater := (one_submission {} .builtins _ ho).2 eventsToReview noFiles .enter _ rfl hsubmit
  have hkey := hlater.2.2.2 eventsOfFailure noFiles (.char 'n') [] rfl
  exact ⟨ho, hsubmit, hkey.1, hkey.2.1⟩

end Screen
end StorageSetup
