import StorageSetup.Proofs.Rows
import StorageSetup.Proofs.Settings
import StorageSetup.Replay
import StorageSetup.Screen.Event
/-!
# What a key does to the walk

A key leaves the walk as it is, dispatches what a row of the form makes, or moves; and only a row of
the summary asks for a submission. The plan under review is made when a step is entered and at no
other time. Keys never touch the inventory.

Key definitions: `Session.following`, `Screen.Entered`, `Screen.Moved`.
Key theorems: `Screen.handled_press`, `Screen.step_of_submit`.
-/

namespace StorageSetup

/-- The walk in line with the disks of an inventory, where there is one. -/
def Session.following (w : Session) : Option Inventory → Session
  | some i => w.followDisks i
  | none => w

namespace Screen

/-- A step was just entered: on the review the plan is that of the settings, on others there is
none. -/
def Entered (s : Screen) : Prop :=
  s.plan = if s.step = .reviewAndCreate then some s.planned else none

/-- What a key does to the walk and to the plan under review. -/
inductive Moved (s s' : Screen) : Prop
  | stayed (h : s'.session = s.session) (hp : s'.plan = s.plan)
  | edited {row : Row} {actions : List Action} (hrow : row ∈ s.rows) (hmade : row.Makes actions)
    (h : s'.session = (s.session.dispatchAll actions).following s.inventory.value?)
    (hp : s'.plan = s.plan)
  | next {step : Step} (h : s.session.next = .ok (s'.session, step)) (he : s'.Entered)
  | back (h : s'.session = s.session.back) (he : s'.Entered)
  | jumped {id : UInt32} (h : s.session.jumpTo id = .ok s'.session) (he : s'.Entered)

/-- The walk of another screen moved, beside the same inventory and configuration. -/
structure Handled (s s' : Screen) : Prop where
  moved : Moved s s'
  inventory : s'.inventory = s.inventory
  config : s'.config = s.config

theorem Handled.same {s s' : Screen} (h : s'.session = s.session) (hp : s'.plan = s.plan)
    (hi : s'.inventory = s.inventory) (hc : s'.config = s.config) : Handled s s' :=
  ⟨.stayed h hp, hi, hc⟩

variable {s : Screen}

/-- Following the disks of the inventory changes the walk alone. -/
theorem refreshLocalVolumes_eq (s : Screen) : s.refreshLocalVolumes =
    { s with session := s.session.following s.inventory.value? } := by
  unfold refreshLocalVolumes Session.following Session.followDisks Session.usesLocalDevices
  cases s.inventory.value? with
  | none => split_ifs <;> rfl
  | some i =>
    simp only [decide_eq_true_eq]
    split_ifs <;> rfl

/-- An inventory that arrives is followed at once. -/
theorem showInventory_eq (s : Screen) (i : Inventory) : s.showInventory (.ok i) =
    { s with
      session := (s.session.setContext i.context).followDisks i
      inventory := .loaded i } :=
  refreshLocalVolumes_eq _

/-! ### Rows -/

theorem handled_dispatch {row : Row} {actions : List Action} (hrow : row ∈ s.rows)
    (hmade : row.Makes actions) (editing : Option String) :
    Handled s (dispatch { s with editing := editing } actions) := by
  unfold dispatch clampSelection
  rw [refreshLocalVolumes_eq]
  exact ⟨.edited hrow hmade rfl rfl, rfl, rfl⟩

theorem selectedRow_mem {row : Row} (h : s.selectedRow? = some row) : row ∈ s.rows :=
  List.mem_of_getElem? h

theorem handled_commit (s : Screen) (files : Files) (text : String) :
    Handled s (s.commit files text) := by
  unfold commit
  dsimp only
  split
  · next actions hactions =>
    obtain ⟨row, hrow, hmade⟩ := Option.bind_eq_some_iff.mp hactions
    refine handled_dispatch (selectedRow_mem hrow) ?_ none
    unfold Row.Makes
    split at hmade
    · next hedit =>
      rw [hedit]
      exact ⟨files, text, hmade⟩
    · cases hmade
  · exact .same rfl rfl rfl rfl

theorem handled_activate (s : Screen) : Handled s s.activate.1 := by
  unfold activate
  split
  · next actions h =>
    obtain ⟨row, hrow, hedit⟩ := Option.map_eq_some_iff.mp h
    refine handled_dispatch (selectedRow_mem hrow) ?_ s.editing
    unfold Row.Makes
    rw [hedit]
  · exact .same rfl rfl rfl rfl
  · exact .same rfl rfl rfl rfl
  · exact .same rfl rfl rfl rfl

theorem handled_pressInEditor (s : Screen) (files : Files) (text : String) (k : Key) :
    Handled s (s.pressInEditor files text k) := by
  cases k with
  | enter => exact handled_commit s files text
  | _ => exact .same rfl rfl rfl rfl

/-! ### Moves -/

theorem handled_goNext (s : Screen) : Handled s s.goNext := by
  unfold goNext
  cases h : s.session.next with
  | error e => exact .same rfl rfl rfl rfl
  | ok moved =>
    obtain ⟨moved, step⟩ := moved
    exact ⟨.next h rfl, rfl, rfl⟩

theorem handled_goBack (s : Screen) : Handled s s.goBack :=
  ⟨.back rfl rfl, rfl, rfl⟩

theorem handled_jumpTo (s : Screen) (id : UInt32) : Handled s (s.jumpTo id) := by
  unfold jumpTo
  cases h : s.session.jumpTo id with
  | error e => exact .same rfl rfl rfl rfl
  | ok jumped => exact ⟨.jumped h rfl, rfl, rfl⟩

theorem handled_select (s : Screen) : Handled s s.selectPrevious ∧ Handled s s.selectNext := by
  unfold selectPrevious selectNext
  dsimp only
  split_ifs <;> exact ⟨.same rfl rfl rfl rfl, .same rfl rfl rfl rfl⟩

/-! ### Keys -/

theorem handled_pressOnForm (s : Screen) (k : Key) : Handled s (s.pressOnForm k).1 := by
  unfold pressOnForm
  split
  case h_4 | h_5 => exact (handled_select s).1
  case h_6 | h_7 => exact (handled_select s).2
  case h_8 | h_9 => exact handled_activate s
  case h_10 | h_11 | h_12 => exact handled_goNext s
  case h_13 | h_14 | h_15 => exact handled_goBack s
  case h_16 =>
    split
    · exact handled_jumpTo s _
    · exact .same rfl rfl rfl rfl
  all_goals exact .same rfl rfl rfl rfl

/-- **A key leaves the walk, edits the current step or moves.** -/
theorem handled_press (files : Files) (k : Key) (s : Screen) : Handled s (s.press files k).1 := by
  unfold press
  split
  · exact handled_pressInEditor s files _ k
  · exact handled_pressOnForm s k
  · exact .same rfl rfl rfl rfl

theorem step_of_activate (h : s.activate.2 = some .submit) :
    s.step = .reviewAndCreate ∧ s.activate.1 = s := by
  unfold activate at h ⊢
  split at h
  · cases h
  · cases h
  · dsimp only at h
    split_ifs at h with hstep
    exact ⟨hstep, rfl⟩
  · cases h

theorem step_of_pressOnForm {k : Key} (h : (s.pressOnForm k).2 = some .submit) :
    s.step = .reviewAndCreate ∧ (s.pressOnForm k).1 = s := by
  unfold pressOnForm at h ⊢
  split at h
  case h_8 | h_9 => exact step_of_activate h
  case h_16 => split at h <;> cases h
  all_goals cases h

/-- **A key that asks for a submission was pressed on the review, and changes nothing.** -/
theorem step_of_submit {files : Files} {k : Key} (h : (s.press files k).2 = some .submit) :
    s.step = .reviewAndCreate ∧ (s.press files k).1 = s := by
  unfold press at h ⊢
  split at h
  · cases h
  · exact step_of_pressOnForm h
  · dsimp only at h
    split_ifs at h
    cases h

end Screen
end StorageSetup
