import Mathlib.Data.List.Permutation
import StorageSetup.Proofs.RowPlaces
import StorageSetup.Proofs.Submit
import StorageSetup.Screen.Draw
/-!
# The row under the editor

The editor is opened on a row and holds a text; which row it belongs to is known by the place of the
selection alone. Keys and inventories that arrive move neither the selection nor the text, so what
is entered lands on the row it was opened on where that row is still in its place. Two things take
it away from there: another number of classes above the connection to the external database, and a
storage cluster that turns up and puts the walk onto another step.

Key definitions: `Row.enter`, `Row.shown`, `Screen.Edits`, `Event.keepsEditor`.
Key theorems: `Screen.edits_of_selectedRow`, `Screen.opened_handle`, `Screen.opened_after`,
`Screen.edit_lands_on_row`.
-/

namespace StorageSetup

namespace Row

/-- What the row makes of a text that is entered in it; nothing where it rejects the text. -/
def enter (row : Row) (files : Files) (text : String) : Option (List Action) :=
  match row.edit with
  | .text _ _ apply => apply files text
  | _ => none

/-- The row shows its texts masked. -/
def isSecret (row : Row) : Bool :=
  match row.edit with
  | .text _ secret _ => secret
  | _ => false

/-- How the row shows a text that is being edited in it. -/
def shown (row : Row) (text : String) : String :=
  (if row.isSecret then mask text else text) ++ "_"

end Row

/-! ### The step under an inventory that arrives -/

/-- Where the cluster changes, the step in a place stays, or a step without texts is there. -/
theorem Flow.name_of_related {f g : Flow} (h : Flow.Related f g) (b b' : Bool) :
    ∀ i < (f.visible b).length, ∀ n ∈ (f.visible b)[i]?,
      ∀ m ∈ (g.visible b')[min i ((g.visible b').length - 1)]?,
        m = n ∨ m.takesText = false := by
  rcases h with rfl | ⟨rfl, rfl⟩ | ⟨rfl, rfl⟩
  · rcases f with ⟨_ | _, _ | _⟩ | _ | _ | _ | _ <;> cases b <;> cases b' <;> decide
  · cases b <;> cases b' <;> decide
  · cases b <;> cases b' <;> decide

namespace Session

variable {w : Session}

theorem name_setContext (hb : w.InBounds) (c : Context) :
    (w.setContext c).currentStep.name = w.currentStep.name ∨
      (w.setContext c).currentStep.name.takesText = false := by
  have hname := getElem?_names_current (inBounds_clamp { w with context := c })
  change (stepNames w.state c w.registry)[(w.setContext c).current]? = _ at hname
  rw [current_setContext] at hname
  exact Flow.name_of_related (Flow.related_of w.state w.context c w.registry) _ _ w.current hb _
    (getElem?_names_current hb) _ hname

theorem name_followDisks (hb : w.InBounds) (i : Inventory) :
    (w.followDisks i).currentStep.name = w.currentStep.name := by
  obtain ⟨hnames, hcurrent⟩ := names_followDisks hb i
  have hname := getElem?_names_current (inBounds_followDisks hb i)
  rw [hnames, hcurrent, getElem?_names_current hb] at hname
  exact (Option.some.inj hname).symm

theorem refreshed_followDisks (hb : w.InBounds) (i : Inventory) :
    w.Refreshed (w.followDisks i) := by
  by_cases ht : w.state.backingStorage.type = .localDevices
  · obtain ⟨count, he⟩ := followDisks_of_local (i := i) hb ht
    rw [he]
    exact ⟨rfl, _, _, rfl⟩
  · rw [followDisks_of_not_local ht]
    exact .refl w

theorem refreshed_setContext (w : Session) (c : Context) : w.Refreshed (w.setContext c) :=
  ⟨rfl, w.state.localVolumes.chartNodes, w.state.capacity.pvCount, rfl⟩

end Session

namespace Screen

variable {s s' t : Screen} {row : Row} {text value : String} {files : Files}

/-! ### Entering a text -/

/-- The line of a row in which a text is being edited. -/
def editLine (row : Row) (text : String) (width : Nat) : Canvas.Line :=
  Canvas.fit (min 32 (width - 1)) (Canvas.firstLine row.label) ++ Canvas.blank (min 1 width) ++
    Canvas.fit (width - 33) (Canvas.firstLine (row.shown text))

/-- The editor is closed: actions are dispatched, a text that made none is rejected. -/
def settle (s : Screen) (text : String) : Option (List Action) → Screen
  | some actions => dispatch { s with editing := none } actions
  | none => { s with editing := none, notice := some (.invalidValue text) }

/-- The text in the editor is that of the row: the row is selected, however the screen is drawn, its
line shows the text, and Enter enters the text in it. -/
structure Edits (s : Screen) (row : Row) (text : String) : Prop where
  selected : s.selectedRow? = some row
  kept : ∀ size, (s.draw size).1.selectedRow? = some row
  drawn : ∀ width, (s.formLines width)[s.selected]? = some (editLine row text width)
  entered : ∀ files, s.press files .enter = (s.settle text (row.enter files text), none)

theorem valueText_of_takesText (ht : s.editing = some text) (hrow : row.takesText = true) :
    s.valueText s.selected row = row.shown text := by
  obtain ⟨value, secret, apply, he⟩ := Row.takesText_iff.mp hrow
  simp only [valueText, Row.shown, Row.isSecret, ht, he, if_true]

theorem commit_eq (hs : s.selectedRow? = some row) (files : Files) (text : String) :
    s.commit files text = s.settle text (row.enter files text) := by
  unfold commit
  rw [hs]
  show (match row.enter files text with
    | some actions => _
    | none => _) = _
  cases row.enter files text <;> rfl

/-- A selection inside the form stays where the form is drawn. -/
theorem selectedRow_draw (hs : s.selectedRow? = some row) (size : Size) :
    (s.draw size).1.selectedRow? = some row := by
  have hlt : s.selected < s.rows.length := (List.getElem?_eq_some_iff.mp hs).1
  have hclamp : s.clampSelection = s := by
    unfold clampSelection
    rw [Nat.min_eq_left (Nat.le_sub_one_of_lt hlt)]
  show (s.scrolled _ _).selectedRow? = _
  unfold scrolled
  rw [hclamp]
  split_ifs
  · exact hs
  · exact hs

/-- **The text in the editor is that of the selected row.** -/
theorem edits_of_selectedRow (ht : s.editing = some text) (hrow : row.takesText = true)
    (hs : s.selectedRow? = some row) : s.Edits row text where
  selected := hs
  kept := selectedRow_draw hs
  drawn width := by
    have hline : s.rowLine width s.selected row = editLine row text width := by
      unfold rowLine editLine
      rw [valueText_of_takesText ht hrow]
    have hplace : s.rows[s.selected]? = some row := hs
    unfold formLines
    rw [List.getElem?_map, List.getElem?_zipIdx, hplace]
    show some (s.rowLine width (0 + s.selected) row) = _
    rw [Nat.zero_add, hline]
  entered files := by
    unfold press
    rw [ht]
    show (s.commit files text, none) = _
    rw [commit_eq hs]

/-! ### Opening the editor -/

theorem editing_dispatch (s : Screen) (actions : List Action) :
    (s.dispatch actions).editing = s.editing := by
  unfold dispatch clampSelection
  rw [refreshLocalVolumes_eq]

/-- The editor is opened on the selected row, with its value, and nothing else happens. -/
theorem activate_of_editing (h0 : s.editing = none) (h : s.activate.1.editing = some value) :
    ∃ row, s.selectedRow? = some row ∧ row.takesText = true ∧
      s.activate.1 = { s with editing := some value } := by
  unfold activate at h ⊢
  split at h
  · rw [editing_dispatch, h0] at h
    cases h
  · next value' secret apply hedit =>
    obtain ⟨row, hrow, he⟩ := Option.map_eq_some_iff.mp hedit
    obtain rfl : value' = value := Option.some.inj h
    exact ⟨row, hrow, Row.takesText_iff.mpr ⟨_, _, _, he⟩, rfl⟩
  · exact absurd (h0.symm.trans h) nofun
  · exact absurd (h0.symm.trans h) nofun

theorem editing_follow (h0 : s.editing = none) (moved : Except NavigationError Session) :
    (s.follow moved).editing = none := by
  cases moved with
  | ok session => rfl
  | error reason => exact h0

/-- On the form one thing alone can open the editor. -/
theorem pressOnForm_cases (h0 : s.editing = none) (k : Key) :
    (s.pressOnForm k).1 = s.activate.1 ∨ (s.pressOnForm k).1.editing = none := by
  have hselect : s.selectPrevious.editing = none ∧ s.selectNext.editing = none := by
    unfold selectPrevious selectNext
    dsimp only
    split_ifs <;> exact ⟨h0, h0⟩
  unfold pressOnForm
  split
  case h_4 | h_5 => exact .inr hselect.1
  case h_6 | h_7 => exact .inr hselect.2
  case h_8 | h_9 => exact .inl rfl
  case h_10 | h_11 | h_12 | h_13 | h_14 | h_15 => exact .inr (editing_follow h0 _)
  case h_16 =>
    split
    · exact .inr (editing_follow h0 _)
    · exact .inr h0
  all_goals exact .inr h0

/-- Without an editor a key is pressed on the form, or on a screen whose submission has started. -/
theorem press_cases (files : Files) (k : Key) (h0 : s.editing = none) :
    (s.press files k).1 = (s.pressOnForm k).1 ∨ (s.press files k).1 = s := by
  unfold press
  split
  · next h => exact absurd (h0.symm.trans h) nofun
  · exact .inl rfl
  · exact .inr rfl

/-- **The editor is opened on a row that takes a text, and nothing else happens.** -/
theorem press_of_editing {k : Key} (h0 : s.editing = none)
    (h : (s.press files k).1.editing = some value) :
    ∃ row, s.selectedRow? = some row ∧ row.takesText = true ∧
      (s.press files k).1 = { s with editing := some value } := by
  rcases press_cases files k h0 with hp | hp
  · rw [hp] at h ⊢
    rcases pressOnForm_cases h0 k with ha | hn
    · rw [ha] at h ⊢
      exact activate_of_editing h0 h
    · exact absurd (hn.symm.trans h) nofun
  · rw [hp] at h
    exact absurd (h0.symm.trans h) nofun

/-! ### While the editor is open -/

/-- The event does not close the editor. -/
def Event.keepsEditor : Event → Bool
  | .key .enter | .key .esc => false
  | _ => true

/-- The event leaves the inventory alone. -/
def Event.keepsInventory : Event → Bool
  | .loading | .inventory _ => false
  | _ => true

/-- The text in the editor after an event. -/
def Event.typed (text : String) : Event → String
  | .key .backspace => withoutLast text
  | .key (.char c) => text.push c
  | _ => text

/-- The number of rows that the classes of the cluster take where one is chosen. -/
def classRows (s : Screen) : Nat :=
  (Form.storageClassRows s.session.state s.inventoryOrEmpty).length

/-- The editor of a screen is still open, with the selection where it was. -/
structure Opened (t s : Screen) (text : String) : Prop where
  editing : s.editing = some text
  selected : s.selected = t.selected
  refreshed : t.session.Refreshed s.session
  step : s.step = t.step ∨ s.step.takesText = false

namespace Opened

theorem of_same {text' : String} (h : Opened t s text) (hs : s'.session = s.session)
    (hselected : s'.selected = s.selected) (ht : s'.editing = some text') :
    Opened t s' text' where
  editing := ht
  selected := hselected.trans h.selected
  refreshed := hs ▸ h.refreshed
  step := by
    have hstep : s'.step = s.step := by rw [Screen.step, hs, Screen.step]
    rw [hstep]
    exact h.step

/-- An inventory that arrives leaves the editor open, and the step or one without texts. -/
theorem showInventory (h : Opened t s text) (hb : s.session.InBounds) (i : Inventory) :
    Opened t (s.showInventory (.ok i)) text := by
  have hb' : (s.session.setContext i.context).InBounds := Session.inBounds_clamp _
  have hstep : ((s.session.setContext i.context).followDisks i).currentStep.name = t.step ∨
      ((s.session.setContext i.context).followDisks i).currentStep.name.takesText = false := by
    rw [Session.name_followDisks hb']
    rcases Session.name_setContext hb i.context with he | hplain
    · rw [he]
      exact h.step
    · exact .inr hplain
  rw [showInventory_eq]
  exact {
    editing := h.editing
    selected := h.selected
    refreshed := (h.refreshed.trans (Session.refreshed_setContext _ _)).trans
      (Session.refreshed_followDisks hb' i)
    step := hstep }

/-- **Which row the editor is on.** It is on the row it was opened on just if the step is the same
and, where a class of the cluster is chosen, the classes take as many rows as then. -/
theorem selectedRow_iff (h : Opened t s text) (hrow : row.takesText = true)
    (ht : t.selectedRow? = some row) : s.selectedRow? = some row ↔
      s.step = t.step ∧ (t.step = .backingStorage →
        t.session.state.backingStorage.type = .existing → s.classRows = t.classRows) := by
  have hiff := Form.getElem?_rows_iff s.inventoryOrEmpty h.refreshed hrow ht
  constructor
  · intro hs
    -- a step that the walk was put onto has no row to be the selected one
    have hstep : s.step = t.step := by
      refine h.step.resolve_right fun hplain => ?_
      have htakes := Form.takesText_of_mem_rows (List.mem_of_getElem? hs) hrow
      exact absurd (hplain.symm.trans htakes) nofun
    refine ⟨hstep, hiff.mp ?_⟩
    rw [← hstep, ← h.selected]
    exact hs
  · rintro ⟨hstep, hcount⟩
    unfold selectedRow? Screen.rows
    rw [hstep, h.selected]
    exact hiff.mpr hcount

end Opened

/-- **While the editor is open, every event leaves it open on the same place.** -/
theorem opened_handle (files : Files) (hg : s.Guarded) (h : Opened t s text) {e : Event}
    (he : e.keepsEditor = true) : Opened t (s.handle files e).1 (e.typed text) := by
  cases e with
  | key k =>
    show Opened t (s.press files k).1 _
    unfold press
    rw [h.editing]
    cases k with
    | enter | esc => cases he
    | backspace | char c => exact h.of_same rfl rfl rfl
    | _ => exact h.of_same rfl rfl h.editing
  | inventory result =>
    cases result with
    | ok i => exact h.showInventory hg.inBounds i
    | error message => exact h.of_same rfl rfl h.editing
  | finished failure => cases failure <;> exact h.of_same rfl rfl h.editing
  | _ => exact h.of_same rfl rfl h.editing

/-- Without an inventory that arrives or is loaded again an open editor changes no row. -/
theorem same_handle (files : Files) (ht : s.editing = some text) {e : Event}
    (he : e.keepsEditor = true) (hi : e.keepsInventory = true) :
    (s.handle files e).1.session = s.session ∧ (s.handle files e).1.inventory = s.inventory := by
  cases e with
  | key k =>
    show (s.press files k).1.session = _ ∧ (s.press files k).1.inventory = _
    unfold press
    rw [ht]
    cases k with
    | enter | esc => cases he
    | _ => exact ⟨rfl, rfl⟩
  | loading | inventory result => cases hi
  | finished failure => cases failure <;> exact ⟨rfl, rfl⟩
  | _ => exact ⟨rfl, rfl⟩

/-! ### Runs -/

/-- The text in the editor after several events. -/
def typedAfter (text : String) (events : List (Files × Event)) : String :=
  events.foldl (fun text e => e.2.typed text) text

theorem opened_after : ∀ (events : List (Files × Event)) {s : Screen} {text : String},
    s.Guarded → Opened t s text → (∀ e ∈ events, e.2.keepsEditor = true) →
    Opened t (s.after events) (typedAfter text events)
  | [], _, _, _, h, _ => h
  | e :: events, _, _, hg, h, he =>
    opened_after events (guarded_handle e.1 hg e.2)
      (opened_handle e.1 hg h (he e List.mem_cons_self))
      fun e' h' => he e' (List.mem_cons_of_mem _ h')

theorem same_after : ∀ (events : List (Files × Event)) {s : Screen} {text : String},
    s.Guarded → Opened t s text → (∀ e ∈ events, e.2.keepsEditor = true) →
    (∀ e ∈ events, e.2.keepsInventory = true) →
    (s.after events).session = s.session ∧ (s.after events).inventory = s.inventory
  | [], _, _, _, _, _, _ => ⟨rfl, rfl⟩
  | e :: events, _, _, hg, h, he, hi => by
    have hstep := same_handle e.1 h.editing (he e List.mem_cons_self) (hi e List.mem_cons_self)
    have hrest := same_after events (guarded_handle e.1 hg e.2)
      (opened_handle e.1 hg h (he e List.mem_cons_self))
      (fun e' h' => he e' (List.mem_cons_of_mem _ h'))
      fun e' h' => hi e' (List.mem_cons_of_mem _ h')
    exact ⟨hrest.1.trans hstep.1, hrest.2.trans hstep.2⟩

/-- **Where an edit lands on the row it was opened on.** The editor is opened on a row; it stays
open under all keys but Enter and Esc and whatever else happens, and holds what was typed. The text
is that of the row, drawn and entered as the row has it, just if the step is the same and, where a
class of the cluster is chosen, the classes take as many rows as when it was opened; so it always is
where no inventory was loaded in between. -/
theorem edit_lands_on_row (config : Config) (r : Registry) (before mid : List (Files × Event))
    (files : Files) (k : Key) (value : String) :
    let t := (Screen.new config r).after before
    let s := (t.press files k).1.after mid
    t.editing = none → (t.press files k).1.editing = some value →
    (∀ e ∈ mid, e.2.keepsEditor = true) →
      ∃ row, t.selectedRow? = some row ∧ row.takesText = true ∧
        s.editing = some (typedAfter value mid) ∧
        (s.Edits row (typedAfter value mid) ↔ s.step = t.step ∧ (t.step = .backingStorage →
          t.session.state.backingStorage.type = .existing → s.classRows = t.classRows)) ∧
        ((∀ e ∈ mid, e.2.keepsInventory = true) → s.Edits row (typedAfter value mid)) := by
  intro t s h0 hopen hmid
  obtain ⟨row, ht, hrow, hpress⟩ := press_of_editing h0 hopen
  have hg : (t.press files k).1.Guarded :=
    guarded_handle files (guarded_after before (guarded_new config r)) (.key k)
  have hopened : Opened t (t.press files k).1 value := by
    rw [hpress]
    exact ⟨rfl, rfl, .refl _, .inl rfl⟩
  have hs : Opened t s (typedAfter value mid) := opened_after mid hg hopened hmid
  have hiff : s.Edits row (typedAfter value mid) ↔ s.step = t.step ∧ (t.step = .backingStorage →
      t.session.state.backingStorage.type = .existing → s.classRows = t.classRows) :=
    ⟨fun h => (hs.selectedRow_iff hrow ht).mp h.selected,
      fun h => edits_of_selectedRow hs.editing hrow ((hs.selectedRow_iff hrow ht).mpr h)⟩
  refine ⟨row, ht, hrow, hs.editing, hiff, fun hquiet => hiff.mpr ?_⟩
  have hsame := same_after mid hg hopened hmid hquiet
  have hsession : s.session = t.session := hsame.1.trans (by rw [hpress])
  have hinventory : s.inventory = t.inventory := hsame.2.trans (by rw [hpress])
  have hstep : s.step = t.step := by rw [Screen.step, hsession, Screen.step]
  have hcount : s.classRows = t.classRows := by
    unfold classRows inventoryOrEmpty
    rw [hsession, hinventory]
  exact ⟨hstep, fun _ _ => hcount⟩

/-! ### Classes that arrive under the editor -/

/-- The keys that select the password of an external database. -/
def keysToPassword : List Key :=
  [.down, .down, .down, .down, .down, .enter, .down, .down]

def eventsToPassword : List (Files × Event) :=
  keysToPassword.map fun k => (noFiles, .key k)

/-- An inventory with these classes arrives, and a letter is typed. -/
def classesAndLetter (names : List String) : List (Files × Event) :=
  [(noFiles, .inventory (.ok { storageClasses := names.map fun name =>
      { name := name, provisioner := "ebs.csi.aws.com" } })),
    (noFiles, .key (.char 's'))]

/-- A new screen with the password selected. -/
def onPassword : Screen :=
  (Screen.new {} .builtins).after eventsToPassword

/-- The editor was opened on the password, classes arrived, and a letter was typed. -/
def passwordUnder (names : List String) : Screen :=
  (onPassword.press noFiles .enter).1.after (classesAndLetter names)

/-- One class takes the row of the notice that there is none. -/
theorem edit_lands_on_row_password :
    ∃ row, onPassword.selectedRow? = some row ∧ (passwordUnder ["gp3"]).Edits row "s" := by
  obtain ⟨row, ht, _, _, hiff, _⟩ := edit_lands_on_row {} .builtins eventsToPassword
    (classesAndLetter ["gp3"]) noFiles .enter "" (by decide +kernel) (by decide +kernel)
    (by decide)
  exact ⟨row, ht, hiff.mpr ⟨by decide +kernel, fun _ _ => by decide +kernel⟩⟩

/-- With two classes what is entered for the password becomes the name of the user. -/
theorem username_passwordUnder : ((passwordUnder ["gp2", "gp3"]).press noFiles
    .enter).1.session.state.backingStorage.postgres.username = "s" := by
  cbv

/-- A text can land on another row than the one the editor was opened on. -/
theorem not_edit_lands_on_row : ¬ ∀ (before mid : List (Files × Event)) (value : String),
    let t := (Screen.new {} .builtins).after before
    let s := (t.press noFiles .enter).1.after mid
    t.editing = none → (t.press noFiles .enter).1.editing = some value →
    (∀ e ∈ mid, e.2.keepsEditor = true) →
      ∃ row text, t.selectedRow? = some row ∧ s.editing = some text ∧ s.Edits row text := by
  intro hall
  let s := passwordUnder ["gp2", "gp3"]
  obtain ⟨row, text, hrow, htext, hedits⟩ := hall eventsToPassword
    (classesAndLetter ["gp2", "gp3"]) "" (by decide +kernel) (by decide +kernel) (by decide)
  have hs : s.editing = some "s" := by decide +kernel
  obtain rfl : "s" = text := Option.some.inj (hs.symm.trans htext)
  have hpassword : onPassword.selectedRow?.map (fun row =>
      (s.settle "s" (row.enter noFiles "s")).session.state.backingStorage.postgres.username) =
      some "" := by decide +kernel
  have husername := username_passwordUnder
  rw [show (s.press noFiles .enter).1 = s.settle "s" (row.enter noFiles "s") from
    congrArg Prod.fst (hedits.entered noFiles)] at husername
  rw [show onPassword.selectedRow? = some row from hrow, Option.map_some, husername] at hpassword
  exact absurd hpassword (by decide)

end Screen
end StorageSetup
