import StorageSetup.Form.Rows
import StorageSetup.Loadable
import StorageSetup.Submission.Plan
/-!
# The screen of the wizard

The screen holds a walk through the wizard together with what the user does on it: the selected row,
a text that is being edited, a notice, the plan under review and how far its submission is. What it
shows of the cluster arrives from outside while it is in use.

Key definitions:
- `Screen`: the screen, `Screen.new` at the start
- `Screen.rows`, `Screen.planned`: the form of the current step, and the plan of the settings
- `Screen.dispatch`: a change of the settings
- `Screen.enterStep`: what follows a change of the step
-/

namespace StorageSetup

/-- How far the submission is. What was done before a failure stays done. -/
inductive Submission where
  | idle
  | running (index : Nat) (operation : String)
  | done
  | failed (index : Nat) (error : String)
  deriving DecidableEq, Repr

/-- What the user is told until the next change. -/
inductive Notice where
  | invalidValue (text : String)
  | refused (reason : NavigationError)

def Notice.message : Notice → String
  | .invalidValue text => "invalid value: " ++ text
  | .refused reason => reason.message

/-- The screen of the wizard. -/
structure Screen where
  session : Session
  config : Config
  inventory : Loadable Inventory := .loading
  /-- The place of the selected row in the form. -/
  selected : Nat := 0
  /-- The first row that was drawn last. -/
  offset : Nat := 0
  /-- The text that is being edited. -/
  editing : Option String := none
  notice : Option Notice := none
  submission : Submission := .idle
  /-- The plan under review, made when the last step was entered. -/
  plan : Option (Except PlanError Plan) := none
  /-- How often the spinner was turned. -/
  spinner : Nat := 0

namespace Screen

/-- A screen at the first step, waiting for the inventory. -/
def new (config : Config) (r : Registry) : Screen where
  session := .new {} r
  config := config

def step (s : Screen) : StepName :=
  s.session.currentStep.name

/-- The inventory, an empty one until it is here. -/
def inventoryOrEmpty (s : Screen) : Inventory :=
  s.inventory.value?.getD {}

/-- The form of the current step. -/
def rows (s : Screen) : List Row :=
  Form.rows s.step s.session s.inventoryOrEmpty

def selectedRow? (s : Screen) : Option Row :=
  s.rows[s.selected]?

/-- The plan of the settings. -/
def planned (s : Screen) : Except PlanError Plan :=
  planSubmission s.session.state s.session.context s.session.registry s.config

/-- Brings a volume set on local devices in line with the disks of the inventory. -/
def refreshLocalVolumes (s : Screen) : Screen :=
  if s.session.state.backingStorage.type = .localDevices then
    match s.inventory.value? with
    | some i => { s with session := s.session.refreshLocalVolumes i.nodeNames i.devices }
    | none => s
  else s

/-- Selects the last row where the selection is beyond it. -/
def clampSelection (s : Screen) : Screen :=
  { s with selected := min s.selected (s.rows.length - 1) }

/-- Changes the settings. -/
def dispatch (s : Screen) (actions : List Action) : Screen :=
  clampSelection { refreshLocalVolumes { s with session := s.session.dispatchAll actions } with
    notice := none }

/-- Starts the current step at its first row; on the last step the plan is made. -/
def enterStep (s : Screen) : Screen :=
  { s with
    notice := none
    selected := 0
    editing := none
    plan := if s.step = .reviewAndCreate then some s.planned else none }

end Screen

end StorageSetup
