import StorageSetup.Wizard.Gate
import StorageSetup.Wizard.Reduce
/-!
# Walking through the wizard

A session holds the settings, the facts about the cluster, the vendors and the place of the current
step in the list of steps. Going forward passes the gate of the current step, jumping passes the
gates of all steps before the target.

Key definitions:
- `Session`: the state of the walk
- `Session.dispatch`, `Session.setContext`, `Session.refreshLocalVolumes`: changes of the settings
- `Session.next`, `Session.back`, `Session.jumpTo`: changes of the place
- `NavigationError`: why a move is refused
-/

namespace StorageSetup

/-- A walk through the wizard. -/
structure Session where
  state : State
  context : Context
  registry : Registry
  /-- The place of the current step, from zero. -/
  current : Nat

/-- Why a move is refused. -/
inductive NavigationError where
  | closed (step : StepName) (reason : Refusal)
  | cannotJump (id : UInt32)

def NavigationError.message : NavigationError → String
  | .closed step reason =>
    "Step \"" ++ step.title ++ ": " ++ reason.message ++ "\" is incomplete"
  | .cannotJump id => "Step \"cannot jump to step " ++ toString id.toNat ++ "\" is incomplete"

namespace Session

/-- A walk at its start. -/
def new (c : Context) (r : Registry) : Session :=
  ⟨.initial, c, r, 0⟩

def steps (w : Session) : List Step :=
  computeSteps w.state w.context w.registry

/-- The same walk with its place inside the list of steps. -/
def clamp (w : Session) : Session :=
  { w with current := min w.current (w.steps.length - 1) }

/-- The walk after an action. -/
def dispatch (w : Session) (a : Action) : Session :=
  clamp { w with state := reduce w.state a }

/-- The walk after several actions in order. -/
def dispatchAll (w : Session) (actions : List Action) : Session :=
  actions.foldl dispatch w

/-- The walk with other facts about the cluster. -/
def setContext (w : Session) (c : Context) : Session :=
  clamp { w with context := c }

/-- The current step. -/
def currentStep (w : Session) : Step :=
  w.steps.getD (min w.current (w.steps.length - 1)) ⟨1, .backingStorage, true⟩

def isLastStep (w : Session) : Bool :=
  w.steps.length ≤ w.current + 1

/-- Both gates of a step. -/
def check (w : Session) (step : StepName) : Check :=
  checkBoth step w.state w.context w.registry

/-- Why the current step cannot be left, if it cannot. -/
def blockingReason (w : Session) : Option Refusal :=
  match w.check w.currentStep.name with
  | .ok _ => none
  | .error reason => some reason

/-- There is a following step and the gates of the current one are open. -/
def canGoNext (w : Session) : Bool :=
  !w.isLastStep && w.blockingReason.isNone

/-- The walk after leaving a step. A volume set provides the class the cluster is built on. -/
def leave (w : Session) (step : StepName) : Session :=
  if step = .createLocalVolumeSet then
    w.dispatch (.setStorageClass ⟨w.state.localVolumes.name, noProvisioner⟩)
  else w

/-- Moves to the following step and marks it as reached; on the last step nothing changes. -/
def next (w : Session) : Except NavigationError (Session × Step) :=
  let step := w.currentStep
  match w.check step.name with
  | .error reason => .error (.closed step.name reason)
  | .ok _ =>
    if w.isLastStep then .ok (w, step)
    else
      let left := w.leave step.name
      let moved := clamp { left with current := left.current + 1 }
      let reached := moved.currentStep
      .ok (moved.dispatch (.setStepIdReached reached.id), reached)

/-- Moves to the step before, if there is one. -/
def back (w : Session) : Session :=
  { w with current := w.current - 1 }

/-- The step was reached before and the gates of all steps before it are open. -/
def canJumpTo (w : Session) (id : UInt32) : Bool :=
  match w.steps.find? (·.id == id) with
  | none => false
  | some target =>
    target.canJumpTo && (w.steps.takeWhile (·.id < id)).all fun s => (w.check s.name).isOk

/-- Moves to a step reached before. -/
def jumpTo (w : Session) (id : UInt32) : Except NavigationError Session :=
  if w.canJumpTo id then .ok { w with current := (id - 1).toNat } else .error (.cannotJump id)

/-- Brings the nodes of the volume set and the number of volumes in line with the disks. -/
def refreshLocalVolumes (w : Session) (allNodes : List String) (devices : List Device) :
    Session :=
  let nodes := w.state.localVolumes.matchingNodes allNodes devices
  let count := ({ w.state.localVolumes with chartNodes := nodes }.matchingDevices devices).length
  (w.dispatch (.setLocalVolumes (.chartNodes nodes))).dispatch
    (.setPvCount (UInt32.ofNat count))

end Session

end StorageSetup
