import StorageSetup.Answers
import StorageSetup.Cluster.Inventory
import StorageSetup.Submission.Plan
import StorageSetup.Wizard.Session
/-!
# Walking the wizard with answers

A run without a terminal dispatches the actions of an answers file, chooses the nodes and walks to
the last step, through every gate on the way. What it ends with is the plan of a submission.

Key definitions:
- `Session.walk`: going forward to the last step
- `Session.answer`: the settings that the answers make
- `replay`: the whole, with the plan at the end

A volume set on local devices follows the disks of the inventory. Where the answers name no node,
the nodes with matching disks are taken.
-/

namespace StorageSetup

/-- Why a run with answers ends without a plan. -/
inductive ReplayError where
  | action (reason : ActionError)
  | node (reason : Answers.UnknownNode)
  | step (reason : NavigationError)
  | plan (reason : PlanError)

def ReplayError.message : ReplayError → String
  | action reason => reason.message
  | node reason => reason.message
  | step reason => reason.message
  | plan reason => reason.message

namespace Session

/-- Goes forward until the last step is reached, at most so many times. -/
def walk : Nat → Session → Except NavigationError Session
  | 0, w => .ok w
  | n + 1, w =>
    if w.isLastStep then .ok w
    else
      match w.next with
      | .error e => .error e
      | .ok (moved, _) => walk n moved

/-- Goes forward to the last step. There are no more moves than steps behind the first. -/
def walkToEnd (w : Session) : Except NavigationError Session :=
  w.walk (w.steps.length - 1)

def usesLocalDevices (w : Session) : Bool :=
  w.state.backingStorage.type = .localDevices

/-- Brings a volume set on local devices in line with the disks of an inventory. -/
def followDisks (w : Session) (i : Inventory) : Session :=
  if w.usesLocalDevices then w.refreshLocalVolumes i.nodeNames i.devices else w

/-- The nodes of an inventory that the volume set runs on. -/
def chartNodes (w : Session) (i : Inventory) : List Node :=
  i.nodes.filter fun n => w.state.localVolumes.chartNodes.contains n.name

/-- Chooses the nodes that were named, or those with matching disks where none was. -/
def chooseNodes (w : Session) (named : List Node) (i : Inventory) : Session :=
  let nodes := if named.isEmpty && w.usesLocalDevices then w.chartNodes i else named
  if nodes.isEmpty then w else w.dispatch (.setNodes nodes)

/-- Makes the settings that the answers ask for. -/
def answer (w : Session) (a : Answers) (i : Inventory) : Except ReplayError Session := do
  let actions ← a.decodeActions.mapError .action
  let named ← (a.resolveNodes i.nodes).mapError .node
  .ok (((w.dispatchAll actions).followDisks i).chooseNodes named i)

end Session

/-- Answers the wizard, walks to its last step and plans the submission. -/
def replay (w : Session) (a : Answers) (i : Inventory) (config : Config) :
    Except ReplayError (Session × Plan) := do
  let answered ← w.answer a i
  let walked ← answered.walkToEnd.mapError .step
  let plan ← (planSubmission walked.state walked.context walked.registry config).mapError .plan
  .ok (walked, plan)

end StorageSetup
