import StorageSetup.Submission.Plan
/-!
# Running a plan

The operations run one after another against a cluster, each reported before it starts. The first
failure ends the run; what was done before it stays done.

Key definitions:
- `Call`, `ClusterApi`: what can be asked of a cluster
- `Run`: what a run reported, what it asked and how it ended
- `execute`: the run of a plan
-/

namespace StorageSetup

/-- A failure reported by the cluster. -/
structure ApiError where
  message : String
  deriving DecidableEq, Repr

/-- What can be asked of a cluster. -/
inductive Call where
  /-- Creates the namespace if it is missing and merges the labels into it. -/
  | ensureNamespace (name : String) (labels : Dict String)
  | labelNode (node : String) (labels : Dict String)
  /-- Adds the taint unless the node carries it already. -/
  | taintNode (node : String) (taint : Taint)
  | create (payload : Payload)
  /-- Waits until the definition is established. -/
  | waitForCrd (name : String)

/-- A cluster with states of the type: how it answers a call. -/
structure ClusterApi (σ : Type) where
  perform : Call → σ → Except ApiError Unit × σ

/-- An operation that failed. Everything before its index was done. -/
structure SubmitError where
  index : Nat
  operation : String
  source : ApiError
  deriving DecidableEq, Repr

def SubmitError.message (e : SubmitError) : String :=
  "operation " ++ toString e.index ++ " (" ++ e.operation ++ ") failed: " ++ e.source.message

/-- What happens during a run. -/
inductive Event where
  | progress (index : Nat) (operation : Operation)
  | call (c : Call)

/-- A finished run. -/
structure Run (σ : Type) where
  events : List Event
  failed : Option SubmitError
  state : σ

/-- What an operation asks of the cluster: a call, nothing where a vendor is always ready, or it
fails at once where no vendor of the kind is registered. -/
def Operation.call (r : Registry) : Operation → Except ApiError (Option Call)
  | ensureNamespace name labels => .ok (some (.ensureNamespace name labels))
  | labelNode node labels => .ok (some (.labelNode node labels))
  | taintNode node taint => .ok (some (.taintNode node taint))
  | create payload => .ok (some (.create payload))
  | waitForVendor kind =>
    match r.get? kind with
    | some v => .ok (v.readiness.map .waitForCrd)
    | none => .error ⟨"no provider registered for " ++ kind⟩

/-- Runs one operation: the calls it made, its outcome and the state of the cluster after it. -/
def Operation.perform {σ : Type} (o : Operation) (api : ClusterApi σ) (r : Registry) (st : σ) :
    List Call × Except ApiError Unit × σ :=
  match o.call r with
  | .error e => ([], .error e, st)
  | .ok none => ([], .ok (), st)
  | .ok (some c) =>
    let (outcome, st) := api.perform c st
    ([c], outcome, st)

/-- Runs the operations from the given index on. -/
def executeFrom {σ : Type} (api : ClusterApi σ) (r : Registry) :
    Nat → List Operation → σ → Run σ
  | _, [], st => ⟨[], none, st⟩
  | index, o :: rest, st =>
    let (calls, outcome, st) := o.perform api r st
    let events := .progress index o :: calls.map .call
    match outcome with
    | .error e => ⟨events, some ⟨index, o.text, e⟩, st⟩
    | .ok _ =>
      let run := executeFrom api r (index + 1) rest st
      ⟨events ++ run.events, run.failed, run.state⟩

/-- Runs a plan. -/
def execute {σ : Type} (p : Plan) (api : ClusterApi σ) (r : Registry) (st : σ) : Run σ :=
  executeFrom api r 0 p.operations st

end StorageSetup
