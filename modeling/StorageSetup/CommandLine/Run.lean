import StorageSetup.Bucket.Store
import StorageSetup.Cluster.Client
import StorageSetup.CommandLine.Invocation
import StorageSetup.Config.File
import StorageSetup.Form.Row
import StorageSetup.Json.Printer
import StorageSetup.Replay
import StorageSetup.Yaml.Printer
/-!
# Running the program

What a command line does depends on files, on whether the log can be written, and on the cluster
that the chosen context leads to. The result is what is printed, the failure if there is one, and
what the cluster was asked.

Key definitions:
- `Environment`: what surrounds the program
- `Failure`: why a task fails, `Failure.message` its wording
- `Outcome`, `run`: what a command line does

Failures of files and of the cluster are reported by their kind; the details are the surroundings'.
-/

namespace StorageSetup.CommandLine

/-- What a context leads to. -/
inductive ClusterAccess where
  /-- There is no such context, or none at all. -/
  | noContext
  /-- The server does not answer. -/
  | unreachable
  | reachable (c : Connection)

/-- What surrounds the program. -/
structure Environment where
  files : Files
  /-- The file of settings that is read where no other is named. -/
  defaultConfigFile : Option String := none
  /-- A file can be written at the path. -/
  canWrite : String → Bool
  /-- The cluster of the named context, or of the current one. -/
  cluster : Option String → ClusterAccess

/-- Why a task fails. -/
inductive Failure where
  /-- A file cannot be read or written, or there is no terminal. -/
  | files
  | yaml
  | noContext
  | cluster
  | replay (reason : ReplayError)
  | submission (reason : SubmitError)
  | unreadable (file : String)
  | unparsable
  | policy (reason : Bucket.PolicyError)
  | cors (reason : Bucket.CorsError)
  | template (reason : Bucket.TemplateError)

def Failure.message : Failure → String
  | files => "IO error"
  | yaml => "Failed to parse YAML"
  | noContext => "Failed to load kubeconfig"
  | cluster => "K8s API error"
  | replay reason => reason.message
  | submission reason => reason.message
  | unreadable file => "Failed to read " ++ file
  | unparsable => "Invalid document"
  | policy reason => "Invalid document: " ++ reason.message
  | cors reason => "Invalid document: " ++ reason.message
  | template reason => "Invalid document: " ++ reason.message

/-- What a command line does. -/
structure Outcome where
  exit : UInt8
  output : String := ""
  failure : Option Failure := none
  requests : List Request := []

namespace Outcome

def printing (output : String) : Outcome :=
  { exit := 0, output }

def failing (reason : Failure) : Outcome :=
  { exit := 1, failure := some reason }

/-- What is printed, or the failure. -/
def ofResult : Except Failure String → Outcome
  | .ok output => printing output
  | .error reason => failing reason

end Outcome

namespace Environment

/-- The text of a file that has to be there. -/
def text (env : Environment) (path : String) : Except Failure String :=
  match env.files path with
  | some content => .ok content
  | none => .error .files

/-- The settings: those of the named file, or those of the default file if it is there. -/
def config (env : Environment) (named : Option String) : Except Failure Config := do
  let content ← match named with
    | some path => env.text path
    | none => .ok ((env.defaultConfigFile.bind env.files).getD "")
  (Config.ofYaml content).mapError fun _ => .yaml

end Environment

/-- The settings with those of the command line in front. -/
def Invocation.override (i : Invocation) (c : Config) : Config :=
  { c with
    kubeContext := i.context.or c.kubeContext
    namespaceName := i.namespaceName.getD c.namespaceName }

/-! ## Tasks -/

/-- Checks a document and says what it does. -/
def validateDocument (kind : DocumentKind) (bucket : Option String) (content : String) :
    Except Failure String :=
  match kind with
  | .policy =>
    match Bucket.Policy.parse? content with
    | none => .error .unparsable
    | some policy =>
      match policy.validate bucket with
      | .error reason => .error (.policy reason)
      | .ok _ => .ok (if policy.isPublic then "valid (grants public access)\n" else "valid\n")
  | .cors =>
    match Bucket.Cors.parse? content with
    | none => .error .unparsable
    | some cors => (cors.validate.mapError .cors).map fun _ => "valid\n"

def runBucket (env : Environment) : BucketTask → Except Failure String
  | .template template bucket account =>
    ((template.render bucket account).mapError .template).map fun policy =>
      policy.toJson.pretty ++ "\n"
  | .validate kind file bucket =>
    match env.files file with
    | some content => validateDocument kind bucket content
    | none => .error (.unreadable file)
  | .blockPublicAccess => .ok (Bucket.AccessBlock.all.toJson.pretty ++ "\n")

/-- Plans what the answers ask for. -/
def planAnswers (c : Connection) (config : Config) (a : Answers) :
    Except Failure (Session × Plan) := do
  let inventory ← (c.loadInventory config).mapError fun _ => .cluster
  (replay (.new inventory.context .builtins) a inventory config).mapError .replay

/-- Submits a plan. -/
def submit (c : Connection) (r : Registry) (p : Plan) : Outcome :=
  let run := execute p client r c
  let requests := run.state.requests
  match run.failed with
  | some reason => { Outcome.failing (.submission reason) with requests }
  | none =>
    { Outcome.printing ("Applied " ++ toString p.operations.length ++ " operations\n") with
      requests }

/-- Runs the wizard with answers against a cluster. -/
def applyTo (c : Connection) (config : Config) (a : Answers) (dryRun : Bool) : Outcome :=
  match planAnswers c config a with
  | .error reason => .failing reason
  | .ok (session, plan) =>
    if dryRun then .printing (Yaml.render plan.toJson) else submit c session.registry plan

/-- The answers of a file. -/
def readAnswers (env : Environment) (path : String) : Except Failure Answers := do
  let content ← env.text path
  (Answers.ofYaml content).mapError fun _ => .yaml

def runApply (env : Environment) (config : Config) (path : String) (dryRun : Bool) : Outcome :=
  match readAnswers env path with
  | .error reason => .failing reason
  | .ok answers =>
    match env.cluster config.kubeContext with
    | .noContext => .failing .noContext
    | .unreachable => .failing .cluster
    | .reachable c => applyTo c config answers dryRun

/-- Runs a task. The wizard on a terminal is not part of it. -/
def runTask (env : Environment) (config : Config) : Task → Outcome
  | .wizard => .failing .files
  | .apply path dryRun => runApply env config path dryRun
  | .bucket task => .ofResult (runBucket env task)

/-! ## The whole -/

/-- Opens the log, reads the settings and runs the task. -/
def Invocation.run (i : Invocation) (env : Environment) : Outcome :=
  if !i.logFile.all env.canWrite then .failing .files
  else
    match env.config i.configFile with
    | .error reason => .failing reason
    | .ok config => runTask env (i.override config) i.task

/-- What is done where a command line asks for nothing. -/
def Stop.outcome : Stop → Outcome
  | .usage => { exit := 2 }
  | .help => .printing helpText
  | .version => .printing (programName ++ " " ++ programVersion ++ "\n")

/-- Runs a command line. -/
def run (env : Environment) (line : List String) : Outcome :=
  match Invocation.parse line with
  | .error stop => stop.outcome
  | .ok invocation => invocation.run env

end StorageSetup.CommandLine
