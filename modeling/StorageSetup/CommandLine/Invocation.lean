import StorageSetup.Bucket.Template
import StorageSetup.CommandLine.Arguments
/-!
# What a command line asks for

Without a command the wizard runs on the terminal. `apply` runs it with answers from a file, and
`bucket` deals with documents for buckets. Options of the program come before the command.

Key definitions:
- `Invocation`, `Task`: what is asked for
- `Invocation.parse`: from the parts of a command line
- `helpText`: the ways to call the program
-/

namespace StorageSetup.CommandLine

/-- The documents that can be checked. -/
inductive DocumentKind where
  | policy
  | cors
  deriving DecidableEq, Repr

def DocumentKind.named : List (String × DocumentKind) :=
  [("policy", policy), ("cors", cors)]

/-- What can be done with documents for buckets. -/
inductive BucketTask where
  | template (template : Bucket.Template) (bucket : String) (account : Option String)
  | validate (kind : DocumentKind) (file : String) (bucket : Option String)
  | blockPublicAccess
  deriving DecidableEq, Repr

/-- What the program does. -/
inductive Task where
  | wizard
  /-- Runs the wizard with the answers of a file; the plan is only printed in a dry run. -/
  | apply (answers : String) (dryRun : Bool)
  | bucket (task : BucketTask)
  deriving DecidableEq, Repr

/-- A task with the options of the program. -/
structure Invocation where
  context : Option String := none
  configFile : Option String := none
  namespaceName : Option String := none
  debug : Bool := false
  logFile : Option String := none
  task : Task
  deriving DecidableEq, Repr

/-! ## Grammars -/

/-- A path has at least one character. -/
def isPath (s : String) : Bool :=
  !s.isEmpty

/-- The value is one of several names. -/
def isOneOf {α : Type} (named : List (String × α)) (s : String) : Bool :=
  (named.lookup s).isSome

def anyText (_ : String) : Bool := true

def bucketCommands : List String :=
  ["template", "validate", "block-public-access"]

def bucketTopics : List (List String) :=
  [] :: ["help"] :: bucketCommands.map ([·])

def mainGrammar : Grammar where
  options := [
    { name := "context", letter := some 'c', accepts := some anyText },
    { name := "config", accepts := some isPath },
    { name := "namespace", letter := some 'n', accepts := some anyText },
    { name := "debug", letter := some 'd' },
    { name := "log-file", accepts := some anyText }]
  commands := ["apply", "bucket"]
  topics := [] :: ["help"] :: ["apply"] :: bucketTopics.map ("bucket" :: ·)
  hasVersion := true

def applyGrammar : Grammar where
  options := [
    { name := "answers", letter := some 'a', accepts := some isPath },
    { name := "dry-run" }]

def bucketGrammar : Grammar where
  commands := bucketCommands
  topics := bucketTopics

def bucketOption : OptionSpec :=
  { name := "bucket", letter := some 'b', accepts := some anyText }

def templateGrammar : Grammar where
  options := [bucketOption, { name := "account", letter := some 'a', accepts := some anyText }]
  words := [isOneOf Bucket.Template.named]

def validateGrammar : Grammar where
  options := [bucketOption]
  words := [isOneOf DocumentKind.named, isPath]

/-! ## From arguments to tasks -/

/-- Something that has to be given. -/
def required {α : Type} : Option α → Except Stop α
  | some a => .ok a
  | none => .error .usage

def parseApply (line : List String) : Except Stop Task := do
  let a ← applyGrammar.read line
  let answers ← required (a.value? "answers")
  .ok (.apply answers (a.isSet "dry-run"))

def parseTemplate (line : List String) : Except Stop BucketTask := do
  let a ← templateGrammar.read line
  let template ← required (a.words.head?.bind fun w => Bucket.Template.named.lookup w)
  let bucket ← required (a.value? "bucket")
  .ok (.template template bucket (a.value? "account"))

def parseValidate (line : List String) : Except Stop BucketTask := do
  let a ← validateGrammar.read line
  let kind ← required (a.words.head?.bind fun w => DocumentKind.named.lookup w)
  let file ← required a.words[1]?
  .ok (.validate kind file (a.value? "bucket"))

def parseBucket (line : List String) : Except Stop BucketTask := do
  let a ← bucketGrammar.read line
  match a.command with
  | some ("template", rest) => parseTemplate rest
  | some ("validate", rest) => parseValidate rest
  | some (_, rest) => do
    let _ ← ({} : Grammar).read rest
    .ok .blockPublicAccess
  | none => .error .usage

def parseTask : Option (String × List String) → Except Stop Task
  | some ("apply", rest) => parseApply rest
  | some (_, rest) => (parseBucket rest).map .bucket
  | none => .ok .wizard

/-- What a command line asks for. -/
def Invocation.parse (line : List String) : Except Stop Invocation := do
  let a ← mainGrammar.read line
  let task ← parseTask a.command
  .ok {
    context := a.value? "context"
    configFile := a.value? "config"
    namespaceName := a.value? "namespace"
    debug := a.isSet "debug"
    logFile := a.value? "log-file"
    task }

/-- The files that the task reads. -/
def Task.reads : Task → List String
  | .wizard => []
  | .apply answers _ => [answers]
  | .bucket (.validate _ file _) => [file]
  | .bucket _ => []

/-! ## Help -/

def programName : String := "storage-pilot"

def programVersion : String := "0.1.0"

/-- The ways to call the program. -/
def helpText : String :=
  String.join ([
    "Create a storage system on a Kubernetes cluster",
    "",
    "Usage: " ++ programName ++ " [OPTIONS] [COMMAND]",
    "",
    "Commands:",
    "  apply -a FILE [--dry-run]            Run the wizard from an answers file",
    "  bucket template KIND -b BUCKET [-a ACCOUNT]",
    "                                       Print a ready-made bucket policy",
    "  bucket validate policy|cors FILE [-b BUCKET]",
    "                                       Check a policy or CORS document",
    "  bucket block-public-access           Print a block of all public access",
    "",
    "Options:",
    "  -c, --context CONTEXT      Kubeconfig context to use",
    "      --config FILE          Path to the config file",
    "  -n, --namespace NAMESPACE  Namespace of the storage operators",
    "  -d, --debug                Enable debug logging",
    "      --log-file FILE        Log file path",
    "  -h, --help                 Print help",
    "  -V, --version              Print version"].map (· ++ "\n"))

end StorageSetup.CommandLine
