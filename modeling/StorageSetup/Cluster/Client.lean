import StorageSetup.Cluster.Inventory
import StorageSetup.Cluster.Server
import StorageSetup.Submission.Execute
/-!
# A client of the API server

The calls of a plan become requests. Calls that prepare the cluster can be repeated: a namespace
that exists gets its labels merged, labels are merged into a node, and a taint that is there is not
put there again.

Key definitions:
- `Connection`: a server with the requests it was sent
- `client`: how a cluster behind a connection performs the calls of a plan
- `loadInventory`: the inventory of the cluster
-/

namespace StorageSetup

open Json (DecodeError)

/-- A server and what it was asked. Listings are not recorded. -/
structure Connection (σ : Type := Server) where
  server : σ
  requests : List Request := []

/-- The reasons a request has no usable answer. -/
inductive RequestError where
  | rejected (r : Rejection)
  | malformed (e : DecodeError)
  /-- A single object was asked for by an empty name. -/
  | noName

namespace RequestError

def message : RequestError → String
  | rejected r => r.message
  | malformed e => e.message
  | noName => "Failed to build request: failed to validate request: A non-empty name is required"

/-- The server does not know the object or the kind. -/
def isNotFound : RequestError → Bool
  | rejected r => r.code == 404
  | _ => false

def toApiError (e : RequestError) : ApiError :=
  ⟨e.message⟩

end RequestError

namespace Connection

variable {σ : Type} [ApiServer σ]

def isRecorded (r : Request) : Bool :=
  r.method ≠ .get || r.target.name.isSome

/-- Sends a request. -/
def send (c : Connection σ) (r : Request) : Except RequestError Json × Connection σ :=
  if r.target.name = some "" then (.error .noName, c)
  else
    let (answer, server) := ApiServer.handle c.server r
    (answer.mapError .rejected,
      ⟨server, if isRecorded r then c.requests ++ [r] else c.requests⟩)

/-- Sends a request whose answer does not matter. -/
def submit (c : Connection σ) (r : Request) : Except ApiError Unit × Connection σ :=
  let (answer, c) := c.send r
  ((answer.mapError RequestError.toApiError).map fun _ => (), c)

/-- The patch that merges labels. -/
def labelPatch (labels : Dict String) : Json :=
  .obj [("metadata", .obj [("labels", .texts labels)])]

/-- Creates a namespace, or merges the labels into one that exists. -/
def ensureNamespace (c : Connection σ) (name : String) (labels : Dict String) :
    Except ApiError Unit × Connection σ :=
  let body : Json := .obj [
    ("apiVersion", .str "v1"),
    ("kind", .str "Namespace"),
    ("metadata", .obj [("labels", .texts labels), ("name", .str name)])]
  match c.send { method := .post, target := { model := .namespaceModel }, body := some body } with
  | (.ok _, c) => (.ok (), c)
  | (.error (.rejected r), c) =>
    if r.code = 409 then
      c.submit { method := .patch, target := { model := .namespaceModel, name := some name },
                 body := some (labelPatch labels) }
    else (.error ⟨r.message⟩, c)
  | (.error e, c) => (.error e.toApiError, c)

/-- Merges labels into a node. -/
def labelNode (c : Connection σ) (name : String) (labels : Dict String) :
    Except ApiError Unit × Connection σ :=
  c.submit { method := .patch, target := { model := .node, name := some name },
             body := some (labelPatch labels) }

/-- Puts a taint on a node that does not carry it. -/
def taintNode (c : Connection σ) (name : String) (taint : Taint) :
    Except ApiError Unit × Connection σ :=
  let target : Target := { model := .node, name := some name }
  match c.send { method := .get, target } with
  | (.error e, c) => (.error e.toApiError, c)
  | (.ok object, c) =>
    match NodeObject.decode .direct object with
    | .error e => (.error (RequestError.malformed e).toApiError, c)
    | .ok node =>
      match withTaint node.taints taint with
      | none => (.ok (), c)
      | some taints =>
        c.submit { method := .patch, target,
                   body := some (.obj [("spec",
                     .obj [("taints", .arr (taints.map NodeTaint.toJson))])]) }

/-- Creates a resource. Only kinds that live in a namespace are created in one. -/
def create (c : Connection σ) (p : Payload) : Except ApiError Unit × Connection σ :=
  match manifest .direct p.body with
  | .error e => (.error ⟨"invalid " ++ p.model.kind ++ " body: " ++ e.message⟩, c)
  | .ok body =>
    let namespaceName := if p.model.namespaced then p.namespaceName else none
    c.submit { method := .post, target := { model := p.model, namespaceName }, body := some body }

/-- A condition of the object says that the definition is established. -/
def isEstablished (definition : Json) : Bool :=
  (((definition.at? ["status", "conditions"]).bind Json.items?).getD []).any fun condition =>
    textAt ["type"] condition == "Established" && textAt ["status"] condition == "True"

/-- Waits for a definition; the wait is over at once. -/
def waitForCrd (c : Connection σ) (name : String) : Except ApiError Unit × Connection σ :=
  match c.send { method := .get, target := { model := .customResourceDefinition } } with
  | (.error e, c) => (.error e.toApiError, c)
  | (.ok listed, c) =>
    let found := ((listed.items?.getD []).filter fun o => Server.nameOf o == name)
    if found.any isEstablished then (.ok (), c)
    else (.error ⟨"timed out after 0s waiting for " ++ name⟩, c)

end Connection

/-- The cluster behind a connection. -/
def client {σ : Type} [ApiServer σ] : ClusterApi (Connection σ) where
  perform
    | .ensureNamespace name labels, c => c.ensureNamespace name labels
    | .labelNode node labels, c => c.labelNode node labels
    | .taintNode node taint, c => c.taintNode node taint
    | .create payload, c => c.create payload
    | .waitForCrd name, c => c.waitForCrd name

/-! ## Inventory -/

namespace Connection

variable {σ : Type} [ApiServer σ]

/-- The objects of a kind, each read in the same way. Listing leaves the server as it is. -/
def listObjects {α : Type} (c : Connection σ) (target : Target)
    (read : Json → Except DecodeError α) : Except RequestError (List α) := do
  let listed ← (c.send { method := .get, target }).1
  ((listed.items?.getD []).mapM read).mapError .malformed

/-- The objects of a kind that may not be installed; then there are none. -/
def listOptional (c : Connection σ) (target : Target) : Except RequestError (List Json) :=
  match c.listObjects target (manifest .direct) with
  | .error e => if e.isNotFound then .ok [] else .error e
  | .ok objects => .ok objects

/-- The inventory of the cluster. Every listing has to succeed. -/
def loadInventory (c : Connection σ) (config : Config) : Except RequestError Inventory := do
  let nodes ← c.listObjects { model := .node } (NodeObject.decode .direct)
  let storageClasses ← c.listObjects { model := .storageClass } StorageClassInfo.ofObject
  let results ← c.listOptional
    { model := .localVolumeDiscoveryResult, namespaceName := some config.localStorageNamespace }
  let clusters ← c.listOptional
    { model := .storageCluster, namespaceName := some config.namespaceName }
  let managed ← c.listOptional { model := .managedCluster }
  let infrastructures ← c.listOptional { model := .infrastructure }
  .ok {
    nodes := nodes.map NodeObject.snapshot
    storageClasses
    devices := results.flatMap discoveredDevices
    storageClusters := clusters.map ClusterSummary.ofObject
    managedClusters := managed.length
    platform := match infrastructures.find? fun i => textAt ["metadata", "name"] i == "cluster" with
      | some i => platformOf i
      | none => .unknown }

end Connection

end StorageSetup
