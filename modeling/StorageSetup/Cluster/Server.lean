import StorageSetup.Json.Patch
import StorageSetup.Resource.Model
import StorageSetup.Text.Search
/-!
# API servers

A client knows a server by its answers alone. The one that is defined here holds objects and answers
requests as a function of what it holds. It can be told which kinds it does not serve and which
requests it refuses, so that a client can be driven into every answer.

Key definitions:
- `Target`, `Request`: what is asked, `Target.path` where
- `ApiServer`: servers of a type, by their answers
- `Server`: what is held and refused
- `Server.handle`: the answer to a request and the server after it
-/

namespace StorageSetup

namespace ResourceModel

def node : ResourceModel :=
  ⟨"", "v1", "Node", "nodes", false⟩

/-- A namespace is itself no part of one. -/
def namespaceModel : ResourceModel :=
  ⟨"", "v1", "Namespace", "namespaces", false⟩

def storageClass : ResourceModel :=
  ⟨"storage.k8s.io", "v1", "StorageClass", "storageclasses", false⟩

def customResourceDefinition : ResourceModel :=
  ⟨"apiextensions.k8s.io", "v1", "CustomResourceDefinition", "customresourcedefinitions", false⟩

/-- Where objects of the kind are served. -/
def root (m : ResourceModel) : String :=
  if m.group.isEmpty then "/api/" ++ m.version else "/apis/" ++ m.group ++ "/" ++ m.version

end ResourceModel

/-- The objects of a kind, or one of them. -/
structure Target where
  model : ResourceModel
  /-- Without a namespace the objects of all namespaces are meant. -/
  namespaceName : Option String := none
  name : Option String := none
  deriving DecidableEq, Repr

/-- The path of the target on the server. -/
def Target.path (t : Target) : String :=
  t.model.root ++ "/" ++
    (match t.namespaceName with
      | some ns => "namespaces/" ++ ns ++ "/"
      | none => "") ++
    t.model.plural ++
    (match t.name with
      | some n => "/" ++ n
      | none => "")

/-- What can be done to a target. -/
inductive Method where
  | get
  | post
  | patch
  deriving DecidableEq, Repr

def Method.code : Method → String
  | get => "GET"
  | post => "POST"
  | patch => "PATCH"

/-- A question to the server. -/
structure Request where
  method : Method
  target : Target
  body : Option Json := none

/-- A request that the server refuses. -/
structure Rejection where
  code : Nat
  message : String
  deriving DecidableEq, Repr

/-- Servers with states of the type: the answer to a request and the server after it. -/
class ApiServer (σ : Type) where
  handle : σ → Request → Except Rejection Json × σ

/-- A rule by which the server refuses requests. -/
structure Failure where
  /-- The method as written in requests. -/
  method : String
  /-- A part of the paths it is about. -/
  part : String
  rejection : Rejection
  deriving DecidableEq, Repr

def Failure.concerns (f : Failure) (r : Request) : Bool :=
  f.method == r.method.code && Text.containsText f.part.toList r.target.path.toList

/-- What a server holds and refuses. -/
structure Server where
  objects : List Json := []
  /-- Kinds that are not installed. -/
  unserved : List String := []
  failures : List Failure := []

namespace Server

/-- The name of an object, empty where it has none. -/
def nameOf (object : Json) : String :=
  ((object.at? ["metadata", "name"]).bind Json.string?).getD ""

/-- The object is one of those the target speaks of. -/
def isAt (t : Target) (object : Json) : Bool :=
  (object.member? "kind").bind Json.string? == some t.model.kind &&
    (match t.namespaceName with
      | none => true
      | some ns => (object.at? ["metadata", "namespace"]).bind Json.string? == some ns) &&
    (match t.name with
      | none => true
      | some n => nameOf object == n)

/-- The first object the target speaks of. -/
def find? (s : Server) (t : Target) : Option Json :=
  s.objects.find? (isAt t)

def notFound (t : Target) : Rejection :=
  ⟨404, t.model.plural ++ " \"" ++ t.name.getD "" ++ "\" not found"⟩

def alreadyExists (t : Target) : Rejection :=
  ⟨409, t.model.plural ++ " \"" ++ t.name.getD "" ++ "\" already exists"⟩

/-- The object with the namespace of the target in its metadata. -/
def placed (t : Target) (object : Json) : Json :=
  match t.namespaceName with
  | none => object
  | some ns => object.mergePatch (.obj [("metadata", .obj [("namespace", .str ns)])])

/-- Replaces the first object the target speaks of. -/
def replaceFirst (t : Target) (new : Json) : List Json → List Json
  | [] => []
  | o :: rest => if isAt t o then new :: rest else o :: replaceFirst t new rest

/-- The answer to a request that is not refused. -/
def serve (s : Server) (r : Request) : Except Rejection Json × Server :=
  match r.method, r.target.name with
  | .get, none => (.ok (.arr (s.objects.filter (isAt r.target))), s)
  | .get, some _ =>
    match s.find? r.target with
    | some o => (.ok o, s)
    | none => (.error (notFound r.target), s)
  | .post, _ =>
    let body := r.body.getD .null
    let target := { r.target with name := some (nameOf body) }
    match s.find? target with
    | some _ => (.error (alreadyExists target), s)
    | none =>
      let object := placed r.target body
      (.ok object, { s with objects := s.objects ++ [object] })
  | .patch, _ =>
    match s.find? r.target with
    | some o =>
      let object := o.mergePatch (r.body.getD .null)
      (.ok object, { s with objects := replaceFirst r.target object s.objects })
    | none => (.error (notFound r.target), s)

/-- The answer to a request that a rule refuses or whose kind is not installed. -/
def refusal? (s : Server) (r : Request) : Option Rejection :=
  match s.failures.find? (·.concerns r) with
  | some f => some f.rejection
  | none =>
    if s.unserved.contains r.target.model.kind then some ⟨404, "404 page not found"⟩ else none

/-- The answer to a request and the server after it. -/
def handle (s : Server) (r : Request) : Except Rejection Json × Server :=
  match s.refusal? r with
  | some e => (.error e, s)
  | none => s.serve r

end Server

instance : ApiServer Server where
  handle := Server.handle

end StorageSetup
