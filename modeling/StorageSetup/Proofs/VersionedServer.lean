import StorageSetup.Proofs.NodeTaints
import StorageSetup.Proofs.ObjectServer
/-!
# Servers with versions

A server that holds objects may give what it changes the next version. It then refuses a patch that
names another version than it holds, and changes nothing. A patch with the taints of a node is
served for the version that it names, or for any where it names none: the node has those taints and
the next version.

Key definitions: `VersionedServer`, `VersionedServer.send`, `VersionedServer.Written`.
Key theorems: `VersionedServer.send_cases`, `VersionedServer.send_readOf`,
`VersionedServer.send_patchOf`.
-/

namespace StorageSetup

open ObjectStore ObjectServer

/-! ### Requests -/

/-- The node of a name. -/
def nodeTarget (name : String) : Target where
  model := .node
  name := some name

/-- The request that reads a node. -/
def readOf (name : String) : Request where
  method := .get
  target := nodeTarget name

/-- The request that writes taints for the named version of a node, or for any. -/
def patchOf (name : String) (named : Option String) (taints : List NodeTaint) : Request where
  method := .patch
  target := nodeTarget name
  body := some (Json.taintsPatch named taints)

/-! ### Versions -/

/-- A server that gives what it changes the next version. -/
structure VersionedServer (σ : Type) where
  server : σ
  /-- The changes so far. -/
  revision : Nat
  /-- How versions are written. -/
  version : Nat → String
  version_injective : Function.Injective version

namespace VersionedServer

variable {σ : Type} [ObjectServer σ]

/-- The refusal of a change for a version that has passed. -/
def conflict (t : Target) : Rejection :=
  ⟨409, "Operation cannot be fulfilled on " ++ t.model.plural ++ " \"" ++ t.name.getD "" ++
    "\": the object has been modified; please apply your changes to the latest version " ++
    "and try again"⟩

/-- The request names another version than the server holds. -/
def isStale (v : VersionedServer σ) (r : Request) : Bool :=
  match r.body.bind Json.version?, held? v.server r.target with
  | some named, some object => object.version? != some named
  | _, _ => false

/-- The request with the version that its change has. -/
def stamp (v : VersionedServer σ) (r : Request) : Request :=
  { r with body := r.body.map fun body =>
      body.mergePatch (.obj [Json.versionPart (v.version (v.revision + 1))]) }

/-- The server behind a change. -/
def next (v : VersionedServer σ) (server : σ) : VersionedServer σ :=
  { v with server, revision := v.revision + 1 }

/-- Sends a request. -/
def send (v : VersionedServer σ) (r : Request) : Except RequestError Json × VersionedServer σ :=
  if r.target.name = some "" then (.error .noName, v)
  else if v.isStale r then (.error (.rejected (conflict r.target)), v)
  else
    match ApiServer.handle v.server (v.stamp r) with
    | (.error e, _) => (.error (.rejected e), v)
    | (.ok object, server) =>
      (.ok object, if r.method = .get then { v with server } else v.next server)

/-- The node of a name. -/
def node? (v : VersionedServer σ) (name : String) : Option Json :=
  held? v.server (nodeTarget name)

/-- The taints that a node carries. -/
def taints (v : VersionedServer σ) (name : String) : List Taint :=
  ((v.node? name).map Json.taints).getD []

/-- The node is in the version of the last change. -/
def Stamped (v : VersionedServer σ) (name : String) : Prop :=
  ∀ o, v.node? name = some o → o.version? = some (v.version v.revision)

end VersionedServer

/-! ### One request -/

namespace VersionedServer

variable {σ : Type} [ObjectServer σ]

/-- A request is refused and changes nothing, or it is served for the version that it names. -/
theorem send_cases (v : VersionedServer σ) (r : Request) : (∃ e, v.send r = (.error e, v)) ∨
    ∃ object server, v.isStale r = false ∧
      ApiServer.handle v.server (v.stamp r) = (.ok object, server) ∧
      v.send r = (.ok object, if r.method = .get then { v with server } else v.next server) := by
  unfold send
  by_cases hname : r.target.name = some ""
  · exact .inl ⟨_, if_pos hname⟩
  · rw [if_neg hname]
    cases hstale : v.isStale r with
    | true => exact .inl ⟨_, if_pos rfl⟩
    | false =>
      rw [if_neg Bool.false_ne_true]
      rcases ApiServer.handle v.server (v.stamp r) with ⟨answer, server⟩
      cases answer with
      | error e => exact .inl ⟨_, rfl⟩
      | ok object => exact .inr ⟨object, server, rfl, rfl, rfl⟩

/-- Reading a node changes nothing. -/
theorem send_readOf (v : VersionedServer σ) (name : String) : ∃ answer,
    v.send (readOf name) = (answer, v) ∧ ∀ o, answer = .ok o → v.node? name = some o := by
  rcases v.send_cases (readOf name) with ⟨e, he⟩ | ⟨object, server, _, hhandle, hsend⟩
  · exact ⟨_, he, fun o h => by cases h⟩
  · rcases get_cases v.server (t := nodeTarget name) rfl with ⟨e, he⟩ | ⟨o, -, hheld, ho⟩
    · cases he.symm.trans hhandle
    · cases ho.symm.trans hhandle
      exact ⟨_, hsend, fun o h => Except.ok.inj h ▸ hheld⟩

/-- The node is in the version that is named, if one is, and its next version has the taints. -/
structure Written (v : VersionedServer σ) (name : String) (named : Option String)
    (taints : List NodeTaint) (server : σ) : Prop where
  found : ∃ o, v.node? name = some o ∧ ∀ version, named = some version → o.version? = some version
  taints_eq : (v.next server).taints name = taints.map NodeTaint.toTaint
  stamped : (v.next server).Stamped name

/-- **Taints that are written are those of the node's next version.** -/
theorem send_patchOf (v : VersionedServer σ) (name : String) (named : Option String)
    (taints : List NodeTaint) : (∃ e, v.send (patchOf name named taints) = (.error e, v)) ∨
      ∃ object server, v.Written name named taints server ∧
        v.send (patchOf name named taints) = (.ok object, v.next server) := by
  rcases v.send_cases (patchOf name named taints) with
    ⟨e, he⟩ | ⟨object, server, hstale, hhandle, hsend⟩
  · exact .inl ⟨e, he⟩
  · have hstamp : v.stamp (patchOf name named taints) =
        { method := .patch, target := nodeTarget name
          body := some (.obj [Json.versionPart (v.version (v.revision + 1)),
            Json.taintsPart taints]) } := by
      unfold stamp patchOf
      rw [Option.map_some, Json.mergePatch_taintsPatch]
    rw [hstamp] at hhandle
    rcases patch_cases v.server (nodeTarget name) (.obj [Json.versionPart
      (v.version (v.revision + 1)), Json.taintsPart taints]) with ⟨e, he⟩ | ⟨o, -, hnode, ho⟩
    · cases he.symm.trans hhandle
    · let new := o.rewritten (v.version (v.revision + 1)) taints
      obtain ⟨rfl, rfl⟩ : new = object ∧ replaced v.server (nodeTarget name) new = server := by
        cases ho.symm.trans hhandle
        exact ⟨rfl, rfl⟩
      have hat : Server.isAt (nodeTarget name) new = true :=
        (o.isAt_rewritten _ _ name).trans (isAt_of_held hnode)
      have hnew : (v.next (replaced v.server (nodeTarget name) new)).node? name = some new :=
        held_replaced hnode hat
      refine .inr ⟨new, _, ⟨⟨o, hnode, fun version hnamed => ?_⟩, ?_, fun o' ho' => ?_⟩, hsend⟩
      · have hheld : held? v.server (patchOf name named taints).target = some o := hnode
        have hversion : (patchOf name named taints).body.bind Json.version? = some version :=
          (Json.version?_taintsPatch named taints).trans hnamed
        unfold isStale at hstale
        rw [hversion, hheld] at hstale
        simpa using hstale
      · unfold VersionedServer.taints
        rw [hnew]
        exact o.taints_rewritten _ taints
      · rw [hnew] at ho'
        cases ho'
        exact o.version?_rewritten _ taints

end VersionedServer

end StorageSetup
