import StorageSetup.Proofs.Patches
import StorageSetup.Proofs.VersionedServer
/-!
# Preparation can be repeated

A submission that failed is started again from the beginning, so the operations that prepare the
cluster meet what they have left. On every server that holds objects an operation that succeeded
succeeds again and leaves the server as it is: the merge patch that was served changes nothing the
second time, a namespace that was created is met by the labels it was created with, and a taint that
was put on a node is found there. What is not asked for stays: the other labels of the object, the
other taints of the node in their order, and every other object.

A namespace of the empty name is the exception. It can be created, but nothing can be asked of it
afterwards.

Key definitions: `Operation.place?`, `Operation.Prepared`.
Key theorems: `Connection.submit_patch`, `Connection.ensureNamespace_again`,
`Connection.taintNode_again`, `Operation.perform_again`.
-/

namespace StorageSetup

open ObjectStore ObjectServer

variable {σ : Type} [ObjectServer σ]

/-! ### One request -/

/-- The request that merges labels into an object. -/
def labelsOf (t : Target) (labels : Dict String) : Request where
  method := .patch
  target := t
  body := some (Connection.labelPatch labels)

namespace Connection

variable {c c' : Connection σ} {r : Request} {t : Target}

theorem send_ok {a : Json} (h : c.send r = (.ok a, c')) :
    r.target.name ≠ some "" ∧ ApiServer.handle c.server r = (.ok a, c'.server) := by
  unfold send at h
  by_cases hname : r.target.name = some ""
  · rw [if_pos hname] at h
    cases h
  · refine ⟨hname, ?_⟩
    rw [if_neg hname] at h
    rcases hhandle : ApiServer.handle c.server r with ⟨answer, server⟩
    rw [hhandle] at h
    cases answer with
    | error e => cases h
    | ok a =>
      cases h
      rfl

theorem send_of_handle {a : Json} {s : σ} (hname : r.target.name ≠ some "")
    (h : ApiServer.handle c.server r = (.ok a, s)) :
    ∃ c', c.send r = (.ok a, c') ∧ c'.server = s := by
  unfold send
  rw [if_neg hname, h]
  exact ⟨_, rfl, rfl⟩

theorem submit_ok (h : c.submit r = (.ok (), c')) : ∃ a, c.send r = (.ok a, c') := by
  unfold submit at h
  rcases hsend : c.send r with ⟨answer, c₁⟩
  rw [hsend] at h
  cases answer with
  | error e => cases h
  | ok a =>
    cases h
    exact ⟨a, rfl⟩

theorem submit_of_send {a : Json} (h : c.send r = (.ok a, c')) : c.submit r = (.ok (), c') := by
  unfold submit
  rw [h]
  rfl

/-- A patch that changes nothing is served without a change. -/
theorem submit_patch_self {patch o : Json} (hname : t.name ≠ some "")
    (hadmitted : refusal? c.server { method := .patch, target := t, body := some patch } = none)
    (hheld : held? c.server t = some o) (hself : o.mergePatch patch = o) : ∃ c',
      c.submit { method := .patch, target := t, body := some patch } = (.ok (), c') ∧
        c'.server = c.server := by
  have hhandle := handle_patch hadmitted hheld
  rw [hself, replaced_self hheld] at hhandle
  obtain ⟨c', hsend, hserver⟩ := send_of_handle hname hhandle
  exact ⟨c', submit_of_send hsend, hserver⟩

/-- **A patch that was served changes the object in its place**, and served again it changes
nothing. -/
theorem submit_patch {patch : Json} (hat : ∀ o, Server.isAt t (o.mergePatch patch) =
      Server.isAt t o) (hpatch : patch.Repeatable)
    (h : c.submit { method := .patch, target := t, body := some patch } = (.ok (), c')) :
    ∃ o, held? c.server t = some o ∧ c'.server = replaced c.server t (o.mergePatch patch) ∧
      held? c'.server t = some (o.mergePatch patch) ∧
      ∀ again : Connection σ, again.server = c'.server → ∃ c'',
        again.submit { method := .patch, target := t, body := some patch } = (.ok (), c'') ∧
          c''.server = c'.server := by
  obtain ⟨a, hsend⟩ := submit_ok h
  obtain ⟨hname, hhandle⟩ := send_ok hsend
  rcases patch_cases c.server t patch with ⟨e, he⟩ | ⟨o, hadmitted, hheld, ho⟩
  · cases he.symm.trans hhandle
  · have hserver : c'.server = replaced c.server t (o.mergePatch patch) :=
      (congrArg Prod.snd (ho.symm.trans hhandle)).symm
    have hnew : held? c'.server t = some (o.mergePatch patch) := by
      rw [hserver]
      exact held_replaced hheld ((hat o).trans (isAt_of_held hheld))
    refine ⟨o, hheld, hserver, hnew, fun again hagain => ?_⟩
    have hadmitted' : refusal? again.server
        { method := .patch, target := t, body := some patch } = none := by
      rw [hagain, hserver, refusal_replaced]
      exact hadmitted
    rw [← hagain] at hnew ⊢
    exact submit_patch_self hname hadmitted' hnew (hpatch o)

theorem submit_labels {labels : Dict String} (h : c.submit (labelsOf t labels) = (.ok (), c')) :
    ∃ o new, held? c.server t = some o ∧ c'.server = replaced c.server t new ∧
      held? c'.server t = some new ∧ o.Labelled labels new ∧
      ∀ again : Connection σ, again.server = c'.server → ∃ c'',
        again.submit (labelsOf t labels) = (.ok (), c'') ∧ c''.server = c'.server := by
  obtain ⟨o, hheld, hserver, hnew, hagain⟩ :=
    submit_patch (fun o => (o.labelled_mergePatch labels).isAt t)
      (Json.repeatable_labelPatch labels) h
  exact ⟨o, _, hheld, hserver, hnew, o.labelled_mergePatch labels, hagain⟩

end Connection

/-! ### Namespaces -/

/-- The namespace of a name. -/
def namespaceTarget (name : String) : Target where
  model := .namespaceModel
  name := some name

/-- A namespace as it is created. -/
def namespaceBody (name : String) (labels : Dict String) : Json :=
  .obj [
    ("apiVersion", .str "v1"),
    ("kind", .str "Namespace"),
    ("metadata", .obj [("labels", .texts labels), ("name", .str name)])]

/-- The request that creates a namespace. -/
def creationOf (name : String) (labels : Dict String) : Request where
  method := .post
  target := { model := .namespaceModel }
  body := some (namespaceBody name labels)

section

variable {name : String} {labels : Dict String} {s s' : σ}

theorem isAt_namespaceBody (name : String) (labels : Dict String) :
    Server.isAt (namespaceTarget name) (namespaceBody name labels) = true := by
  simp [Server.isAt, namespaceTarget, namespaceBody, Server.nameOf, Json.member?, Json.at?,
    lookupEntry, Json.string?, ResourceModel.namespaceModel]

/-- A new namespace has the labels already. -/
theorem mergePatch_namespaceBody (name : String) (labels : Dict String) :
    (namespaceBody name labels).mergePatch (Connection.labelPatch labels) =
      namespaceBody name labels := by
  let unlabelled : Json := .obj [("apiVersion", .str "v1"), ("kind", .str "Namespace"),
    ("metadata", .obj [("name", .str name)])]
  have hlabelled : unlabelled.mergePatch (Connection.labelPatch labels) =
      namespaceBody name labels := by
    have hversion : ¬ "metadata" < "apiVersion" := by decide
    have hkind : ¬ "metadata" < "kind" := by decide
    have hname : "labels" < "name" := by decide
    have htexts : Json.texts labels ≠ .null := nofun
    simp [unlabelled, namespaceBody, Connection.labelPatch, Json.mergePatch, Json.mergeMembers_cons,
      Json.mergeMembers, Json.members, insertEntry, lookupEntry, hversion, hkind, hname, htexts,
      Json.null_mergePatch_texts]
  rw [← hlabelled]
  exact Json.repeatable_labelPatch labels unlabelled

/-- Creating a namespace is refused whatever is held, or refused with 409 since it is there, or it
adds the namespace. -/
theorem creation_cases (s : σ) (name : String) (labels : Dict String) :
    (∃ e, refusal? s (creationOf name labels) = some e ∧
      ApiServer.handle s (creationOf name labels) = (.error e, s)) ∨
    (∃ o e, held? s (namespaceTarget name) = some o ∧ e.code = 409 ∧
      ApiServer.handle s (creationOf name labels) = (.error e, s)) ∨
    (refusal? s (creationOf name labels) = none ∧ held? s (namespaceTarget name) = none ∧
      ApiServer.handle s (creationOf name labels) =
        (.ok (namespaceBody name labels), added s (namespaceBody name labels))) :=
  post_cases s { model := .namespaceModel } (namespaceBody name labels)

/-- A namespace that was refused as one that exists is refused so again where it is held. -/
theorem handle_creation_again {e : Rejection} {s₁ : σ} {o : Json}
    (hrefusal : refusal? s' (creationOf name labels) = refusal? s (creationOf name labels))
    (hheld : held? s' (namespaceTarget name) = some o)
    (h : ApiServer.handle s (creationOf name labels) = (.error e, s₁)) (hcode : e.code = 409) :
    ∃ e', ApiServer.handle s' (creationOf name labels) = (.error e', s') ∧ e'.code = 409 := by
  rcases creation_cases s' name labels with ⟨e', hr, he'⟩ | ⟨_, e', _, hcode', he'⟩ |
    ⟨_, hnone, _⟩
  · refine ⟨e', he', ?_⟩
    rw [hrefusal] at hr
    cases (handle_of_refusal hr).symm.trans h
    exact hcode
  · exact ⟨e', he', hcode'⟩
  · rw [hnone] at hheld
    cases hheld

end

namespace Connection

variable {c c' : Connection σ} {name : String} {labels : Dict String}

theorem send_creation (c : Connection σ) (name : String) (labels : Dict String) :
    c.send (creationOf name labels) =
      ((ApiServer.handle c.server (creationOf name labels)).1.mapError .rejected,
        ⟨(ApiServer.handle c.server (creationOf name labels)).2,
          c.requests ++ [creationOf name labels]⟩) :=
  rfl

theorem ensureNamespace_of_ok {a : Json} {s : σ}
    (h : ApiServer.handle c.server (creationOf name labels) = (.ok a, s)) :
    c.ensureNamespace name labels =
      (.ok (), ⟨s, c.requests ++ [creationOf name labels]⟩) := by
  have hsend := c.send_creation name labels
  rw [h] at hsend
  unfold ensureNamespace
  dsimp only
  split
  · next hc =>
    cases hc.symm.trans hsend
    rfl
  · next hc => cases hc.symm.trans hsend
  · next hc => cases hc.symm.trans hsend

/-- A namespace that cannot be created may be there already, and then has the labels merged in. -/
theorem ensureNamespace_of_error {e : Rejection} {s : σ}
    (h : ApiServer.handle c.server (creationOf name labels) = (.error e, s)) :
    c.ensureNamespace name labels =
      let c₁ : Connection σ := ⟨s, c.requests ++ [creationOf name labels]⟩
      if e.code = 409 then c₁.submit (labelsOf (namespaceTarget name) labels)
      else (.error ⟨e.message⟩, c₁) := by
  have hsend := c.send_creation name labels
  rw [h] at hsend
  unfold ensureNamespace
  dsimp only
  split
  · next hc => cases hc.symm.trans hsend
  · next hc =>
    cases hc.symm.trans hsend
    rfl
  · next hnot hc =>
    cases hc.symm.trans hsend
    exact absurd rfl (hnot e)

/-- A namespace that is there has the labels merged in. -/
theorem ensureNamespace_of_conflict {e : Rejection}
    (h : ApiServer.handle c.server (creationOf name labels) = (.error e, c.server))
    (hcode : e.code = 409) : ∃ c₁ : Connection σ, c₁.server = c.server ∧
      c.ensureNamespace name labels = c₁.submit (labelsOf (namespaceTarget name) labels) := by
  refine ⟨⟨c.server, c.requests ++ [creationOf name labels]⟩, rfl, ?_⟩
  rw [ensureNamespace_of_error h]
  exact if_pos hcode

/-- A namespace that was created has its labels, and gets them again. -/
theorem ensureNamespace_of_created {s : σ} (hname : name ≠ "")
    (hadmitted : refusal? s (labelsOf (namespaceTarget name) labels) = none)
    (hnone : held? s (namespaceTarget name) = none)
    (hcreated : refusal? s (creationOf name labels) = none)
    (hserver : c.server = added s (namespaceBody name labels)) :
    ∃ c', c.ensureNamespace name labels = (.ok (), c') ∧ c'.server = c.server := by
  have hheld : held? c.server (namespaceTarget name) = some (namespaceBody name labels) := by
    rw [hserver]
    exact held_added hnone (isAt_namespaceBody name labels)
  have hcreated' : refusal? c.server (creationOf name labels) = none := by
    rw [hserver, refusal_added]
    exact hcreated
  have hadmitted' : refusal? c.server (labelsOf (namespaceTarget name) labels) = none := by
    rw [hserver, refusal_added]
    exact hadmitted
  obtain ⟨e, hcode, he⟩ : ∃ e : Rejection, e.code = 409 ∧
      ApiServer.handle c.server (creationOf name labels) = (.error e, c.server) :=
    handle_post_present hcreated' hheld
  obtain ⟨c₁, hc₁, heq⟩ := ensureNamespace_of_conflict he hcode
  rw [← hc₁] at hadmitted' hheld
  obtain ⟨c₂, hsubmit, hc₂⟩ := submit_patch_self (fun h => hname (Option.some.inj h)) hadmitted'
    hheld (mergePatch_namespaceBody name labels)
  exact ⟨c₂, heq.trans hsubmit, hc₂.trans hc₁⟩

/-- **A namespace that was had can be had again.** It was created with the labels, or they were
merged into the one that was there. -/
theorem ensureNamespace_again
    (hnew : held? c.server (namespaceTarget name) = none → name ≠ "" ∧
      (refusal? c.server (creationOf name labels) = none →
        refusal? c.server (labelsOf (namespaceTarget name) labels) = none))
    (h : c.ensureNamespace name labels = (.ok (), c')) :
    (∃ c'', c'.ensureNamespace name labels = (.ok (), c'') ∧ c''.server = c'.server) ∧
    ((held? c.server (namespaceTarget name) = none ∧
        c'.server = added c.server (namespaceBody name labels)) ∨
      ∃ o new, held? c.server (namespaceTarget name) = some o ∧
        c'.server = replaced c.server (namespaceTarget name) new ∧
        held? c'.server (namespaceTarget name) = some new ∧ o.Labelled labels new) := by
  -- where creating is refused, the labels were merged in
  have hmerged {e : Rejection} (he : ApiServer.handle c.server (creationOf name labels) =
      (.error e, c.server)) :
      (∃ c'', c'.ensureNamespace name labels = (.ok (), c'') ∧ c''.server = c'.server) ∧
      ∃ o new, held? c.server (namespaceTarget name) = some o ∧
        c'.server = replaced c.server (namespaceTarget name) new ∧
        held? c'.server (namespaceTarget name) = some new ∧ o.Labelled labels new := by
    rw [ensureNamespace_of_error he] at h
    dsimp only at h
    split_ifs at h with hcode
    · obtain ⟨o, new, hheld, hserver, hleft, hlabelled, hagain⟩ := submit_labels h
      have hrefusal : refusal? c'.server (creationOf name labels) =
          refusal? c.server (creationOf name labels) := by
        rw [hserver, refusal_replaced]
      obtain ⟨e', he', hcode'⟩ := handle_creation_again hrefusal hleft he hcode
      obtain ⟨c₁, hc₁, heq⟩ := ensureNamespace_of_conflict he' hcode'
      refine ⟨?_, o, new, hheld, hserver, hleft, hlabelled⟩
      rw [heq]
      exact hagain c₁ hc₁
    · cases h
  rcases creation_cases c.server name labels with ⟨e, _, he⟩ | ⟨_, e, _, _, he⟩ |
    ⟨hcreated, hnone, hok⟩
  · exact (hmerged he).imp_right .inr
  · exact (hmerged he).imp_right .inr
  · rw [ensureNamespace_of_ok hok] at h
    cases h
    obtain ⟨hname, hadmitted⟩ := hnew hnone
    exact ⟨ensureNamespace_of_created hname (hadmitted hcreated) hnone hcreated rfl,
      .inl ⟨hnone, rfl⟩⟩

end Connection

/-! ### Nodes -/

namespace Connection

variable {c c' : Connection σ} {node : String} {taint : Taint}

/-- A node is read, and written where it does not carry the taint. -/
theorem taintNode_cases (h : c.taintNode node taint = (.ok (), c')) :
    ∃ o read c₁, c.send (readOf node) = (.ok o, c₁) ∧ NodeObject.decode .direct o = .ok read ∧
      ((Carries o.taints taint ∧ c' = c₁) ∨ (¬ Carries o.taints taint ∧
        c₁.submit (patchOf node none (read.taints ++ [.ofTaint taint])) = (.ok (), c'))) := by
  unfold taintNode at h
  dsimp only at h
  split at h
  · cases h
  · next o c₁ hsend =>
    split at h
    · cases h
    · next read hdecode =>
      refine ⟨o, read, c₁, hsend, hdecode, ?_⟩
      rw [← NodeObject.taints_of_decode hdecode]
      rcases withTaint_cases read.taints taint with ⟨hcarries, heq⟩ | ⟨hcarries, heq⟩
      · rw [heq] at h
        cases h
        exact .inl ⟨hcarries, rfl⟩
      · rw [heq] at h
        exact .inr ⟨hcarries, h⟩

/-- A node that carries the taint is left as it is. -/
theorem taintNode_of_carries {o : Json} {read : NodeObject} {c₁ : Connection σ}
    (hsend : c.send (readOf node) = (.ok o, c₁)) (hdecode : NodeObject.decode .direct o = .ok read)
    (hcarries : Carries o.taints taint) : c.taintNode node taint = (.ok (), c₁) := by
  have hread : withTaint read.taints taint = none := by
    rw [← NodeObject.taints_of_decode hdecode] at hcarries
    rcases withTaint_cases read.taints taint with ⟨_, heq⟩ | ⟨hn, _⟩
    · exact heq
    · exact absurd hcarries hn
  have hsend' : c.send { method := .get, target := { model := .node, name := some node } } =
      (.ok o, c₁) := hsend
  unfold taintNode
  dsimp only
  rw [hsend']
  dsimp only
  rw [hdecode]
  dsimp only
  rw [hread]

/-- A node that is read is held, and reading changes nothing. -/
theorem send_readOf_ok {o : Json} {c₁ : Connection σ} (h : c.send (readOf node) = (.ok o, c₁)) :
    node ≠ "" ∧ refusal? c.server (readOf node) = none ∧
      held? c.server (nodeTarget node) = some o ∧ c₁.server = c.server := by
  obtain ⟨hname, hhandle⟩ := send_ok h
  rcases get_cases c.server (t := nodeTarget node) rfl with ⟨e, he⟩ | ⟨o, hadmitted, hheld, ho⟩
  · cases he.symm.trans hhandle
  · cases congrArg Prod.fst (ho.symm.trans hhandle)
    have hserver := congrArg Prod.snd (hhandle.symm.trans ho)
    exact ⟨fun he => hname (congrArg some he), hadmitted, hheld, hserver⟩

/-- A node that holds the taint is found to hold it. -/
theorem taintNode_of_held {o : Json} {read : NodeObject} (hname : node ≠ "")
    (hadmitted : refusal? c.server (readOf node) = none)
    (hheld : held? c.server (nodeTarget node) = some o)
    (hdecode : NodeObject.decode .direct o = .ok read) (hcarries : Carries o.taints taint) :
    ∃ c', c.taintNode node taint = (.ok (), c') ∧ c'.server = c.server := by
  have hhandle : ApiServer.handle c.server (readOf node) = (.ok o, c.server) :=
    handle_get (t := nodeTarget node) rfl hadmitted hheld
  obtain ⟨c', hsend, hserver⟩ := send_of_handle (fun h => hname (Option.some.inj h)) hhandle
  exact ⟨c', taintNode_of_carries hsend hdecode hcarries, hserver⟩

/-- **A taint that was put on a node is found there.** -/
theorem taintNode_again (h : c.taintNode node taint = (.ok (), c')) :
    (∃ c'', c'.taintNode node taint = (.ok (), c'') ∧ c''.server = c'.server) ∧
    ∃ o new, held? c.server (nodeTarget node) = some o ∧
      c'.server = replaced c.server (nodeTarget node) new ∧
      held? c'.server (nodeTarget node) = some new ∧ o.Tainted taint new := by
  obtain ⟨o, read, c₁, hsend, hdecode, hcases⟩ := taintNode_cases h
  obtain ⟨hname, hadmitted, hheld, hserver⟩ := send_readOf_ok hsend
  rcases hcases with ⟨hcarries, rfl⟩ | ⟨hcarries, hsubmit⟩
  · rw [← hserver] at hadmitted hheld ⊢
    exact ⟨taintNode_of_held hname hadmitted hheld hdecode hcarries, o, o, hheld,
      (replaced_self hheld).symm, hheld, NodeObject.tainted_self hdecode hcarries⟩
  · have htainted := NodeObject.tainted_mergePatch hdecode hcarries
    obtain ⟨o', hheld', hserver', hleft, -⟩ :=
      submit_patch (fun o => Json.isAt_taintsPatch o _ _) (Json.repeatable_taintsPatch _) hsubmit
    rw [hserver] at hheld' hserver'
    obtain rfl : o = o' := Option.some.inj (hheld.symm.trans hheld')
    have hadmitted' : refusal? c'.server (readOf node) = none := by
      rw [hserver', refusal_replaced]
      exact hadmitted
    obtain ⟨written, hdecode', hcarries'⟩ := htainted.exists_decode
    exact ⟨taintNode_of_held hname hadmitted' hleft hdecode' hcarries', o, _, hheld, hserver',
      hleft, htainted⟩

end Connection

/-! ### Operations -/

namespace Operation

/-- The place of the object that an operation prepares. -/
def place? : Operation → Option Target
  | ensureNamespace name _ => some (namespaceTarget name)
  | labelNode node _ | taintNode node _ => some (nodeTarget node)
  | create _ | waitForVendor _ => none

/-- What an operation makes of the object that it prepares. -/
def Prepares : Operation → Json → Json → Prop
  | ensureNamespace _ labels, o, new | labelNode _ labels, o, new => o.Labelled labels new
  | taintNode _ taint, o, new => o.Tainted taint new
  | create _, _, _ | waitForVendor _, _, _ => False

/-- What an operation that succeeded has made of the server. -/
inductive Prepared (op : Operation) (t : Target) (s s' : σ) : Prop
  /-- The namespace was put where none was. -/
  | created (name : String) (labels : Dict String) (op_eq : op = .ensureNamespace name labels)
      (absent : held? s t = none) (server : s' = added s (namespaceBody name labels))
  /-- The object in its place is prepared. -/
  | changed (o new : Json) (found : held? s t = some o) (server : s' = replaced s t new)
      (left : held? s' t = some new) (prepares : op.Prepares o new)

theorem Prepares.isAt {op : Operation} {o new : Json} (h : op.Prepares o new) (u : Target) :
    Server.isAt u new = Server.isAt u o := by
  cases op with
  | ensureNamespace name labels => exact Json.Labelled.isAt h u
  | labelNode node labels => exact Json.Labelled.isAt h u
  | taintNode node taint => exact Json.Tainted.isAt h u
  | create payload => cases h
  | waitForVendor kind => cases h

/-- No other object changes. -/
theorem Prepared.sameElsewhere {op : Operation} {t : Target} {s s' : σ} (ht : op.place? = some t)
    (h : op.Prepared t s s') : SameElsewhere t s s' := by
  intro u hu
  cases h with
  | created name labels hop absent server =>
    subst hop
    cases ht
    subst server
    exact held_added_of_not (hu _ (held_added absent (isAt_namespaceBody name labels)))
  | changed o new found server left prepares =>
    have hnew : Server.isAt u new = false := hu new left
    have ho : Server.isAt u o = false := (prepares.isAt u).symm.trans hnew
    rw [server]
    exact held_replaced_of_not found ho hnew

/-- **Preparation can be repeated.** On every server that holds objects an operation that succeeded
succeeds again and leaves the server as it is, and it has prepared the object in its place and no
other. Where a namespace is new, labels must be able to reach it: it has a name, and a server that
lets it be created does not refuse the patch. -/
theorem perform_again (op : Operation) (r : Registry) {t : Target} {c c' : Connection σ}
    (ht : op.place? = some t)
    (hnew : ∀ name labels, op = .ensureNamespace name labels → held? c.server t = none →
      name ≠ "" ∧ (refusal? c.server (creationOf name labels) = none →
        refusal? c.server (labelsOf t labels) = none))
    (h : (op.perform client r c).2 = (.ok (), c')) :
    (∃ c'', (op.perform client r c').2 = (.ok (), c'') ∧ c''.server = c'.server) ∧
      op.Prepared t c.server c'.server ∧ SameElsewhere t c.server c'.server := by
  suffices hprepared : (∃ c'', (op.perform client r c').2 = (.ok (), c'') ∧
      c''.server = c'.server) ∧ op.Prepared t c.server c'.server from
    ⟨hprepared.1, hprepared.2, hprepared.2.sameElsewhere ht⟩
  cases op with
  | ensureNamespace name labels =>
    cases ht
    obtain ⟨hagain, ⟨hnone, hserver⟩ | ⟨o, new, hheld, hserver, hleft, hlabelled⟩⟩ :=
      Connection.ensureNamespace_again (hnew name labels rfl) h
    · exact ⟨hagain, .created name labels rfl hnone hserver⟩
    · exact ⟨hagain, .changed o new hheld hserver hleft hlabelled⟩
  | labelNode node labels =>
    cases ht
    obtain ⟨o, new, hheld, hserver, hleft, hlabelled, hagain⟩ := Connection.submit_labels h
    exact ⟨hagain c' rfl, .changed o new hheld hserver hleft hlabelled⟩
  | taintNode node taint =>
    cases ht
    obtain ⟨hagain, o, new, hheld, hserver, hleft, htainted⟩ := Connection.taintNode_again h
    exact ⟨hagain, .changed o new hheld hserver hleft htainted⟩
  | create payload => cases ht
  | waitForVendor kind => cases ht

end Operation

/-- A server with one node, which got a taint at a time of another place. -/
def Server.taintedNode : Server where
  objects := [.obj [
    ("apiVersion", .str "v1"),
    ("kind", .str "Node"),
    ("metadata", .obj [("labels", .obj [("zone", .str "a")]), ("name", .str "n1")]),
    ("spec", .obj [("taints", .arr [.obj [
      ("effect", .str "NoSchedule"),
      ("key", .str "dedicated"),
      ("timeAdded", .str "2024-03-01T00:30:00+01:00")]])])]]

namespace Operation

/-- A namespace is created and a node gets a taint behind the one it has, each of them twice. -/
theorem perform_again_taintedNode :
    let namespaces : Operation := .ensureNamespace "openshift-storage" ∅
    let taints : Operation := .taintNode "n1" .storage
    let c : Connection := { server := .taintedNode }
    (∃ c' c'', namespaces.place? = some (namespaceTarget "openshift-storage") ∧
      held? c.server (namespaceTarget "openshift-storage") = none ∧
      refusal? c.server (labelsOf (namespaceTarget "openshift-storage") ∅) = none ∧
      (namespaces.perform client .builtins c).2 = (.ok (), c') ∧
      (namespaces.perform client .builtins c').2 = (.ok (), c'') ∧ c''.server = c'.server ∧
      namespaces.Prepared (namespaceTarget "openshift-storage") c.server c'.server ∧
      SameElsewhere (namespaceTarget "openshift-storage") c.server c'.server) ∧
    ∃ c' c'', taints.place? = some (nodeTarget "n1") ∧
      (taints.perform client .builtins c).2 = (.ok (), c') ∧
      (taints.perform client .builtins c').2 = (.ok (), c'') ∧ c''.server = c'.server ∧
      taints.Prepared (nodeTarget "n1") c.server c'.server ∧
      SameElsewhere (nodeTarget "n1") c.server c'.server := by
  intro namespaces taints c
  constructor
  · have hnew : ∀ name labels, namespaces = .ensureNamespace name labels →
        held? c.server (namespaceTarget "openshift-storage") = none → name ≠ "" ∧
        (refusal? c.server (creationOf name labels) = none →
          refusal? c.server (labelsOf (namespaceTarget "openshift-storage") labels) = none) := by
      intro name labels he _
      have hname : "openshift-storage" = name := (Operation.ensureNamespace.inj he).1
      exact ⟨hname ▸ by decide, fun _ => rfl⟩
    obtain ⟨⟨c'', h, hserver⟩, hprepared, helsewhere⟩ :=
      perform_again namespaces .builtins rfl hnew (c := c) rfl
    exact ⟨_, c'', rfl, rfl, rfl, rfl, h, hserver, hprepared, helsewhere⟩
  · obtain ⟨⟨c'', h, hserver⟩, hprepared, helsewhere⟩ := perform_again taints .builtins rfl
      (fun name labels he => nomatch he) (c := c) rfl
    exact ⟨_, c'', rfl, rfl, h, hserver, hprepared, helsewhere⟩

/-- A namespace of the empty name is not had again. -/
theorem not_perform_again : ¬ ∀ (op : Operation) (r : Registry) (t : Target) (c c' : Connection),
    op.place? = some t → c.server.failures = [] → (op.perform client r c).2 = (.ok (), c') →
    ∃ c'', (op.perform client r c').2 = (.ok (), c'') ∧ c''.server = c'.server := by
  intro hall
  obtain ⟨c'', h, -⟩ := hall (.ensureNamespace "" ∅) .builtins _ { server := {} } _ rfl rfl rfl
  cases congrArg Prod.fst h

end Operation

end StorageSetup
