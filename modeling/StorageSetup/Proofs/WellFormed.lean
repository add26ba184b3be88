import Mathlib.Data.List.Nodup
import StorageSetup.Cluster.Client
import StorageSetup.Proofs.KeyResources
/-!
# Well-formed plans

A plan is run operation by operation and nothing is taken back, so a clash between two of its
resources, or a body that does not belong where it is sent, would show only half way. There is none:
the resources of a plan are a part of one list of labels without repetition, and every builder
writes version, kind and namespace as the resource is addressed.

Key definitions: `Payload.target`, `Payload.WellFormed`, `Plan.WellFormed`, `allLabels`.
Key theorems: `Payload.wellFormed_ofMembers`, `nodup_allLabels`, `PlanParts.labels_sublist`,
`planSubmission_wellFormed`.
-/

namespace StorageSetup

/-! ### Bodies -/

namespace Payload

/-- Where a resource is created. -/
def target (p : Payload) : Target where
  model := p.model
  namespaceName := if p.model.namespaced then p.namespaceName else none

/-- The body of a resource names the place in which the resource is created. -/
structure WellFormed (p : Payload) : Prop where
  apiVersion : p.body.member? "apiVersion" = some (.str p.model.apiVersion)
  kind : p.body.member? "kind" = some (.str p.model.kind)
  place : ∃ ns, p.namespaceName = some ns ∧ p.text? ["metadata", "namespace"] = some ns
  namespaced : p.model.namespaced = true

/-- The path that a body names by its version and its namespace. -/
def namedPath? (p : Payload) : Option String := do
  let version ← p.text? ["apiVersion"]
  let ns ← p.text? ["metadata", "namespace"]
  some ((if p.model.group.isEmpty then "/api/" else "/apis/") ++ version ++ "/namespaces/" ++ ns ++
    "/" ++ p.model.plural)

theorem WellFormed.target_eq {p : Payload} (h : p.WellFormed) :
    p.target = { model := p.model, namespaceName := p.namespaceName } := by
  unfold target
  rw [h.namespaced]
  rfl

/-- **A resource is created at the path that its body names.** -/
theorem WellFormed.path {p : Payload} (h : p.WellFormed) : p.namedPath? = some p.target.path := by
  obtain ⟨ns, hplace, htext⟩ := h.place
  have hversion : p.text? ["apiVersion"] = some p.model.apiVersion := by
    unfold text? Json.at?
    rw [h.apiVersion]
    rfl
  have hslash : "/namespaces/" = "/" ++ "namespaces/" := rfl
  unfold namedPath?
  rw [hversion, htext, h.target_eq, hplace, hslash]
  refine congrArg some ?_
  unfold Target.path ResourceModel.root ResourceModel.apiVersion
  split_ifs <;> simp only [String.append_assoc, String.append_empty]

/-- There it is found under its name. -/
theorem WellFormed.isAt {p : Payload} (h : p.WellFormed) :
    Server.isAt { p.target with name := some p.name } p.body = true := by
  obtain ⟨ns, hplace, htext⟩ := h.place
  have hbody : (p.body.at? ["metadata", "namespace"]).bind Json.string? = some ns := htext
  unfold Server.isAt
  rw [h.target_eq, h.kind, hplace]
  simp [hbody, Json.string?, Server.nameOf, Payload.name]

/-- The client sends a resource there. -/
theorem create_eq (p : Payload) (c : Connection) {body : Json}
    (h : manifest .direct p.body = .ok body) :
    c.create p = c.submit { method := .post, target := p.target, body := some body } := by
  unfold Connection.create
  rw [h]
  rfl

/-- **A resource with its namespace in the metadata is well formed**: version and kind are always
those of its model. -/
theorem wellFormed_ofMembers {model : ResourceModel} (name : String) {ns : String}
    (annotations : List (String × Json)) {members : List (String × Json)}
    (hn : model.namespaced = true)
    (hm : lookupEntry "metadata" (sortEntries members) = some (metadata name ns annotations)) :
    (ofMembers model (some ns) members).WellFormed where
  apiVersion := by
    change lookupEntry "apiVersion" (withKind model members) = _
    unfold withKind
    rw [lookupEntry_insertEntry, if_neg (by decide), lookupEntry_insertEntry, if_pos rfl]
    rfl
  kind := by
    change lookupEntry "kind" (withKind model members) = _
    unfold withKind
    rw [lookupEntry_insertEntry, if_pos rfl]
    rfl
  place := by
    have hns : (metadata name ns annotations).at? ["namespace"] = some (.str ns) := by
      unfold metadata
      split_ifs <;> rfl
    refine ⟨ns, rfl, ?_⟩
    unfold text?
    rw [at?_ofMembers _ _ _ _ (by decide) (by decide), hm, Option.bind_some, hns]
    rfl
  namespaced := hn

end Payload

section Builders

variable (name ns : String) (data : Dict String)

theorem wellFormed_stringSecret : (stringSecret name ns data).WellFormed :=
  Payload.wellFormed_ofMembers name [] rfl (by simp [sortEntries, lookupEntry_insertEntry])

theorem wellFormed_dataSecret : (dataSecret name ns data).WellFormed :=
  Payload.wellFormed_ofMembers name [] rfl (by simp [sortEntries, lookupEntry_insertEntry])

theorem wellFormed_configMap : (configMap name ns data).WellFormed :=
  Payload.wellFormed_ofMembers name [] rfl (by simp [sortEntries, lookupEntry_insertEntry])

/-- A resource of metadata and a specification is well formed. -/
theorem wellFormed_spec {model : ResourceModel} (hn : model.namespaced = true)
    (annotations : List (String × Json)) (spec : Json) :
    (Payload.ofMembers model (some ns)
      [("metadata", metadata name ns annotations), ("spec", spec)]).WellFormed :=
  Payload.wellFormed_ofMembers name annotations hn (by simp [sortEntries, lookupEntry_insertEntry])

end Builders

theorem LocalVolumeForm.wellFormed_of_ok {f : LocalVolumeForm} {ns : String} {p : Payload}
    (h : f.payload? ns = .ok p) : p.WellFormed := by
  unfold payload? at h
  dsimp only at h
  split_ifs at h
  cases h
  exact wellFormed_spec _ _ rfl _ _

theorem Kms.wellFormed_of_mem {k : Kms} {ns : String} {p : Payload} (h : p ∈ k.payloads ns) :
    p.WellFormed := by
  rcases k.cases_of_mem ns h with ⟨details, _, rfl⟩ | ⟨name, _, data, rfl⟩
  · exact wellFormed_configMap _ _ _
  · exact wellFormed_stringSecret _ _ _

theorem Postgres.wellFormed_of_mem {p : Postgres} {ns : String} {ps : List Payload}
    (h : p.payloads ns = .ok ps) : ∀ q ∈ ps, q.WellFormed := by
  intro q hq
  obtain ⟨address, rfl | ⟨keys, rfl⟩⟩ := Postgres.cases_of_ok h
  · rw [List.mem_singleton.mp hq]
    exact wellFormed_stringSecret _ _ _
  · rw [List.mem_cons, List.mem_singleton] at hq
    rcases hq with rfl | rfl
    · exact wellFormed_stringSecret _ _ _
    · exact wellFormed_dataSecret _ _ _

namespace PlanParts

variable {s : State} {c : Context} {r : Registry} {config : Config}
  (parts : PlanParts s c r config)

/-- **Every resource of a plan is well formed.** -/
theorem wellFormed_payloads (hr : r.BuiltIn) : ∀ p ∈ parts.plan.payloads, p.WellFormed := by
  intro p hp
  rcases parts.mem_operations.mp (mem_payloads.mp hp) with hp | rfl | hp | hp
  · rcases parts.mem_resources hp with h | ⟨database, hdatabase, h⟩ | ⟨_, h⟩
    · unfold kmsResources at h
      split_ifs at h
      · exact Kms.wellFormed_of_mem h
      · cases h
    · unfold databaseResources at hdatabase
      split_ifs at hdatabase
      · exact Postgres.wellFormed_of_mem (ok_of_orPayloadError hdatabase) p h
      · cases hdatabase
        cases h
    · exact LocalVolumeForm.wellFormed_of_ok h
  · exact wellFormed_spec _ _ rfl _ _
  · obtain ⟨cluster, _, rfl⟩ := parts.eq_payload_of_mem_cluster hp
    exact wellFormed_spec _ _ rfl _ _
  · rcases parts.payloads_ops_cases hr with ⟨_, ho⟩ | ⟨_, data, ho⟩ | ⟨_, ho⟩
    · rw [ho] at hp
      cases hp
    · rw [ho, List.mem_cons, List.mem_singleton] at hp
      rcases hp with rfl | rfl
      · exact wellFormed_dataSecret _ _ _
      · exact wellFormed_spec _ _ rfl _ _
    · rw [ho, List.mem_cons, List.mem_singleton] at hp
      rcases hp with rfl | rfl
      · exact wellFormed_stringSecret _ _ _
      · exact wellFormed_spec _ _ rfl _ _

end PlanParts

/-! ### Labels -/

/-- Kind and name of a resource. -/
def Payload.label (p : Payload) : String × String :=
  (p.model.kind, p.name)

/-- The label of a secret. -/
def secretLabel (name : String) : String × String :=
  (ResourceModel.secret.kind, name)

/-- The labels that resources of the key management can have. -/
def kmsLabels : List (String × String) :=
  (ResourceModel.configMap.kind, kmsConnectionDetails) ::
    [kmsTokenSecret, kmsCaSecret, kmipClientSecret].map secretLabel

/-- The labels that secrets of the database can have. -/
def databaseLabels : List (String × String) :=
  [postgresSecret, postgresTlsSecret].map secretLabel

/-- All labels that resources of a plan can have, given the names that are not fixed. The order is
that of the operations, whatever the vendor. -/
def allLabels (volumes system cluster flash : String) : List (String × String) :=
  kmsLabels ++ databaseLabels ++ [(ResourceModel.localVolumeSet.kind, volumes)] ++
    [(ResourceModel.storageSystem.kind, system), secretLabel externalDetailsSecret,
      (ResourceModel.storageCluster.kind, cluster), secretLabel flashSystemSecret,
      (ResourceModel.flashSystemCluster.kind, flash)]

/-- **No label is there twice, whatever the names.** -/
theorem nodup_allLabels (volumes system cluster flash : String) :
    (allLabels volumes system cluster flash).Nodup := by
  unfold allLabels kmsLabels databaseLabels secretLabel
  simp [ResourceModel.secret, ResourceModel.configMap, ResourceModel.localVolumeSet,
    ResourceModel.storageSystem, ResourceModel.storageCluster, ResourceModel.flashSystemCluster,
    kmsTokenSecret, kmsCaSecret, kmipClientSecret, postgresSecret, postgresTlsSecret,
    externalDetailsSecret, flashSystemSecret]

theorem label_stringSecret (name ns : String) (data : Dict String) :
    (stringSecret name ns data).label = secretLabel name :=
  congrArg _ (name_stringSecret name ns data)

theorem label_dataSecret (name ns : String) (data : Dict String) :
    (dataSecret name ns data).label = secretLabel name :=
  congrArg _ (name_dataSecret name ns data)

theorem label_configMap (name ns : String) (data : Dict String) :
    (configMap name ns data).label = (ResourceModel.configMap.kind, name) :=
  congrArg _ (name_configMap name ns data)

theorem Kms.labels_sublist (k : Kms) (ns : String) :
    ((k.payloads ns).map Payload.label).Sublist kmsLabels := by
  unfold payloads Vault.secrets Kmip.secret
  cases k.provider with
  | vault =>
    cases k.vault.auth <;> cases k.vault.caCert <;>
      simp only [List.map_cons, List.map_nil, List.nil_append, List.cons_append, List.append_nil,
        label_configMap, label_stringSecret] <;> decide
  | kmip =>
    simp only [List.map_cons, List.map_nil, label_configMap, label_stringSecret]
    decide

theorem Postgres.labels_sublist {p : Postgres} {ns : String} {ps : List Payload}
    (h : p.payloads ns = .ok ps) : (ps.map Payload.label).Sublist databaseLabels := by
  obtain ⟨address, rfl | ⟨keys, rfl⟩⟩ := Postgres.cases_of_ok h
  · rw [List.map_singleton, label_stringSecret]
    decide
  · rw [List.map_cons, List.map_singleton, label_stringSecret, label_dataSecret]
    decide

namespace PlanParts

variable {s : State} {c : Context} {r : Registry} {config : Config}
  (parts : PlanParts s c r config)

/-- The labels of the resources beside the cluster. -/
theorem labels_resources : ∃ volumes, (parts.resources.map Payload.label).Sublist
    (kmsLabels ++ databaseLabels ++ [(ResourceModel.localVolumeSet.kind, volumes)]) := by
  by_cases hcreates : parts.creates = true
  · obtain ⟨database, volumes, hdatabase, hvolumes, hresources⟩ :=
      parts.resources_of_creates hcreates
    have hkms : ((kmsResources s config).map Payload.label).Sublist kmsLabels := by
      unfold kmsResources
      split_ifs
      · exact Kms.labels_sublist _ _
      · exact List.nil_sublist _
    have hd : (database.map Payload.label).Sublist databaseLabels := by
      unfold databaseResources at hdatabase
      split_ifs at hdatabase
      · exact Postgres.labels_sublist (ok_of_orPayloadError hdatabase)
      · cases hdatabase
        exact List.nil_sublist _
    have hv : ∃ name, (volumes.map Payload.label).Sublist
        [(ResourceModel.localVolumeSet.kind, name)] := by
      unfold volumeResources at hvolumes
      split_ifs at hvolumes
      · obtain ⟨p, hp, rfl⟩ := singleton_of_ok hvolumes
        refine ⟨p.name, ?_⟩
        rw [List.map_singleton, Payload.label, LocalVolumeForm.model_of_ok hp]
      · cases hvolumes
        exact ⟨"", List.nil_sublist _⟩
    obtain ⟨name, hv⟩ := hv
    refine ⟨name, ?_⟩
    rw [hresources, List.map_append, List.map_append]
    exact (hkms.append hd).append hv
  · rw [(parts.nothing_of_not_creates (Bool.not_eq_true _ ▸ hcreates)).1]
    exact ⟨"", List.nil_sublist _⟩

/-- The labels behind the storage system. -/
theorem labels_behind_system (hr : r.BuiltIn) : ∃ cluster flash,
    ((parts.cluster ++ (Plan.mk parts.ops).payloads).map Payload.label).Sublist
      [secretLabel externalDetailsSecret, (ResourceModel.storageCluster.kind, cluster),
        secretLabel flashSystemSecret, (ResourceModel.flashSystemCluster.kind, flash)] := by
  have hcluster : ∃ name, (parts.cluster.map Payload.label).Sublist
      [(ResourceModel.storageCluster.kind, name)] := by
    by_cases hcreates : parts.creates = true
    · obtain ⟨p, hp, hl⟩ := parts.cluster_of_creates hcreates
      obtain ⟨cluster, _, rfl⟩ := storageCluster_of_payload hp
      rw [hl]
      exact ⟨cluster.payload.name, List.Sublist.refl _⟩
    · rw [(parts.nothing_of_not_creates (Bool.not_eq_true _ ▸ hcreates)).2]
      exact ⟨"", List.nil_sublist _⟩
  rcases parts.payloads_ops_cases hr with ⟨_, ho⟩ | ⟨hv, data, ho⟩ | ⟨_, ho⟩
  · obtain ⟨name, hcluster⟩ := hcluster
    rw [ho, List.map_append]
    exact ⟨name, "", (hcluster.append (List.nil_sublist _)).cons _⟩
  · -- the default vendor has the only storage cluster
    have hcreates : parts.creates = false := by
      unfold creates
      rw [hv]
      rfl
    rw [ho, (parts.nothing_of_not_creates hcreates).2, List.nil_append, List.map_cons,
      label_dataSecret, List.map_singleton]
    exact ⟨_, "", ((List.nil_sublist _).cons_cons _).cons_cons _⟩
  · obtain ⟨name, hcluster⟩ := hcluster
    rw [ho, List.map_append, List.map_cons, List.map_singleton, FlashSystem.credentials,
      label_stringSecret]
    exact ⟨name, _, (hcluster.cons _).append (List.Sublist.refl _)⟩

/-- **The labels of a plan are a part of one list without repetition.** -/
theorem labels_sublist (hr : r.BuiltIn) : ∃ volumes system cluster flash,
    (parts.plan.payloads.map Payload.label).Sublist (allLabels volumes system cluster flash) := by
  obtain ⟨volumes, hresources⟩ := parts.labels_resources
  obtain ⟨cluster, flash, hrest⟩ := parts.labels_behind_system hr
  refine ⟨volumes, parts.system.name, cluster, flash, ?_⟩
  rw [parts.payloads_eq, List.append_assoc, List.cons_append, List.map_append, List.map_cons]
  exact hresources.append (hrest.cons_cons _)

theorem nodup_labels (hr : r.BuiltIn) : (parts.plan.payloads.map Payload.label).Nodup := by
  obtain ⟨_, _, _, _, h⟩ := parts.labels_sublist hr
  exact h.nodup (nodup_allLabels _ _ _ _)

/-! ### The namespace -/

/-- The operations behind the first one: none of them makes a namespace. -/
theorem ensureNamespace_not_mem (name : String) (labels : Dict String) :
    .ensureNamespace name labels ∉ parts.plan.operations.tail := by
  have hcreate (l : List Payload) : .ensureNamespace name labels ∉ l.map Operation.create := by
    intro h
    obtain ⟨p, _, hp⟩ := List.mem_map.mp h
    cases hp
  have hnodes : .ensureNamespace name labels ∉ nodeOperations s := by
    intro h
    have hnode : Operation.onNode (.ensureNamespace name labels) = true := by
      have hall := List.filter_eq_self.mp (filter_onNode_nodeOperations s)
      exact hall _ h
    cases hnode
  have hops : .ensureNamespace name labels ∉ parts.ops := by
    rcases parts.internal_or_vendor with ⟨hv, _⟩ | ⟨v, hv, _⟩
    · rw [parts.ops_of_internal hv]
      exact List.not_mem_nil
    · obtain ⟨ps, _, ho⟩ := parts.ops_of_vendor hv
      rw [ho, List.mem_append, not_or]
      refine ⟨?_, hcreate ps⟩
      split_ifs <;> simp
  rw [parts.operations_eq, front, List.cons_append, List.cons_append, List.tail_cons,
    List.mem_append, List.mem_append, not_or, not_or]
  refine ⟨⟨?_, hcreate _⟩, hops⟩
  split_ifs
  · exact hnodes
  · exact List.not_mem_nil

end PlanParts

/-! ### Plans -/

/-- A plan makes its namespace first and once, names no resource twice, and every body belongs where
it is sent. -/
structure Plan.WellFormed (plan : Plan) (namespaceName : String) : Prop where
  first : plan.operations.head? = some (.ensureNamespace namespaceName monitoringLabels)
  once : ∀ name labels, .ensureNamespace name labels ∉ plan.operations.tail
  distinct : (plan.payloads.map fun p => (p.model.kind, p.namespaceName, p.name)).Nodup
  bodies : ∀ p ∈ plan.payloads, p.WellFormed

variable {s : State} {c : Context} {r : Registry} {config : Config}

/-- **Every plan is well formed**, and its resources are created at the paths that their bodies
name, under their names. -/
theorem planSubmission_wellFormed (hr : r.BuiltIn) {plan : Plan}
    (h : planSubmission s c r config = .ok plan) :
    plan.WellFormed config.namespaceName ∧
    ∀ p ∈ plan.payloads, p.namedPath? = some p.target.path ∧
      Server.isAt { p.target with name := some p.name } p.body = true ∧
      ∀ (connection : Connection) (body : Json), manifest .direct p.body = .ok body →
        connection.create p =
          connection.submit { method := .post, target := p.target, body := some body } := by
  obtain ⟨parts, rfl⟩ := exists_planParts h
  have hbodies := parts.wellFormed_payloads hr
  refine ⟨⟨?_, parts.ensureNamespace_not_mem, ?_, hbodies⟩, fun p hp => ⟨(hbodies p hp).path,
    (hbodies p hp).isAt, fun connection _ => p.create_eq connection⟩⟩
  · rw [parts.operations_eq]
    rfl
  · -- kind and name alone tell the resources apart
    refine List.Nodup.of_map (fun t => (t.1, t.2.2)) ?_
    rw [List.map_map]
    exact parts.nodup_labels hr

theorem planSubmission_wellFormed_onFlashSystem : ∃ plan, Registry.builtins.BuiltIn ∧
    planSubmission (.onFlashSystem .full "gold") {} .builtins {} = .ok plan ∧
    plan.payloads.length = 9 ∧ plan.WellFormed "openshift-storage" := by
  obtain ⟨plan, h, hlength⟩ : ∃ plan,
      planSubmission (.onFlashSystem .full "gold") {} .builtins {} = .ok plan ∧
      plan.payloads.length = 9 := ⟨_, rfl, rfl⟩
  exact ⟨plan, Registry.builtIn_builtins, h, hlength,
    (planSubmission_wellFormed Registry.builtIn_builtins h).1⟩

end StorageSetup
