import StorageSetup.Proofs.Codec
import StorageSetup.Proofs.PlanSteps
import StorageSetup.Proofs.VolumeClass
/-!
# References inside a plan

Resources name other resources: clusters and the connection to a key management name secrets, the
storage system names the resource it stands for, and two clusters name the class between them. Which
names are written and which resources are created is decided apart; every name that is written is
created by the same plan, in the same namespace, and where a cluster reads it at once, before it.

Key definitions: `Payload.namedSecrets`, `Payload.IsSecret`, `Plan.Closed`.
Key theorems: `secrets_of_kms`, `StorageCluster.namedSecrets_payload`,
`PlanParts.secrets_before`, `planSubmission_closed`.
-/

namespace StorageSetup

/-! ### Names in bodies -/

namespace Payload

/-- The text in a place of the body. -/
def text? (p : Payload) (path : List String) : Option String :=
  (p.body.at? path).bind Json.string?

/-- The places in which resources of a kind name secrets. -/
def secretPlaces (m : ResourceModel) : List (List String) :=
  if m = .storageCluster then
    [["spec", "multiCloudGateway", "externalPgConfig", "pgSecretName"],
      ["spec", "multiCloudGateway", "externalPgConfig", "tlsSecretName"]]
  else if m = .flashSystemCluster then [["spec", "secret", "name"]]
  else if m = .configMap then [["data", "KMIP_SECRET_NAME"], ["data", "VAULT_CACERT"]]
  else []

/-- The secrets that a resource names. -/
def namedSecrets (p : Payload) : List String :=
  (secretPlaces p.model).filterMap p.text?

/-- The secret of a name in a namespace. -/
def IsSecret (q : Payload) (name : String) (place : Option String) : Prop :=
  q.model = .secret ∧ q.name = name ∧ q.namespaceName = place

/-- Secrets name no other secrets. -/
theorem namedSecrets_of_secret {p : Payload} (h : p.model = .secret) : p.namedSecrets = [] := by
  unfold namedSecrets
  rw [h]
  rfl

/-- Volume sets and storage systems name no secrets. -/
theorem namedSecrets_of_other {p : Payload} (h : p.model = .localVolumeSet ∨
    p.model = .storageSystem) : p.namedSecrets = [] := by
  unfold namedSecrets
  rcases h with h | h <;> rw [h] <;> rfl

end Payload

/-- The names that resources of a plan refer to are created by the plan. -/
structure Plan.Closed (plan : Plan) : Prop where
  /-- Every secret that a resource names is created in its namespace. -/
  secrets : ∀ p ∈ plan.payloads, ∀ name ∈ p.namedSecrets,
    ∃ q ∈ plan.payloads, q.IsSecret name p.namespaceName
  /-- The secrets of a cluster are created before it. -/
  order : ∀ before p after, plan.payloads = before ++ p :: after → p.model ≠ .configMap →
    ∀ name ∈ p.namedSecrets, ∃ q ∈ before, q.IsSecret name p.namespaceName
  /-- A FlashSystem looks for its secret in its own namespace. -/
  place : ∀ p ∈ plan.payloads, p.model = .flashSystemCluster →
    p.text? ["spec", "secret", "namespace"] = p.namespaceName
  /-- There is one storage system, and it stands for a cluster of the plan. -/
  system : ∃ before system after, plan.payloads = before ++ system :: after ∧
    system.model = .storageSystem ∧ (∀ p ∈ before ++ after, p.model ≠ .storageSystem) ∧
    ∃ q ∈ plan.payloads, (q.model = .storageCluster ∨ q.model = .flashSystemCluster) ∧
      system.text? ["spec", "name"] = some q.name ∧
      system.text? ["spec", "kind"] = some q.model.systemKind ∧
      system.text? ["spec", "namespace"] = q.namespaceName ∧
      system.namespaceName = q.namespaceName
  /-- A cluster on top of a FlashSystem asks for the class of its default pool, unless the class has
  no name. -/
  className : ∀ flash ∈ plan.payloads, flash.model = .flashSystemCluster →
    ∀ cluster ∈ plan.payloads, cluster.model = .storageCluster → ∃ name,
      flash.text? ["spec", "defaultPool", "storageclassName"] = some name ∧
      cluster.consumedClass? = if name = "" then none else some name

/-! ### Secrets of the key management -/

/-- The entries of a config map are read from its body. -/
theorem text_configMap (name namespaceName : String) (data : Dict String) (key : String) :
    (configMap name namespaceName data).text? ["data", key] = data.get? key := by
  unfold Payload.text? configMap
  rw [Payload.at?_ofMembers _ _ _ _ (by decide) (by decide)]
  have hdata : lookupEntry "data" (sortEntries
      [("data", Json.texts data), ("metadata", metadata name namespaceName)]) =
        some (.texts data) := by
    simp [sortEntries, lookupEntry_insertEntry]
  rw [hdata, Option.bind_some, Json.at?, Json.member?_texts]
  cases data.get? key <;> rfl

/-- A config map names the secrets that its entries for them hold. -/
theorem namedSecrets_configMap (name namespaceName : String) (data : Dict String) :
    (configMap name namespaceName data).namedSecrets =
      (data.get? "KMIP_SECRET_NAME").toList ++ (data.get? "VAULT_CACERT").toList := by
  unfold Payload.namedSecrets
  rw [show (configMap name namespaceName data).model = .configMap from rfl]
  change [["data", "KMIP_SECRET_NAME"], ["data", "VAULT_CACERT"]].filterMap _ = _
  rw [List.filterMap_cons, List.filterMap_cons, text_configMap, text_configMap]
  cases data.get? "KMIP_SECRET_NAME" <;> cases data.get? "VAULT_CACERT" <;> rfl

theorem Dict.get?_ofList {α : Type} (l : List (String × α)) (key : String) :
    (Dict.ofList l).get? key = lookupEntry key (sortEntries l) :=
  rfl

/-- The connection to Vault names the secret with the authority where there is one. -/
theorem Vault.get?_details (v : Vault) : v.details.get? "KMIP_SECRET_NAME" = none ∧
    v.details.get? "VAULT_CACERT" = v.caCert.map fun _ => kmsCaSecret := by
  unfold details
  cases v.auth <;> cases v.caCert <;>
    simp [Dict.get?_insert, Dict.get?_ofList, sortEntries, lookupEntry_insertEntry, lookupEntry]

theorem Kmip.get?_details (k : Kmip) :
    k.details.get? "KMIP_SECRET_NAME" = some kmipClientSecret ∧
    k.details.get? "VAULT_CACERT" = none := by
  unfold details
  simp [Dict.get?_ofList, sortEntries, lookupEntry_insertEntry, lookupEntry]

/-- **The secrets that the connection to the key management names are created with it.** -/
theorem secrets_of_kms (k : Kms) (namespaceName : String) :
    ∀ p ∈ k.payloads namespaceName, ∀ name ∈ p.namedSecrets,
      ∃ q ∈ k.payloads namespaceName, q.IsSecret name p.namespaceName := by
  intro p hp name hname
  have hconnection : p.model ≠ .secret := by
    intro hm
    rw [Payload.namedSecrets_of_secret hm] at hname
    cases hname
  unfold Kms.payloads at hp ⊢
  cases hk : k.provider with
  | vault =>
    rw [hk] at hp
    simp only at hp ⊢
    have hp : p = configMap kmsConnectionDetails namespaceName k.vault.details := by
      rcases List.mem_cons.mp hp with hp | hp
      · exact hp
      · refine absurd ?_ hconnection
        unfold Vault.secrets at hp
        rcases List.mem_append.mp hp with hp | hp
        · split at hp
          · exact List.mem_singleton.mp hp ▸ rfl
          · cases hp
        · split at hp
          · exact List.mem_singleton.mp hp ▸ rfl
          · cases hp
    subst hp
    rw [namedSecrets_configMap, k.vault.get?_details.1, k.vault.get?_details.2] at hname
    cases hca : k.vault.caCert with
    | none =>
      rw [hca] at hname
      cases hname
    | some ca =>
      rw [hca] at hname
      obtain rfl : name = kmsCaSecret := List.mem_singleton.mp hname
      refine ⟨stringSecret kmsCaSecret namespaceName (.ofList [("cert", ca)]), ?_, rfl, by simp, rfl⟩
      unfold Vault.secrets
      rw [hca]
      simp
  | kmip =>
    rw [hk] at hp
    simp only [List.mem_cons, List.not_mem_nil, or_false] at hp ⊢
    rcases hp with rfl | rfl
    · rw [namedSecrets_configMap, k.kmip.get?_details.1, k.kmip.get?_details.2] at hname
      obtain rfl : name = kmipClientSecret := List.mem_singleton.mp hname
      exact ⟨_, .inr rfl, rfl, by simp [Kmip.secret], rfl⟩
    · exact absurd rfl hconnection

/-! ### Secrets of the clusters -/

/-- The connection to an external database of a cluster. -/
def ClusterSpec.database : ClusterSpec → Option GatewayDatabase
  | gateway _ database => database
  | full _ _ _ _ _ _ _ _ _ database => database

/-- A cluster names the secrets of its database. -/
theorem StorageCluster.namedSecrets_payload (c : StorageCluster) : c.payload.namedSecrets =
    match c.spec.database with
    | some d => postgresSecret :: d.tlsSecret.toList
    | none => [] := by
  have htext (path : List String) :
      c.payload.text? ("spec" :: path) = (c.spec.toJson.at? path).bind Json.string? := by
    unfold Payload.text? StorageCluster.payload
    rw [Payload.at?_spec]
  unfold Payload.namedSecrets
  rw [show c.payload.model = .storageCluster from rfl]
  change [["spec", "multiCloudGateway", "externalPgConfig", "pgSecretName"],
      ["spec", "multiCloudGateway", "externalPgConfig", "tlsSecretName"]].filterMap _ = _
  simp only [List.filterMap_cons, List.filterMap_nil, htext]
  cases c.spec with
  | gateway className database =>
    cases className <;> rcases database with _ | ⟨_, _, _ | _⟩ <;> rfl
  | full stretch _ _ onHostPath _ _ _ nfs _ database =>
    cases stretch <;> cases onHostPath <;> cases nfs <;>
      rcases database with _ | ⟨_, _, _ | _⟩ <;> rfl

variable {s : State} {c : Context} {r : Registry} {config : Config}

/-- The cluster of the settings stands where the configuration says, over the database of the
settings, and a full one never without a class. -/
theorem storageCluster_inv {cluster : StorageCluster} (h : storageCluster s config = .ok cluster) :
    cluster.name = config.storageClusterName ∧ cluster.namespaceName = config.namespaceName ∧
      cluster.spec.database = GatewayDatabase.ofState s ∧
      (s.storageClass.name = "" → cluster.spec = .gateway none (GatewayDatabase.ofState s)) := by
  obtain ⟨hname, hplace, ⟨-, hspec⟩ | ⟨-, hn, _, _, _, _, _, _, hspec⟩⟩ := storageCluster_cases h
  · refine ⟨hname, hplace, by rw [hspec]; rfl, fun he => ?_⟩
    rw [hspec, if_pos he]
  · exact ⟨hname, hplace, by rw [hspec]; rfl, fun he => absurd he hn⟩

/-- The cluster of the settings asks for their class, if it has a name. -/
theorem consumedClass_of_storageCluster {cluster : StorageCluster}
    (h : storageCluster s config = .ok cluster) : cluster.payload.consumedClass? =
      if s.storageClass.name = "" then none else some s.storageClass.name := by
  split_ifs with hn
  · unfold Payload.consumedClass? StorageCluster.payload
    rw [Payload.at?_spec, Payload.at?_spec, (storageCluster_inv h).2.2.2 hn]
    cases GatewayDatabase.ofState s <;> rfl
  · exact (storageCluster_of_ok (by unfold storageClusterPayload; rw [h]; rfl) hn).2

/-- The secrets of the database are those that a cluster over it names. -/
theorem secrets_of_database {database : List Payload}
    (h : databaseResources s config = .ok database) {d : GatewayDatabase}
    (hd : GatewayDatabase.ofState s = some d) : ∀ name ∈ postgresSecret :: d.tlsSecret.toList,
      ∃ q ∈ database, q.IsSecret name (some config.namespaceName) := by
  unfold GatewayDatabase.ofState at hd
  unfold databaseResources at h
  split_ifs at hd h with hp
  cases hd
  have h := ok_of_orPayloadError h
  unfold Postgres.payloads at h
  dsimp only at h ⊢
  split_ifs at h ⊢ with hc
  · split at h
    · cases h
      intro name hname
      simp only [Option.toList_some, List.mem_cons, List.not_mem_nil, or_false] at hname
      rcases hname with rfl | rfl
      · exact ⟨_, .head _, rfl, by simp, rfl⟩
      · exact ⟨_, .tail _ (.head _), rfl, by simp, rfl⟩
    · cases h
  · cases h
    intro name hname
    obtain rfl : name = postgresSecret := List.mem_singleton.mp hname
    exact ⟨_, .head _, rfl, by simp, rfl⟩

/-- A cluster outside names no secrets. -/
theorem namedSecrets_externalClusterPayload (q : VendorRequest) :
    (externalClusterPayload q).namedSecrets = [] := by
  unfold Payload.namedSecrets
  rw [show (externalClusterPayload q).model = .storageCluster from rfl]
  have htext (path : List String) :
      (externalClusterPayload q).text? ("spec" :: "multiCloudGateway" :: path) = none := by
    unfold Payload.text? externalClusterPayload
    rw [Payload.at?_spec]
    split_ifs <;> rfl
  change [["spec", "multiCloudGateway", "externalPgConfig", "pgSecretName"],
      ["spec", "multiCloudGateway", "externalPgConfig", "tlsSecretName"]].filterMap _ = _
  rw [List.filterMap_cons, htext, List.filterMap_cons, htext]
  rfl

namespace FlashSystem

/-- The texts of a FlashSystem that other resources are looked up by. -/
theorem text_cluster (q : VendorRequest) :
    (cluster q).text? ["spec", "secret", "name"] = some flashSystemSecret ∧
    (cluster q).text? ["spec", "secret", "namespace"] = some q.namespaceName ∧
    (cluster q).text? ["spec", "defaultPool", "storageclassName"] = some q.storageClassName := by
  unfold Payload.text? cluster
  rw [Payload.at?_spec, Payload.at?_spec, Payload.at?_spec]
  exact ⟨rfl, rfl, rfl⟩

theorem namedSecrets_cluster (q : VendorRequest) :
    (cluster q).namedSecrets = [flashSystemSecret] := by
  unfold Payload.namedSecrets
  rw [show (cluster q).model = .flashSystemCluster from rfl]
  change [["spec", "secret", "name"]].filterMap _ = _
  rw [List.filterMap_cons, (text_cluster q).1]
  rfl

end FlashSystem

/-! ### Order -/

/-- A list cut at an item that its front does not hold is cut behind the front. -/
theorem cut_behind {α : Type} {front rest before after : List α} {a : α}
    (h : front ++ rest = before ++ a :: after) (ha : a ∉ front) :
    ∃ l, before = front ++ l ∧ rest = l ++ a :: after := by
  rcases List.append_eq_append_iff.mp h with ⟨l, rfl, hl⟩ | ⟨l, rfl, hl⟩
  · exact ⟨l, rfl, hl⟩
  · cases l with
    | nil => exact ⟨[], by simp, by simpa using hl.symm⟩
    | cons a' l =>
      obtain ⟨rfl, _⟩ := List.cons.inj hl
      simp at ha

/-- What stands in front of the first place of an item stands before each of its places. -/
theorem mem_before {α : Type} {front rest before after : List α} {a : α}
    (h : front ++ rest = before ++ a :: after) (ha : a ∉ front) : ∀ b ∈ front, b ∈ before := by
  obtain ⟨l, rfl, _⟩ := cut_behind h ha
  exact fun b hb => List.mem_append_left l hb

namespace PlanParts

variable (parts : PlanParts s c r config)

/-- The storage system of a plan is its only one. -/
theorem model_ne_storageSystem (hr : r.BuiltIn) :
    ∀ p ∈ parts.resources ++ (parts.cluster ++ (Plan.mk parts.ops).payloads),
      p.model ≠ .storageSystem := by
  intro p hp hm
  rw [List.mem_append, List.mem_append] at hp
  rcases hp with hp | hp | hp
  · have h := parts.model_of_mem_resources hp
    rw [hm] at h
    exact absurd h (by decide)
  · have h := parts.model_of_mem_cluster hp
    rw [hm] at h
    exact absurd h (by decide)
  · have h := parts.model_of_mem_ops hr hp
    rw [hm] at h
    exact absurd h (by decide)

/-- The secrets of the database stand before the cluster over it. -/
theorem secrets_before_cluster {before after : List Payload} {cluster : StorageCluster}
    (hcluster : storageCluster s config = .ok cluster) (hmem : cluster.payload ∈ parts.cluster)
    (h : parts.plan.payloads = before ++ cluster.payload :: after) :
    ∀ name ∈ cluster.payload.namedSecrets,
      ∃ q ∈ before, q.IsSecret name cluster.payload.namespaceName := by
  obtain ⟨_, hplace, hdatabase, _⟩ := storageCluster_inv hcluster
  intro name hname
  rw [cluster.namedSecrets_payload, hdatabase] at hname
  cases hd : GatewayDatabase.ofState s with
  | none =>
    rw [hd] at hname
    cases hname
  | some d =>
    rw [hd] at hname
    obtain ⟨database, volumes, hresources, _, hr⟩ :=
      parts.resources_of_creates (parts.creates_of_mem_cluster hmem)
    obtain ⟨q, hq, hsecret⟩ := secrets_of_database hresources hd name hname
    rw [parts.payloads_eq, List.append_assoc] at h
    have hfront : cluster.payload ∉ parts.resources := fun hmem =>
      absurd (show ResourceModel.storageCluster ∈ _ from parts.model_of_mem_resources hmem)
        (by decide)
    refine ⟨q, mem_before h hfront q ?_, ?_⟩
    · rw [hr]
      exact List.mem_append_left _ (List.mem_append_right _ hq)
    · rw [show cluster.payload.namespaceName = some cluster.namespaceName from rfl, hplace]
      exact hsecret

/-- The secret of a vendor stands before the resource that reads it. -/
theorem secrets_before_vendor (hr : r.BuiltIn) {before after : List Payload} {p : Payload}
    (hmem : p ∈ (Plan.mk parts.ops).payloads) (h : parts.plan.payloads = before ++ p :: after) :
    ∀ name ∈ p.namedSecrets, ∃ q ∈ before, q.IsSecret name p.namespaceName := by
  intro name hname
  have hvendor := parts.isVendor_of_mem_ops hr p hmem
  have hpayloads := parts.payloads_eq
  rcases parts.payloads_ops_cases hr with ⟨_, ho⟩ | ⟨_, data, ho⟩ | ⟨_, ho⟩
  · rw [ho] at hmem
    cases hmem
  · rw [ho, List.mem_cons, List.mem_singleton] at hmem
    rcases hmem with rfl | rfl
    · rw [Payload.namedSecrets_of_secret rfl] at hname
      cases hname
    · rw [namedSecrets_externalClusterPayload] at hname
      cases hname
  · rw [ho] at hpayloads
    rw [ho, List.mem_cons, List.mem_singleton] at hmem
    rcases hmem with rfl | rfl
    · rw [Payload.namedSecrets_of_secret rfl] at hname
      cases hname
    · rw [FlashSystem.namedSecrets_cluster] at hname
      obtain rfl := List.mem_singleton.mp hname
      -- the request must not be computed when bodies are compared
      generalize s.vendorRequest config Vendor.flashSystem = q at hpayloads h hvendor ⊢
      have hfront : parts.resources ++ parts.system :: parts.cluster ++
          [FlashSystem.credentials q] ++ [FlashSystem.cluster q] =
            before ++ FlashSystem.cluster q :: after := by
        rw [← h, hpayloads, List.append_assoc]
        rfl
      refine ⟨FlashSystem.credentials q, mem_before hfront ?_ _ (by simp), rfl,
        by simp [FlashSystem.credentials], rfl⟩
      intro hmem
      rcases List.mem_append.mp hmem with hmem | hmem
      · rw [← parts.payloads_front, mem_payloads] at hmem
        exact parts.not_isVendor_of_mem_front hmem hvendor
      · have hm := congrArg Payload.model (List.mem_singleton.mp hmem)
        exact absurd (show ResourceModel.flashSystemCluster = .secret from hm) (by decide)

/-- **A cluster finds its secrets before it.** -/
theorem secrets_before (hr : r.BuiltIn) {before after : List Payload} {p : Payload}
    (h : parts.plan.payloads = before ++ p :: after) (hm : p.model ≠ .configMap) :
    ∀ name ∈ p.namedSecrets, ∃ q ∈ before, q.IsSecret name p.namespaceName := by
  have hmem : .create p ∈ parts.plan.operations := by
    rw [← mem_payloads, h]
    exact List.mem_append_right _ (.head _)
  rcases parts.mem_operations.mp hmem with hmem | rfl | hmem | hmem
  · have hnone : p.namedSecrets = [] := by
      rcases parts.kinds_of_resources p hmem with ⟨hk, _⟩ | hd | ⟨_, hset⟩
      · exact Payload.namedSecrets_of_secret (hk.model.resolve_left hm)
      · exact Payload.namedSecrets_of_secret hd.1
      · exact Payload.namedSecrets_of_other (.inl hset)
    rw [hnone]
    exact fun name hname => nomatch hname
  · rw [Payload.namedSecrets_of_other (.inr rfl)]
    exact fun name hname => nomatch hname
  · obtain ⟨cluster, hcluster, rfl⟩ := parts.eq_payload_of_mem_cluster hmem
    exact parts.secrets_before_cluster hcluster hmem h
  · exact parts.secrets_before_vendor hr hmem h

/-- Config maps are those of the key management. -/
theorem mem_kmsResources_of_configMap (hr : r.BuiltIn) {p : Payload}
    (h : .create p ∈ parts.plan.operations) (hm : p.model = .configMap) :
    p ∈ parts.resources ∧ p ∈ kmsResources s config := by
  rcases parts.part_of_model hr h with ⟨hmem, _⟩ | ⟨_, h⟩ | ⟨_, h⟩ | ⟨_, h⟩
  · refine ⟨hmem, ?_⟩
    rcases parts.mem_resources hmem with h | ⟨database, hdatabase, h⟩ | ⟨_, h⟩
    · exact h
    · have hd := (isDatabase_databaseResources hdatabase p h).1
      exact absurd (hm.symm.trans hd) (by decide)
    · exact absurd (hm.symm.trans (LocalVolumeForm.model_of_ok h)) (by decide)
  all_goals
    rw [hm] at h
    exact absurd h (by decide)

/-- **Every secret that a resource names is created.** -/
theorem secrets_in_plan (hr : r.BuiltIn) : ∀ p ∈ parts.plan.payloads, ∀ name ∈ p.namedSecrets,
    ∃ q ∈ parts.plan.payloads, q.IsSecret name p.namespaceName := by
  intro p hp name hname
  by_cases hm : p.model = .configMap
  · obtain ⟨hmem, hkms⟩ := parts.mem_kmsResources_of_configMap hr (mem_payloads.mp hp) hm
    obtain ⟨database, volumes, _, _, hresources⟩ :=
      parts.resources_of_creates (parts.creates_of_mem_resources hmem)
    have hsecret : ∃ q ∈ kmsResources s config, q.IsSecret name p.namespaceName := by
      unfold kmsResources at hkms ⊢
      split_ifs at hkms ⊢
      · exact secrets_of_kms _ _ p hkms name hname
      · cases hkms
    obtain ⟨q, hq, hsecret⟩ := hsecret
    refine ⟨q, mem_payloads.mpr (parts.mem_operations.mpr (.inl ?_)), hsecret⟩
    rw [hresources, List.append_assoc]
    exact List.mem_append_left _ hq
  · obtain ⟨before, after, h⟩ := List.append_of_mem hp
    obtain ⟨q, hq, hsecret⟩ := parts.secrets_before hr h hm name hname
    rw [h]
    exact ⟨q, List.mem_append_left _ hq, hsecret⟩

/-! ### The storage system and the class -/

/-- **The storage system stands for a cluster of the plan.** -/
theorem system_names (hr : r.BuiltIn) : ∃ q ∈ parts.plan.payloads,
    (q.model = .storageCluster ∨ q.model = .flashSystemCluster) ∧
      parts.system.text? ["spec", "name"] = some q.name ∧
      parts.system.text? ["spec", "kind"] = some q.model.systemKind ∧
      parts.system.text? ["spec", "namespace"] = q.namespaceName ∧
      parts.system.namespaceName = q.namespaceName := by
  have htext : parts.system.text? ["spec", "name"] = some (systemOf s config parts.vendor).1 ∧
      parts.system.text? ["spec", "kind"] = some (systemOf s config parts.vendor).2.systemKind ∧
      parts.system.text? ["spec", "namespace"] = some config.namespaceName := by
    unfold Payload.text? system storageSystemPayload
    rw [Payload.at?_spec, Payload.at?_spec, Payload.at?_spec]
    exact ⟨rfl, rfl, rfl⟩
  obtain ⟨hname, hkind, hplace⟩ := htext
  have hmem (q : Payload) (hq : q ∈ (Plan.mk parts.ops).payloads) : q ∈ parts.plan.payloads :=
    mem_payloads.mpr (parts.mem_operations.mpr (.inr (.inr (.inr hq))))
  rcases parts.payloads_ops_cases hr with ⟨hv, _⟩ | ⟨hv, data, ho⟩ | ⟨hv, ho⟩
  · have hcreates : parts.creates = true := by
      unfold creates
      rw [hv]
      rfl
    obtain ⟨p, hp, hl⟩ := parts.cluster_of_creates hcreates
    obtain ⟨cluster, hcluster, rfl⟩ := storageCluster_of_payload hp
    obtain ⟨hclusterName, hclusterPlace, _⟩ := storageCluster_inv hcluster
    have hq : cluster.payload.namespaceName = some config.namespaceName :=
      congrArg some hclusterPlace
    rw [hv] at hname hkind
    refine ⟨cluster.payload, mem_payloads.mpr (parts.mem_operations.mpr ?_), .inl rfl, ?_, hkind,
      hplace.trans hq.symm, hq.symm⟩
    · exact .inr (.inr (.inl (hl ▸ List.mem_singleton_self _)))
    · rw [hname, StorageCluster.name_payload, hclusterName]
      rfl
  · rw [hv] at hname hkind
    rw [ho] at hmem
    exact ⟨_, hmem _ (.tail _ (.head _)), .inl rfl,
      by rw [hname, name_externalClusterPayload]; rfl, hkind, hplace, rfl⟩
  · rw [hv] at hname hkind
    rw [ho] at hmem
    exact ⟨_, hmem _ (.tail _ (.head _)), .inr rfl,
      by rw [hname, FlashSystem.name_cluster]; rfl, hkind, hplace, rfl⟩

/-- A FlashSystem in a plan is that of the settings. -/
theorem eq_of_flashSystem (hr : r.BuiltIn) {p : Payload} (h : p ∈ parts.plan.payloads)
    (hm : p.model = .flashSystemCluster) : parts.vendor = some .flashSystem ∧
      p = FlashSystem.cluster (s.vendorRequest config .flashSystem) := by
  have hmem : p ∈ (Plan.mk parts.ops).payloads := by
    rcases parts.part_of_model hr (mem_payloads.mp h) with ⟨_, h⟩ | ⟨_, h⟩ | ⟨_, h⟩ | ⟨hmem, _⟩
    · rw [hm] at h
      exact absurd h (by decide)
    · rw [hm] at h
      exact absurd h (by decide)
    · rw [hm] at h
      exact absurd h (by decide)
    · exact hmem
  rcases parts.payloads_ops_cases hr with ⟨_, ho⟩ | ⟨_, data, ho⟩ | ⟨hv, ho⟩
  · rw [ho] at hmem
    cases hmem
  · rw [ho, List.mem_cons, List.mem_singleton] at hmem
    rcases hmem with rfl | rfl
    · exact absurd (show ResourceModel.secret = _ from hm) (by decide)
    · exact absurd (show ResourceModel.storageCluster = _ from hm) (by decide)
  · rw [ho, List.mem_cons, List.mem_singleton] at hmem
    rcases hmem with rfl | rfl
    · exact absurd (show ResourceModel.secret = _ from hm) (by decide)
    · exact ⟨hv, rfl⟩

/-- A storage cluster in a plan is that of the settings or one of the vendor. -/
theorem mem_of_storageCluster (hr : r.BuiltIn) {p : Payload} (h : p ∈ parts.plan.payloads)
    (hm : p.model = .storageCluster) :
    p ∈ parts.cluster ∨ p ∈ (Plan.mk parts.ops).payloads := by
  rcases parts.part_of_model hr (mem_payloads.mp h) with ⟨_, h⟩ | ⟨_, h⟩ | ⟨hmem, _⟩ | ⟨hmem, _⟩
  · rw [hm] at h
    exact absurd h (by decide)
  · rw [hm] at h
    exact absurd h (by decide)
  · exact .inl hmem
  · exact .inr hmem

/-- Beside a FlashSystem every storage cluster is that of the settings. -/
theorem eq_of_storageCluster (hr : r.BuiltIn) {p : Payload}
    (hv : parts.vendor = some .flashSystem) (h : p ∈ parts.plan.payloads)
    (hm : p.model = .storageCluster) :
    ∃ cluster, storageCluster s config = .ok cluster ∧ p = cluster.payload := by
  rcases parts.mem_of_storageCluster hr h hm with hmem | hmem
  · exact parts.eq_payload_of_mem_cluster hmem
  · obtain ⟨ps, hps, ho⟩ := parts.ops_of_vendor hv
    rw [parts.payloads_ops_of_vendor ho, Vendor.payloads_flashSystem hps, List.mem_cons,
      List.mem_singleton] at hmem
    rcases hmem with rfl | rfl
    · exact absurd (show ResourceModel.secret = _ from hm) (by decide)
    · exact absurd (show ResourceModel.flashSystemCluster = _ from hm) (by decide)

end PlanParts

/-! ### Closed plans -/

/-- **Every name that a resource of a plan refers to is created by the plan.** -/
theorem planSubmission_closed (hr : r.BuiltIn) {plan : Plan}
    (h : planSubmission s c r config = .ok plan) : plan.Closed := by
  obtain ⟨parts, rfl⟩ := exists_planParts h
  exact {
    secrets := parts.secrets_in_plan hr
    order := fun _ _ _ h hm => parts.secrets_before hr h hm
    place := by
      intro p hp hm
      obtain ⟨_, rfl⟩ := parts.eq_of_flashSystem hr hp hm
      exact (FlashSystem.text_cluster _).2.1
    system := by
      refine ⟨parts.resources, parts.system, parts.cluster ++ (Plan.mk parts.ops).payloads, ?_,
        rfl, parts.model_ne_storageSystem hr, parts.system_names hr⟩
      rw [parts.payloads_eq, List.append_assoc]
      rfl
    className := by
      intro flash hflash hm cluster hcluster hm'
      obtain ⟨hv, rfl⟩ := parts.eq_of_flashSystem hr hflash hm
      obtain ⟨cluster, hok, rfl⟩ := parts.eq_of_storageCluster hr hv hcluster hm'
      exact ⟨_, (FlashSystem.text_cluster _).2.2, consumedClass_of_storageCluster hok⟩ }

theorem planSubmission_closed_onFlashSystem : ∃ plan, Registry.builtins.BuiltIn ∧
    planSubmission (.onFlashSystem .full "gold") {} .builtins {} = .ok plan ∧ plan.Closed := by
  obtain ⟨plan, h⟩ : ∃ plan,
      planSubmission (.onFlashSystem .full "gold") {} .builtins {} = .ok plan := ⟨_, rfl⟩
  exact ⟨plan, Registry.builtIn_builtins, h, planSubmission_closed Registry.builtIn_builtins h⟩

/-- Over a class without a name the object gateway names no class, while the pool names the empty
one. -/
theorem not_className_agrees : ¬ ∀ (s : State) (c : Context) (config : Config) (plan : Plan),
    planSubmission s c .builtins config = .ok plan →
      ∀ flash ∈ plan.payloads, flash.model = .flashSystemCluster →
      ∀ cluster ∈ plan.payloads, cluster.model = .storageCluster →
        cluster.consumedClass? = flash.text? ["spec", "defaultPool", "storageclassName"] := by
  intro hall
  obtain ⟨plan, h, flash, hflash, hm, cluster, hcluster, hm', hne⟩ : ∃ plan,
      planSubmission (.onFlashSystem .mcg "") {} .builtins {} = .ok plan ∧
      ∃ flash ∈ plan.payloads, flash.model = .flashSystemCluster ∧
      ∃ cluster ∈ plan.payloads, cluster.model = .storageCluster ∧
        cluster.consumedClass? ≠ flash.text? ["spec", "defaultPool", "storageclassName"] :=
    ⟨_, rfl, _, .tail _ (.tail _ (.tail _ (.tail _ (.tail _ (.head _))))), by decide,
      _, .tail _ (.tail _ (.tail _ (.head _))), by decide, by decide⟩
  exact hne (hall _ _ _ plan h flash hflash hm cluster hcluster hm')

end StorageSetup
