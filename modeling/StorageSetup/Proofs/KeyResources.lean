import StorageSetup.Proofs.References
/-!
# Key management in a plan

The planner creates the resources of the key management by the encryption of the settings, their
deployment and who creates the cluster; the cluster writes into its body whether it takes its keys
from a service. Both are decided apart and agree: the connection is in a plan exactly where a
cluster of the plan uses it. It comes with the secrets of one service and before what reads it.

Key definitions: `Payload.UsesKms`, `Payload.IsConnection`, `Payload.Serves`, `Plan.keyResources`.
Key theorems: `usesKms_of_storageCluster`, `Kms.cases_of_mem`, `PlanParts.keyResources_eq`,
`planSubmission_keyResources`.
-/

namespace StorageSetup

instance (p : Payload) : Decidable p.IsKms :=
  inferInstanceAs (Decidable ((p.model = .configMap ∧ p.name = kmsConnectionDetails) ∨
    (p.model = .secret ∧ p.name ∈ [kmsTokenSecret, kmsCaSecret, kmipClientSecret])))

/-- The secrets of a key management service. -/
def KmsProvider.secretNames : KmsProvider → List String
  | vault => [kmsTokenSecret, kmsCaSecret]
  | kmip => [kmipClientSecret]

namespace Payload

/-- A storage cluster takes its keys from an external service. -/
def UsesKms (p : Payload) : Prop :=
  p.model = .storageCluster ∧
    p.body.at? ["spec", "encryption", "kms", "enable"] = some (.bool true)

/-- The details of the connection to the key management. -/
def IsConnection (p : Payload) : Prop :=
  p.model = .configMap ∧ p.name = kmsConnectionDetails

/-- A resource belongs to one of the services: the details of a connection to it, or its secret. -/
def Serves (k : KmsProvider) (p : Payload) : Prop :=
  (p.IsConnection ∧ p.text? ["data", "KMS_PROVIDER"] = some k.code) ∨
    (p.model = .secret ∧ p.name ∈ k.secretNames)

theorem not_isKms_of_model {p : Payload} (h : p.model ∉ [.configMap, .secret]) : ¬ p.IsKms := by
  intro hk
  rcases hk.model with hm | hm <;> rw [hm] at h <;> exact h (by decide)

/-- What belongs to a service is a resource of the key management. -/
theorem Serves.isKms {k : KmsProvider} {p : Payload} (h : p.Serves k) : p.IsKms := by
  rcases h with ⟨hc, _⟩ | ⟨hm, hn⟩
  · exact .inl hc
  · refine .inr ⟨hm, ?_⟩
    cases k with
    | vault => exact List.mem_append_left [kmipClientSecret] hn
    | kmip => exact List.mem_append_right [kmsTokenSecret, kmsCaSecret] hn

end Payload

/-- The resources of the key management in a plan. -/
def Plan.keyResources (plan : Plan) : List Payload :=
  plan.payloads.filter fun p => decide p.IsKms

theorem Plan.mem_keyResources {plan : Plan} {p : Payload} :
    p ∈ plan.keyResources ↔ p ∈ plan.payloads ∧ p.IsKms := by
  unfold keyResources
  rw [List.mem_filter, decide_eq_true_iff]

variable {s : State} {c : Context} {r : Registry} {config : Config}

/-! ### What clusters say -/

/-- The encryption of a cluster, which the object gateway alone has none of. -/
def ClusterSpec.encryption? : ClusterSpec → Option Encryption
  | gateway _ _ => none
  | full _ _ _ _ _ encryption _ _ _ _ => some encryption

theorem ClusterSpec.at?_kms (spec : ClusterSpec) :
    spec.toJson.at? ["encryption", "kms", "enable"] =
      spec.encryption?.map fun e => .bool e.usesKms := by
  cases spec with
  | gateway className database => cases className <;> cases database <;> rfl
  | full stretch => cases stretch <;> rfl

theorem encryption_of_storageCluster {cluster : StorageCluster}
    (h : storageCluster s config = .ok cluster) : cluster.spec.encryption? =
      if s.isMcg then none else some s.security.encryption := by
  obtain ⟨-, -, ⟨hm, hspec⟩ | ⟨hm, -, _, _, _, _, _, _, hspec⟩⟩ := storageCluster_cases h
  · rw [hm, hspec]
    rfl
  · rw [hm, hspec]
    rfl

/-- **The cluster of the settings uses the key management just where its resources are planned.** -/
theorem usesKms_of_storageCluster {cluster : StorageCluster}
    (h : storageCluster s config = .ok cluster) : cluster.payload.UsesKms ↔
      (s.security.encryption.usesKms && !s.isMcg) = true := by
  have hbody : cluster.payload.body.at? ["spec", "encryption", "kms", "enable"] =
      if s.isMcg then none else some (.bool s.security.encryption.usesKms) := by
    unfold StorageCluster.payload
    rw [Payload.at?_spec, ClusterSpec.at?_kms, encryption_of_storageCluster h]
    split_ifs <;> rfl
  unfold Payload.UsesKms
  rw [hbody, and_iff_right (show cluster.payload.model = .storageCluster from rfl)]
  cases s.isMcg <;> cases s.security.encryption.usesKms <;> simp

/-- A cluster outside manages its keys outside. -/
theorem not_usesKms_externalClusterPayload (q : VendorRequest) :
    ¬ (externalClusterPayload q).UsesKms := by
  rintro ⟨_, h⟩
  unfold externalClusterPayload at h
  rw [Payload.at?_spec] at h
  split_ifs at h <;> cases h

/-! ### The resources of a service -/

theorem Vault.get?_provider (v : Vault) : v.details.get? "KMS_PROVIDER" = some "vault" := by
  unfold details
  cases v.auth <;> cases v.caCert <;>
    simp [Dict.get?_insert, Dict.get?_ofList, sortEntries, lookupEntry_insertEntry]

theorem Kmip.get?_provider (k : Kmip) : k.details.get? "KMS_PROVIDER" = some "kmip" := by
  unfold details
  simp [Dict.get?_ofList, sortEntries, lookupEntry_insertEntry]

namespace Kms

variable (k : Kms) (namespaceName : String)

theorem exists_connection : ∃ p ∈ k.payloads namespaceName, p.IsConnection := by
  unfold payloads
  cases k.provider with
  | vault => exact ⟨_, .head _, rfl, name_configMap _ _ _⟩
  | kmip => exact ⟨_, .head _, rfl, name_configMap _ _ _⟩

/-- The secrets of Vault: the token where it logs in with one, the authority where there is one. -/
theorem mem_secrets_iff (v : Vault) {p : Payload} : p ∈ v.secrets namespaceName ↔
    (v.auth = .token ∧
      p = stringSecret kmsTokenSecret namespaceName (.ofList [("token", v.token)])) ∨
    ∃ ca, v.caCert = some ca ∧
      p = stringSecret kmsCaSecret namespaceName (.ofList [("cert", ca)]) := by
  unfold Vault.secrets
  cases v.auth <;> cases v.caCert <;> simp

/-- **The resources of the key management** are the details of the connection, which name the chosen
service, and secrets of that service. -/
theorem cases_of_mem {p : Payload} (h : p ∈ k.payloads namespaceName) :
    (∃ details, details.get? "KMS_PROVIDER" = some k.provider.code ∧
      p = configMap kmsConnectionDetails namespaceName details) ∨
    ∃ name ∈ k.provider.secretNames, ∃ data, p = stringSecret name namespaceName data := by
  unfold payloads at h
  cases hk : k.provider with
  | vault =>
    rw [hk] at h
    rcases List.mem_cons.mp h with rfl | h
    · exact .inl ⟨_, k.vault.get?_provider, rfl⟩
    · rcases (mem_secrets_iff namespaceName k.vault).mp h with ⟨_, rfl⟩ | ⟨_, _, rfl⟩
      · exact .inr ⟨kmsTokenSecret, .head _, _, rfl⟩
      · exact .inr ⟨kmsCaSecret, .tail _ (.head _), _, rfl⟩
  | kmip =>
    rw [hk] at h
    rcases List.mem_cons.mp h with rfl | h
    · exact .inl ⟨_, k.kmip.get?_provider, rfl⟩
    · exact .inr ⟨kmipClientSecret, .head _, _, List.mem_singleton.mp h⟩

theorem serves_of_mem {p : Payload} (h : p ∈ k.payloads namespaceName) :
    p.Serves k.provider := by
  rcases k.cases_of_mem namespaceName h with ⟨details, hd, rfl⟩ | ⟨name, hn, data, rfl⟩
  · exact .inl ⟨⟨rfl, name_configMap _ _ _⟩, (text_configMap _ _ _ _).trans hd⟩
  · exact .inr ⟨rfl, by rwa [name_stringSecret]⟩

end Kms

/-- No resource belongs to two services. -/
theorem Payload.Serves.unique {p : Payload} {j k : KmsProvider} (hj : p.Serves j)
    (hk : p.Serves k) : j = k := by
  rcases hj with ⟨⟨hm, _⟩, hj⟩ | ⟨hm, hj⟩ <;> rcases hk with ⟨⟨hm', _⟩, hk⟩ | ⟨hm', hk⟩
  · have hcode : j.code = k.code := Option.some.inj (hj.symm.trans hk)
    revert hcode
    cases j <;> cases k <;> decide
  · exact absurd (hm.symm.trans hm') (by decide)
  · exact absurd (hm.symm.trans hm') (by decide)
  · have hnames : ∀ n ∈ j.secretNames, n ∈ k.secretNames → j = k := by
      cases j <;> cases k <;> decide
    exact hnames _ hj hk

/-- **Vault alone has a token, and only where it logs in with one.** -/
theorem Kms.token_mem_iff (k : Kms) (namespaceName : String) :
    (∃ p ∈ k.payloads namespaceName, p.model = .secret ∧ p.name = kmsTokenSecret) ↔
      k.provider = .vault ∧ k.vault.auth = .token := by
  constructor
  · rintro ⟨p, hp, hm, hn⟩
    have hvault : k.provider = .vault := by
      refine (k.serves_of_mem namespaceName hp).unique (.inr ⟨hm, ?_⟩)
      rw [hn]
      exact .head _
    unfold payloads at hp
    rw [hvault] at hp
    rcases List.mem_cons.mp hp with rfl | hp
    · exact absurd (show ResourceModel.configMap = .secret from hm) (by decide)
    · rcases (mem_secrets_iff namespaceName k.vault).mp hp with ⟨ht, _⟩ | ⟨_, _, rfl⟩
      · exact ⟨hvault, ht⟩
      · rw [name_stringSecret] at hn
        exact absurd hn (by decide)
  · rintro ⟨hvault, ht⟩
    refine ⟨stringSecret kmsTokenSecret namespaceName (.ofList [("token", k.vault.token)]), ?_, rfl,
      name_stringSecret _ _ _⟩
    unfold payloads
    rw [hvault]
    exact .tail _ ((mem_secrets_iff namespaceName k.vault).mpr (.inl ⟨ht, rfl⟩))

/-! ### Agreement -/

/-- The volume set is no resource of the key management. -/
theorem not_isKms_volumeResources {volumes : List Payload}
    (h : volumeResources s config = .ok volumes) : ∀ p ∈ volumes, ¬ p.IsKms := by
  unfold volumeResources at h
  split_ifs at h
  · obtain ⟨p, hp, rfl⟩ := singleton_of_ok h
    intro q hq
    rw [List.mem_singleton.mp hq]
    exact Payload.not_isKms_of_model (by rw [LocalVolumeForm.model_of_ok hp]; decide)
  · cases h
    exact fun p hp => nomatch hp

namespace PlanParts

variable (parts : PlanParts s c r config)

/-- Behind the resources beside the cluster nothing is of the key management. -/
theorem not_isKms_of_rest (hr : r.BuiltIn) :
    ∀ p ∈ parts.system :: parts.cluster ++ (Plan.mk parts.ops).payloads, ¬ p.IsKms := by
  intro p hp
  rcases List.mem_append.mp hp with hp | hp
  · rcases List.mem_cons.mp hp with rfl | hp
    · have hm : parts.system.model = .storageSystem := rfl
      exact Payload.not_isKms_of_model (by rw [hm]; decide)
    · have hm := parts.model_of_mem_cluster hp
      rw [List.mem_singleton] at hm
      exact Payload.not_isKms_of_model (by rw [hm]; decide)
  · exact (parts.isVendor_of_mem_ops hr p hp).not_isKms

/-- **The resources of the key management in a plan are those of the settings.** -/
theorem keyResources_eq (hr : r.BuiltIn) : parts.plan.keyResources =
    if parts.creates then kmsResources s config else [] := by
  have hnone {l : List Payload} (h : ∀ p ∈ l, ¬ p.IsKms) :
      (l.filter fun p => decide p.IsKms) = [] :=
    List.filter_eq_nil_iff.mpr fun p hp => by simpa using h p hp
  unfold Plan.keyResources
  rw [parts.payloads_eq, List.append_assoc, List.filter_append,
    hnone (parts.not_isKms_of_rest hr), List.append_nil]
  by_cases hcreates : parts.creates = true
  · obtain ⟨database, volumes, hdatabase, hvolumes, hresources⟩ :=
      parts.resources_of_creates hcreates
    have hall : ((kmsResources s config).filter fun p => decide p.IsKms) = kmsResources s config :=
      List.filter_eq_self.mpr fun p hp => decide_eq_true (isKms_kmsResources p hp)
    rw [if_pos hcreates, hresources, List.filter_append, List.filter_append, hall,
      hnone fun p hp => (isDatabase_databaseResources hdatabase p hp).not_isKms,
      hnone (not_isKms_volumeResources hvolumes), List.append_nil, List.append_nil]
  · rw [if_neg hcreates, (parts.nothing_of_not_creates (Bool.not_eq_true _ ▸ hcreates)).1]
    rfl

theorem mem_keyResources_iff (hr : r.BuiltIn) {p : Payload} : p ∈ parts.plan.keyResources ↔
    (parts.creates = true ∧ (s.security.encryption.usesKms && !s.isMcg) = true) ∧
      p ∈ s.security.kms.payloads config.namespaceName := by
  rw [parts.keyResources_eq hr, kmsResources]
  split_ifs with hcreates huses
  · rw [and_iff_right ⟨hcreates, huses⟩]
  · exact iff_of_false List.not_mem_nil fun h => huses h.1.2
  · exact iff_of_false List.not_mem_nil fun h => hcreates h.1.1

/-- A storage cluster that a vendor creates is one outside. -/
theorem externalCluster_of_mem_ops (hr : r.BuiltIn) {p : Payload}
    (h : p ∈ (Plan.mk parts.ops).payloads) (hm : p.model = .storageCluster) :
    ∃ q, p = externalClusterPayload q := by
  rcases parts.payloads_ops_cases hr with ⟨_, ho⟩ | ⟨_, data, ho⟩ | ⟨_, ho⟩
  · rw [ho] at h
    cases h
  · rw [ho, List.mem_cons, List.mem_singleton] at h
    rcases h with rfl | rfl
    · exact absurd (show ResourceModel.secret = _ from hm) (by decide)
    · exact ⟨_, rfl⟩
  · rw [ho, List.mem_cons, List.mem_singleton] at h
    rcases h with rfl | rfl
    · exact absurd (show ResourceModel.secret = _ from hm) (by decide)
    · exact absurd (show ResourceModel.flashSystemCluster = _ from hm) (by decide)

/-- **A cluster of the plan uses the key management** where the settings say so and the plan creates
their cluster. -/
theorem exists_usesKms_iff (hr : r.BuiltIn) : (∃ p ∈ parts.plan.payloads, p.UsesKms) ↔
    parts.creates = true ∧ (s.security.encryption.usesKms && !s.isMcg) = true := by
  constructor
  · rintro ⟨p, hp, huses⟩
    rcases parts.mem_of_storageCluster hr hp huses.1 with hmem | hmem
    · obtain ⟨cluster, hcluster, rfl⟩ := parts.eq_payload_of_mem_cluster hmem
      exact ⟨parts.creates_of_mem_cluster hmem, (usesKms_of_storageCluster hcluster).mp huses⟩
    · obtain ⟨q, rfl⟩ := parts.externalCluster_of_mem_ops hr hmem huses.1
      exact absurd huses (not_usesKms_externalClusterPayload q)
  · rintro ⟨hcreates, huses⟩
    obtain ⟨p, hp, hl⟩ := parts.cluster_of_creates hcreates
    obtain ⟨cluster, hcluster, rfl⟩ := storageCluster_of_payload hp
    refine ⟨cluster.payload, ?_, (usesKms_of_storageCluster hcluster).mpr huses⟩
    refine mem_payloads.mpr (parts.mem_operations.mpr (.inr (.inr (.inl ?_))))
    rw [hl]
    exact List.mem_singleton_self _

/-- The connection is in a plan where a service is used by the cluster that it creates. -/
theorem exists_connection_iff (hr : r.BuiltIn) : (∃ p ∈ parts.plan.payloads, p.IsConnection) ↔
    parts.creates = true ∧ (s.security.encryption.usesKms && !s.isMcg) = true := by
  constructor
  · rintro ⟨p, hp, hc⟩
    exact ((parts.mem_keyResources_iff hr).mp (Plan.mem_keyResources.mpr ⟨hp, .inl hc⟩)).1
  · intro huses
    obtain ⟨p, hp, hc⟩ := s.security.kms.exists_connection config.namespaceName
    have hmem : p ∈ parts.plan.keyResources := (parts.mem_keyResources_iff hr).mpr ⟨huses, hp⟩
    exact ⟨p, (Plan.mem_keyResources.mp hmem).1, hc⟩

/-- **The resources of the key management stand before the storage system and the cluster.** -/
theorem keyResources_before (hr : r.BuiltIn) {before after : List Payload} {p : Payload}
    (h : parts.plan.payloads = before ++ p :: after)
    (hm : p.model = .storageSystem ∨ p.model = .storageCluster) :
    (∀ q ∈ parts.plan.keyResources, q ∈ before) ∧ ∀ q ∈ p :: after, ¬ q.IsKms := by
  have hbehind : ∀ q ∈ p :: after, ¬ q.IsKms := by
    have hfront : p ∉ parts.resources := by
      intro hmem
      have hkind := parts.model_of_mem_resources hmem
      rcases hm with hm | hm <;> rw [hm] at hkind <;> exact absurd hkind (by decide)
    have hcut := h
    rw [parts.payloads_eq, List.append_assoc] at hcut
    obtain ⟨l, _, hrest⟩ := cut_behind hcut hfront
    intro q hq
    refine parts.not_isKms_of_rest hr q ?_
    rw [hrest]
    exact List.mem_append_right l hq
  refine ⟨fun q hq => ?_, hbehind⟩
  obtain ⟨hmem, hk⟩ := Plan.mem_keyResources.mp hq
  rw [h, List.mem_append] at hmem
  exact hmem.resolve_right fun hq => hbehind q hq hk

end PlanParts

/-- **The resources of the key management are in a plan exactly where its cluster uses them.** They
stand before the storage system and the clusters, they all belong to the chosen service, and the
token is among them where that is Vault and logs in with one. -/
theorem planSubmission_keyResources (hr : r.BuiltIn) {plan : Plan}
    (h : planSubmission s c r config = .ok plan) :
    ((∃ p ∈ plan.payloads, p.IsConnection) ↔ ∃ p ∈ plan.payloads, p.UsesKms) ∧
    ((∃ p ∈ plan.payloads, p.IsKms) → ∃ p ∈ plan.payloads, p.IsConnection) ∧
    ((∃ p ∈ plan.payloads, p.IsConnection) →
      plan.keyResources = s.security.kms.payloads config.namespaceName ∧
      (∀ before p after, plan.payloads = before ++ p :: after →
        (p.model = .storageSystem ∨ p.model = .storageCluster) →
        (∀ q ∈ plan.keyResources, q ∈ before) ∧ ∀ q ∈ p :: after, ¬ q.IsKms) ∧
      (∀ k, (∃ p ∈ plan.payloads, p.Serves k) ↔ k = s.security.kms.provider) ∧
      ((∃ p ∈ plan.payloads, p.model = .secret ∧ p.name = kmsTokenSecret) ↔
        s.security.kms.provider = .vault ∧ s.security.kms.vault.auth = .token)) := by
  obtain ⟨parts, rfl⟩ := exists_planParts h
  have hconnection := parts.exists_connection_iff hr
  refine ⟨hconnection.trans (parts.exists_usesKms_iff hr).symm, ?_, fun hconnected => ?_⟩
  · rintro ⟨p, hp, hk⟩
    have hmem : p ∈ parts.plan.keyResources := Plan.mem_keyResources.mpr ⟨hp, hk⟩
    exact hconnection.mpr ((parts.mem_keyResources_iff hr).mp hmem).1
  · obtain ⟨hcreates, huses⟩ := hconnection.mp hconnected
    have hkeys : parts.plan.keyResources = s.security.kms.payloads config.namespaceName := by
      rw [parts.keyResources_eq hr, if_pos hcreates, kmsResources, if_pos huses]
    have hplanned (p : Payload) (hk : p.IsKms) : p ∈ parts.plan.payloads ↔
        p ∈ s.security.kms.payloads config.namespaceName := by
      rw [← hkeys, Plan.mem_keyResources, and_iff_left hk]
    refine ⟨hkeys, fun _ _ _ => parts.keyResources_before hr, fun k => ⟨?_, ?_⟩, ?_⟩
    · rintro ⟨p, hp, hserves⟩
      exact hserves.unique
        (s.security.kms.serves_of_mem _ ((hplanned p hserves.isKms).mp hp))
    · rintro rfl
      obtain ⟨p, hp, hc⟩ := s.security.kms.exists_connection config.namespaceName
      exact ⟨p, (hplanned p (.inl hc)).mpr hp, s.security.kms.serves_of_mem _ hp⟩
    · rw [← s.security.kms.token_mem_iff config.namespaceName]
      refine exists_congr fun p => and_congr_left fun ⟨hm, hn⟩ => hplanned p (.inr ⟨hm, ?_⟩)
      rw [hn]
      exact .head _

theorem planSubmission_keyResources_onFlashSystem : ∃ plan, Registry.builtins.BuiltIn ∧
    planSubmission (.onFlashSystem .full "gold") {} .builtins {} = .ok plan ∧
    (∃ p ∈ plan.payloads, p.UsesKms) ∧
    ∃ p ∈ plan.payloads, p.model = .secret ∧ p.name = kmsTokenSecret := by
  obtain ⟨plan, h, hconnected⟩ : ∃ plan,
      planSubmission (.onFlashSystem .full "gold") {} .builtins {} = .ok plan ∧
      ∃ p ∈ plan.payloads, p.IsConnection :=
    ⟨_, rfl, _, .head _, rfl, name_configMap _ _ _⟩
  obtain ⟨huses, _, hkeys⟩ := planSubmission_keyResources Registry.builtIn_builtins h
  exact ⟨plan, Registry.builtIn_builtins, h, huses.mp hconnected,
    (hkeys hconnected).2.2.2.mpr (by decide)⟩

end StorageSetup
