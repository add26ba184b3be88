import StorageSetup.Proofs.Plan
/-!
# Resources

A resource carries its name in its metadata, and its kind and name tell what it is for: key
management, the external database, local volumes, the cluster, or a vendor. The vendors that are
always there create resources of their own, which no other part of a plan creates.

Key definitions: `Payload.IsKms`, `Payload.IsDatabase`, `Payload.IsVendor`, `Registry.BuiltIn`.
Key theorems: `Payload.name_ofMembers`, `isKms_payloads`, `isDatabase_payloads`,
`storageCluster_cases`, `Registry.BuiltIn.isVendor_payloads`.
-/

namespace StorageSetup

/-! ### Names of resources -/

namespace Payload

/-- Version and kind aside, the members of a body are those it was made of. -/
theorem member?_ofMembers (model : ResourceModel) (namespaceName : Option String)
    (members : List (String × Json)) {key : String} (hk : key ≠ "kind") (hv : key ≠ "apiVersion") :
    (ofMembers model namespaceName members).body.member? key =
      lookupEntry key (sortEntries members) := by
  change lookupEntry key (withKind model members) = _
  unfold withKind
  rw [lookupEntry_insertEntry, if_neg hk.symm, lookupEntry_insertEntry, if_neg hv.symm]

theorem at?_ofMembers (model : ResourceModel) (namespaceName : Option String)
    (members : List (String × Json)) {key : String} (path : List String) (hk : key ≠ "kind")
    (hv : key ≠ "apiVersion") : (ofMembers model namespaceName members).body.at? (key :: path) =
      (lookupEntry key (sortEntries members)).bind (Json.at? path) := by
  rw [Json.at?, member?_ofMembers model namespaceName members hk hv]

theorem at?_metadata (name namespaceName : String) (annotations : List (String × Json)) :
    (metadata name namespaceName annotations).at? ["name"] = some (.str name) := by
  unfold metadata
  split_ifs <;> rfl

/-- A resource carries the name of its metadata. -/
theorem name_ofMembers (model : ResourceModel) (place : Option String)
    {members : List (String × Json)} {name : String}
    (h : (lookupEntry "metadata" (sortEntries members)).bind (Json.at? ["name"]) =
      some (.str name)) : (ofMembers model place members).name = name := by
  unfold Payload.name
  rw [at?_ofMembers _ _ _ _ (by decide) (by decide), h]
  rfl

end Payload

/-- A secret has its data in base64. -/
theorem member?_dataSecret (name namespaceName : String) (data : Dict String) :
    (dataSecret name namespaceName data).body.member? "data" =
      some (.ofDict (fun v => .str (Text.Base64.encodeText v)) data) := by
  unfold dataSecret
  rw [Payload.member?_ofMembers _ _ _ (by decide) (by decide)]
  simp [sortEntries, lookupEntry_insertEntry]

@[simp] theorem name_stringSecret (name namespaceName : String) (data : Dict String) :
    (stringSecret name namespaceName data).name = name :=
  Payload.name_ofMembers _ _ (by
    simp [sortEntries, lookupEntry_insertEntry, Payload.at?_metadata])

@[simp] theorem name_dataSecret (name namespaceName : String) (data : Dict String) :
    (dataSecret name namespaceName data).name = name :=
  Payload.name_ofMembers _ _ (by
    simp [sortEntries, lookupEntry_insertEntry, Payload.at?_metadata])

@[simp] theorem name_configMap (name namespaceName : String) (data : Dict String) :
    (configMap name namespaceName data).name = name :=
  Payload.name_ofMembers _ _ (by
    simp [sortEntries, lookupEntry_insertEntry, Payload.at?_metadata])

@[simp] theorem StorageCluster.name_payload (c : StorageCluster) : c.payload.name = c.name :=
  Payload.name_ofMembers _ _ (by
    simp [sortEntries, lookupEntry_insertEntry, Payload.at?_metadata])

@[simp] theorem name_externalClusterPayload (q : VendorRequest) :
    (externalClusterPayload q).name = q.systemName :=
  Payload.name_ofMembers _ _ (by
    simp [sortEntries, lookupEntry_insertEntry, Payload.at?_metadata])

@[simp] theorem FlashSystem.name_cluster (q : VendorRequest) :
    (FlashSystem.cluster q).name = q.systemName :=
  Payload.name_ofMembers _ _ (by
    simp [sortEntries, lookupEntry_insertEntry, Payload.at?_metadata])

/-! ### Kinds of resources -/

namespace Payload

/-- The specification of a resource is read from its body. -/
theorem at?_spec (model : ResourceModel) (namespaceName : Option String) (metadata spec : Json)
    (path : List String) :
    (ofMembers model namespaceName [("metadata", metadata), ("spec", spec)]).body.at?
      ("spec" :: path) = spec.at? path := by
  rw [at?_ofMembers _ _ _ _ (by decide) (by decide)]
  simp [sortEntries, lookupEntry_insertEntry]

/-- A resource of the key management: the details of its connection, or one of its secrets. -/
def IsKms (p : Payload) : Prop :=
  (p.model = .configMap ∧ p.name = kmsConnectionDetails) ∨
    (p.model = .secret ∧ p.name ∈ [kmsTokenSecret, kmsCaSecret, kmipClientSecret])

/-- A secret of the external database. -/
def IsDatabase (p : Payload) : Prop :=
  p.model = .secret ∧ p.name ∈ [postgresSecret, postgresTlsSecret]

theorem IsDatabase.not_isKms {p : Payload} (h : p.IsDatabase) : ¬ p.IsKms := by
  rintro (⟨hm, _⟩ | ⟨_, hn⟩)
  · rw [h.1] at hm
    exact absurd hm (by decide)
  · have hd := h.2
    simp only [List.mem_cons, List.not_mem_nil, or_false] at hn hd
    rcases hd with hd | hd <;> rw [hd] at hn <;> exact absurd hn (by decide)

/-- The key management has secrets and config maps only. -/
theorem IsKms.model {p : Payload} (h : p.IsKms) : p.model = .configMap ∨ p.model = .secret :=
  h.imp And.left And.left

/-- A cluster outside is named as such in its body. -/
def isExternalCluster (p : Payload) : Bool :=
  (p.body.at? ["spec", "externalStorage"]).isSome

/-- A resource of a vendor: its secret, or what stands for its system. -/
def IsVendor (p : Payload) : Prop :=
  (p.model = .secret ∧ p.name ∈ [externalDetailsSecret, flashSystemSecret]) ∨
    (p.model = .storageCluster ∧ p.isExternalCluster = true) ∨ p.model = .flashSystemCluster

theorem IsVendor.not_isKms {p : Payload} (h : p.IsVendor) : ¬ p.IsKms := by
  intro hk
  rcases h with ⟨hm, hn⟩ | ⟨hm, _⟩ | hm
  · rcases hk with ⟨hm', _⟩ | ⟨_, hn'⟩
    · rw [hm] at hm'
      exact absurd hm' (by decide)
    · simp only [List.mem_cons, List.not_mem_nil, or_false] at hn hn'
      rcases hn with hn | hn <;> rw [hn] at hn' <;> exact absurd hn' (by decide)
  · rcases hk.model with hm' | hm' <;> rw [hm] at hm' <;> exact absurd hm' (by decide)
  · rcases hk.model with hm' | hm' <;> rw [hm] at hm' <;> exact absurd hm' (by decide)

theorem IsVendor.not_isDatabase {p : Payload} (h : p.IsVendor) : ¬ p.IsDatabase := by
  intro hd
  rcases h with ⟨_, hn⟩ | ⟨hm, _⟩ | hm
  · have hn' := hd.2
    simp only [List.mem_cons, List.not_mem_nil, or_false] at hn hn'
    rcases hn with hn | hn <;> rw [hn] at hn' <;> exact absurd hn' (by decide)
  · exact absurd (hm.symm.trans hd.1) (by decide)
  · exact absurd (hm.symm.trans hd.1) (by decide)

/-- The vendors have no other kinds of resources. -/
theorem IsVendor.model {p : Payload} (h : p.IsVendor) :
    p.model = .secret ∨ p.model = .storageCluster ∨ p.model = .flashSystemCluster :=
  h.imp And.left (Or.imp_left And.left)

end Payload

theorem isKms_payloads (k : Kms) (namespaceName : String) :
    ∀ p ∈ k.payloads namespaceName, p.IsKms := by
  unfold Kms.payloads
  cases k.provider with
  | vault =>
    unfold Vault.secrets
    intro p hp
    rw [List.mem_cons, List.mem_append] at hp
    rcases hp with rfl | hp | hp
    · exact .inl ⟨rfl, name_configMap _ _ _⟩
    · cases hauth : k.vault.auth with
      | token =>
        rw [hauth] at hp
        obtain rfl := List.mem_singleton.mp hp
        exact .inr ⟨rfl, by simp⟩
      | kubernetes => rw [hauth] at hp; cases hp
    · cases hca : k.vault.caCert with
      | some ca =>
        rw [hca] at hp
        obtain rfl := List.mem_singleton.mp hp
        exact .inr ⟨rfl, by simp⟩
      | none => rw [hca] at hp; cases hp
  | kmip =>
    intro p hp
    rw [List.mem_cons, List.mem_singleton] at hp
    rcases hp with rfl | rfl
    · exact .inl ⟨rfl, name_configMap _ _ _⟩
    · exact .inr ⟨rfl, by simp [Kmip.secret]⟩

/-- The resources of an external database: the secret with its address, and the one with the client
certificate where there is one. -/
theorem Postgres.cases_of_ok {p : Postgres} {namespaceName : String} {ps : List Payload}
    (h : p.payloads namespaceName = .ok ps) : ∃ address,
      ps = [stringSecret postgresSecret namespaceName address] ∨
      ∃ keys, ps = [stringSecret postgresSecret namespaceName address,
        dataSecret postgresTlsSecret namespaceName keys] := by
  unfold payloads at h
  dsimp only at h
  split_ifs at h
  · split at h
    · cases h
      exact ⟨_, .inr ⟨_, rfl⟩⟩
    · cases h
  · cases h
    exact ⟨_, .inl rfl⟩

theorem isDatabase_payloads {p : Postgres} {namespaceName : String} {ps : List Payload}
    (h : p.payloads namespaceName = .ok ps) : ∀ q ∈ ps, q.IsDatabase := by
  have haddress (data : Dict String) :
      (stringSecret postgresSecret namespaceName data).IsDatabase := ⟨rfl, by simp⟩
  obtain ⟨address, rfl | ⟨keys, rfl⟩⟩ := Postgres.cases_of_ok h
  · intro q hq
    rw [List.mem_singleton.mp hq]
    exact haddress address
  · intro q hq
    rw [List.mem_cons, List.mem_singleton] at hq
    rcases hq with rfl | rfl
    · exact haddress address
    · exact ⟨rfl, by simp⟩

/-- The cluster inside is none outside. -/
theorem StorageCluster.isExternalCluster_payload (c : StorageCluster) :
    c.payload.isExternalCluster = false := by
  unfold Payload.isExternalCluster StorageCluster.payload
  rw [Payload.at?_spec]
  cases c.spec with
  | gateway className database => cases className <;> cases database <;> rfl
  | full stretch _ _ onHostPath _ _ _ nfs _ database =>
    cases stretch <;> cases onHostPath <;> cases database <;> cases nfs <;> rfl

theorem storageCluster_of_payload {s : State} {config : Config} {p : Payload}
    (h : storageClusterPayload s config = .ok p) :
    ∃ cluster, storageCluster s config = .ok cluster ∧ p = cluster.payload := by
  unfold storageClusterPayload at h
  cases hc : storageCluster s config with
  | error e =>
    rw [hc] at h
    cases h
  | ok cluster =>
    rw [hc] at h
    exact ⟨cluster, rfl, (Except.ok.inj h).symm⟩

/-- **A cluster is of one of two kinds.** The object gateway alone has a class if one is chosen; a
full deployment needs one, and has the device set of the settings. -/
theorem storageCluster_cases {s : State} {config : Config} {cluster : StorageCluster}
    (h : storageCluster s config = .ok cluster) :
    cluster.name = config.storageClusterName ∧ cluster.namespaceName = config.namespaceName ∧
      ((s.isMcg = true ∧ cluster.spec = .gateway
          (if s.storageClass.name = "" then none else some s.storageClass.name)
          (GatewayDatabase.ofState s)) ∨
        (s.isMcg = false ∧ s.storageClass.name ≠ "" ∧
          ∃ size profile onHostPath rbdDefault network nfs, cluster.spec = .full
            (if s.capacity.enableArbiter then some s.capacity.arbiterLocation else none) profile
            (isFlexibleScaling s.nodes s.capacity.enableArbiter) onHostPath rbdDefault
            s.security.encryption network nfs (deviceSet s size) (GatewayDatabase.ofState s))) := by
  unfold storageCluster at h
  cases hm : s.isMcg with
  | true =>
    simp only [hm, if_true, String.isEmpty_iff] at h
    cases h
    exact ⟨rfl, rfl, .inl ⟨rfl, rfl⟩⟩
  | false =>
    simp only [hm, Bool.false_eq_true, if_false, String.isEmpty_iff] at h
    by_cases hn : s.storageClass.name = ""
    · rw [if_pos hn] at h
      cases h
    · rw [if_neg hn] at h
      obtain ⟨size, -, rfl⟩ := map_eq_ok_iff.mp h
      exact ⟨rfl, rfl, .inr ⟨rfl, hn, size, _, _, _, _, _, rfl⟩⟩

theorem LocalVolumeForm.model_of_ok {f : LocalVolumeForm} {namespaceName : String} {p : Payload}
    (h : f.payload? namespaceName = .ok p) : p.model = .localVolumeSet := by
  unfold payload? at h
  dsimp only at h
  split_ifs at h
  cases h
  rfl

/-! ### The vendors that are always there -/

/-- Every vendor of the registry is one of those that are always there. -/
def Registry.BuiltIn (r : Registry) : Prop :=
  ∀ v ∈ r.vendors, v = .externalCeph ∨ v = .flashSystem

theorem Registry.builtIn_builtins : Registry.builtins.BuiltIn := by
  have hv : builtins.vendors = [.externalCeph, .flashSystem] := rfl
  intro v hmem
  rwa [hv, List.mem_cons, List.mem_singleton] at hmem

theorem Registry.BuiltIn.of_selected {r : Registry} (hr : r.BuiltIn) {s : State} {v : Vendor}
    (h : r.selected? s = some v) : v = .externalCeph ∨ v = .flashSystem := by
  unfold Registry.selected? at h
  split_ifs at h
  exact hr v (List.mem_of_find?_eq_some h)

theorem Vendor.payloads_externalCeph {q : VendorRequest} {ps : List Payload}
    (h : Vendor.externalCeph.payloads q = .ok ps) : ∃ data,
      ps = [dataSecret externalDetailsSecret q.namespaceName data, externalClusterPayload q] := by
  obtain ⟨_, _, h⟩ := bind_eq_ok_iff.mp h
  exact ⟨_, (Except.ok.inj h).symm⟩

theorem Vendor.payloads_flashSystem {q : VendorRequest} {ps : List Payload}
    (h : Vendor.flashSystem.payloads q = .ok ps) :
    ps = [FlashSystem.credentials q, FlashSystem.cluster q] :=
  (Except.ok.inj h).symm

/-- The cluster of the settings is no resource of a vendor. -/
theorem StorageCluster.not_isVendor_payload (c : StorageCluster) : ¬ c.payload.IsVendor := by
  have hm : c.payload.model = .storageCluster := rfl
  rintro (⟨h, _⟩ | ⟨_, he⟩ | h)
  · exact absurd (hm.symm.trans h) (by decide)
  · rw [c.isExternalCluster_payload] at he
    cases he
  · exact absurd (hm.symm.trans h) (by decide)

/-- The resources of a vendor tell that they are a vendor's. -/
theorem Registry.BuiltIn.isVendor_payloads {r : Registry} (hr : r.BuiltIn) {s : State} {v : Vendor}
    (hv : r.selected? s = some v) {q : VendorRequest} {ps : List Payload}
    (h : v.payloads q = .ok ps) : ∀ p ∈ ps, p.IsVendor := by
  intro p hp
  rcases hr.of_selected hv with rfl | rfl
  · obtain ⟨data, rfl⟩ := Vendor.payloads_externalCeph h
    rw [List.mem_cons, List.mem_singleton] at hp
    rcases hp with rfl | rfl
    · exact .inl ⟨rfl, by simp⟩
    · refine .inr (.inl ⟨rfl, ?_⟩)
      unfold Payload.isExternalCluster externalClusterPayload
      rw [Payload.at?_spec]
      split_ifs <;> rfl
  · rw [Vendor.payloads_flashSystem h, List.mem_cons, List.mem_singleton] at hp
    rcases hp with rfl | rfl
    · exact .inl ⟨rfl, by simp [FlashSystem.credentials]⟩
    · exact .inr (.inr rfl)

/-- A vendor never comes without resources. -/
theorem Registry.BuiltIn.payloads_ne_nil {r : Registry} (hr : r.BuiltIn) {s : State} {v : Vendor}
    (hv : r.selected? s = some v) {q : VendorRequest} {ps : List Payload}
    (h : v.payloads q = .ok ps) : ps ≠ [] := by
  rcases hr.of_selected hv with rfl | rfl
  · obtain ⟨data, rfl⟩ := Vendor.payloads_externalCeph h
    exact List.cons_ne_nil _ _
  · rw [Vendor.payloads_flashSystem h]
    exact List.cons_ne_nil _ _

end StorageSetup
