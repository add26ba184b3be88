import StorageSetup.Proofs.Base64
import StorageSetup.Proofs.DeviceSet
import StorageSetup.Proofs.References
/-!
# Certificates in secrets

A plan puts certificates and private keys into secrets: those of a client of the external database in
base64, those of the key management as they are. The gate of the first step reads the pair for the
database, so a plan of answers holds none that cannot be read. No gate reads what is given for the
key management: the authority of Vault may be missing or any text, and what KMIP needs must not be
blank. Such a plan has only certificates and keys that can be read exactly where those of the key
management can be, or it creates no key management.

Key definitions: `Payload.secretText?`, `Plan.certificates`, `Plan.privateKeys`, `Plan.Inspected`.
Key theorems: `PlanParts.textsAt_plan`, `Gate.pair_of_postgres`, `replay_inspected_iff`.
-/

namespace StorageSetup

/-! ### Texts in secrets -/

/-- The secrets with certificates, each with the key that the certificate stands under. -/
def certificatePlaces : List (String × String) := [
  (postgresTlsSecret, "tls.crt"),
  (kmsCaSecret, "cert"),
  (kmipClientSecret, "CA_CERT"),
  (kmipClientSecret, "CLIENT_CERT")]

/-- The secrets with private keys, each with the key that the private key stands under. -/
def keyPlaces : List (String × String) := [
  (postgresTlsSecret, "tls.key"),
  (kmipClientSecret, "CLIENT_KEY")]

namespace Payload

/-- The text that a secret holds under a key, as it is or in base64. -/
def secretText? (p : Payload) (key : String) : Option String :=
  (p.text? ["stringData", key]).or ((p.text? ["data", key]).bind Text.Base64.decodeText?)

/-- The texts that a secret holds in the places. -/
def textsAt (places : List (String × String)) (p : Payload) : List String :=
  if p.model = .secret then
    places.filterMap fun place => if place.1 = p.name then p.secretText? place.2 else none
  else []

variable {places : List (String × String)} {p : Payload}

theorem textsAt_of_secret (h : p.model = .secret) : p.textsAt places =
    places.filterMap fun place => if place.1 = p.name then p.secretText? place.2 else none :=
  if_pos h

theorem textsAt_of_model (h : p.model ≠ .secret) : p.textsAt places = [] :=
  if_neg h

theorem textsAt_of_name (h : ∀ place ∈ places, place.1 ≠ p.name) : p.textsAt places = [] := by
  unfold textsAt
  split_ifs
  · exact List.filterMap_eq_nil_iff.mpr fun place hplace => if_neg (h place hplace)
  · rfl

end Payload

/-- A secret of texts holds them as they are. -/
theorem secretText?_stringSecret (name namespaceName : String) (data : Dict String) (key : String) :
    (stringSecret name namespaceName data).secretText? key = data.get? key := by
  have htexts : (stringSecret name namespaceName data).text? ["stringData", key] = data.get? key := by
    unfold Payload.text? stringSecret
    rw [Payload.at?_ofMembers _ _ _ _ (by decide) (by decide)]
    have hmember : lookupEntry "stringData" (sortEntries [
        ("metadata", metadata name namespaceName), ("stringData", Json.texts data),
        ("type", .str "Opaque")]) = some (.texts data) := by
      simp [sortEntries, lookupEntry_insertEntry]
    rw [hmember, Option.bind_some, Json.at?, Json.member?_texts]
    cases data.get? key <;> rfl
  have hdata : (stringSecret name namespaceName data).text? ["data", key] = none := by
    unfold Payload.text? stringSecret
    rw [Payload.at?_ofMembers _ _ _ _ (by decide) (by decide)]
    simp [sortEntries, lookupEntry_insertEntry, lookupEntry]
  unfold Payload.secretText?
  rw [htexts, hdata, Option.bind_none, Option.or_none]

/-- A secret in base64 holds the texts that were written. -/
theorem secretText?_dataSecret (name namespaceName : String) (data : Dict String) (key : String) :
    (dataSecret name namespaceName data).secretText? key = data.get? key := by
  have htexts : (dataSecret name namespaceName data).text? ["stringData", key] = none := by
    unfold Payload.text? dataSecret
    rw [Payload.at?_ofMembers _ _ _ _ (by decide) (by decide)]
    simp [sortEntries, lookupEntry_insertEntry, lookupEntry]
  have hdata : (dataSecret name namespaceName data).text? ["data", key] =
      (data.get? key).map Text.Base64.encodeText := by
    unfold Payload.text?
    rw [Json.at?, member?_dataSecret, Option.bind_some, Json.at?, Json.member?_ofDict]
    cases data.get? key <;> rfl
  unfold Payload.secretText?
  rw [htexts, hdata, Option.none_or]
  cases data.get? key with
  | none => rfl
  | some t => exact Text.Base64.decodeText?_encodeText t

theorem textsAt_stringSecret (places : List (String × String)) (name namespaceName : String)
    (data : Dict String) : (stringSecret name namespaceName data).textsAt places =
      places.filterMap fun place => if place.1 = name then data.get? place.2 else none := by
  rw [Payload.textsAt_of_secret rfl]
  simp only [name_stringSecret, secretText?_stringSecret]

theorem textsAt_dataSecret (places : List (String × String)) (name namespaceName : String)
    (data : Dict String) : (dataSecret name namespaceName data).textsAt places =
      places.filterMap fun place => if place.1 = name then data.get? place.2 else none := by
  rw [Payload.textsAt_of_secret rfl]
  simp only [name_dataSecret, secretText?_dataSecret]

/-! ### Secrets of the settings -/

/-- The certificates of the chosen key management. -/
def Kms.certificates (k : Kms) : List String :=
  match k.provider with
  | .vault => k.vault.caCert.toList
  | .kmip => [k.kmip.clientCa, k.kmip.clientCert]

/-- The private keys of the chosen key management. -/
def Kms.privateKeys (k : Kms) : List String :=
  match k.provider with
  | .vault => []
  | .kmip => [k.kmip.clientKey]

theorem Vault.textsAt_secrets (v : Vault) (namespaceName : String) :
    (v.secrets namespaceName).flatMap (·.textsAt certificatePlaces) = v.caCert.toList ∧
      (v.secrets namespaceName).flatMap (·.textsAt keyPlaces) = [] := by
  unfold secrets
  cases v.auth <;> cases v.caCert <;>
    simp [textsAt_stringSecret, certificatePlaces, keyPlaces, postgresTlsSecret, kmsCaSecret,
      kmipClientSecret, kmsTokenSecret, Dict.get?_ofList, sortEntries, lookupEntry_insertEntry]

theorem Kmip.textsAt_secret (k : Kmip) (namespaceName : String) :
    (k.secret namespaceName).textsAt certificatePlaces = [k.clientCa, k.clientCert] ∧
      (k.secret namespaceName).textsAt keyPlaces = [k.clientKey] := by
  unfold secret
  simp [textsAt_stringSecret, certificatePlaces, keyPlaces, postgresTlsSecret, kmsCaSecret,
    kmipClientSecret, Dict.get?_ofList, sortEntries, lookupEntry_insertEntry]

/-- The key management writes its certificates and keys and no others. -/
theorem Kms.textsAt_payloads (k : Kms) (namespaceName : String) :
    (k.payloads namespaceName).flatMap (·.textsAt certificatePlaces) = k.certificates ∧
      (k.payloads namespaceName).flatMap (·.textsAt keyPlaces) = k.privateKeys := by
  have hmap (places : List (String × String)) (name : String) (data : Dict String) :
      (configMap name namespaceName data).textsAt places = [] :=
    Payload.textsAt_of_model (show ResourceModel.configMap ≠ .secret by decide)
  unfold payloads certificates privateKeys
  cases k.provider with
  | vault =>
    simp only [List.flatMap_cons, hmap, List.nil_append]
    exact k.vault.textsAt_secrets namespaceName
  | kmip =>
    simp only [List.flatMap_cons, hmap, List.nil_append, List.flatMap_nil, List.append_nil]
    exact k.kmip.textsAt_secret namespaceName

/-- The database writes the pair of its client, where it has one. -/
theorem Postgres.textsAt_payloads {p : Postgres} {namespaceName : String} {ps : List Payload}
    (h : p.payloads namespaceName = .ok ps) :
    ps.flatMap (·.textsAt certificatePlaces) =
      (if p.usesClientCerts then p.tls.keys.certificate.toList else []) ∧
    ps.flatMap (·.textsAt keyPlaces) =
      (if p.usesClientCerts then p.tls.keys.privateKey.toList else []) := by
  have haddress (data : Dict String) :
      (stringSecret postgresSecret namespaceName data).textsAt certificatePlaces = [] ∧
        (stringSecret postgresSecret namespaceName data).textsAt keyPlaces = [] := by
    constructor <;> exact Payload.textsAt_of_name (by simp only [name_stringSecret]; decide)
  unfold payloads at h
  dsimp only at h
  split_ifs at h with hc
  · rw [if_pos hc, if_pos hc]
    split at h
    · next key certificate hkey hcertificate =>
      cases h
      rw [hkey, hcertificate]
      simp only [List.flatMap_cons, haddress, List.nil_append, List.flatMap_nil, List.append_nil]
      simp [textsAt_dataSecret, certificatePlaces, keyPlaces, postgresTlsSecret, kmsCaSecret,
        kmipClientSecret, Dict.get?_ofList, sortEntries, lookupEntry_insertEntry]
    · cases h
  · cases h
    rw [if_neg hc, if_neg hc]
    simp [haddress]

/-! ### Certificates of a plan -/

/-- The texts that the secrets of the plan hold in the places. -/
def Plan.textsAt (places : List (String × String)) (plan : Plan) : List String :=
  plan.payloads.flatMap (·.textsAt places)

/-- The certificates that the plan puts into secrets. -/
def Plan.certificates (plan : Plan) : List String :=
  plan.textsAt certificatePlaces

/-- The private keys that the plan puts into secrets. -/
def Plan.privateKeys (plan : Plan) : List String :=
  plan.textsAt keyPlaces

/-- The certificates and private keys can be read. -/
def CanBeRead (certificates privateKeys : List String) : Prop :=
  (∀ t ∈ certificates, (Certificate.inspect t).isOk = true) ∧
    ∀ t ∈ privateKeys, isPrivateKeyPem t = true

/-- The certificates and private keys in the secrets of the plan can be read. -/
def Plan.Inspected (plan : Plan) : Prop :=
  CanBeRead plan.certificates plan.privateKeys

/-- A plan for the settings creates a cluster with key management. -/
def State.plansKms (s : State) (c : Context) (r : Registry) : Bool :=
  createsStorageCluster (r.selected? s) c && (s.security.encryption.usesKms && !s.isMcg)

/-- A plan for the settings creates a cluster with a client pair for the external database. -/
def State.plansClientCerts (s : State) (c : Context) (r : Registry) : Bool :=
  createsStorageCluster (r.selected? s) c &&
    (s.backingStorage.useExternalPostgres && s.backingStorage.postgres.usesClientCerts)

namespace PlanParts

variable {s : State} {c : Context} {r : Registry} {config : Config}
  (parts : PlanParts s c r config)

/-- What the secrets of a plan hold in the places is what stands beside the cluster. -/
theorem textsAt_plan (hr : r.BuiltIn) {places : List (String × String)}
    (hplaces : ∀ place ∈ places,
      place.1 ∈ [postgresTlsSecret, kmsCaSecret, kmipClientSecret]) :
    parts.plan.textsAt places = parts.resources.flatMap (·.textsAt places) := by
  have hsystem : parts.system.textsAt places = [] :=
    Payload.textsAt_of_model (show ResourceModel.storageSystem ≠ .secret by decide)
  have hcluster : parts.cluster.flatMap (·.textsAt places) = [] := by
    refine List.flatMap_eq_nil_iff.mpr fun p hp => Payload.textsAt_of_model fun hm => ?_
    have h := parts.model_of_mem_cluster hp
    rw [hm] at h
    exact absurd h (by decide)
  have hvendor : (Plan.mk parts.ops).payloads.flatMap (·.textsAt places) = [] := by
    refine List.flatMap_eq_nil_iff.mpr fun p hp => ?_
    rcases parts.isVendor_of_mem_ops hr p hp with ⟨_, hname⟩ | ⟨hm, _⟩ | hm
    · refine Payload.textsAt_of_name fun place hplace he => ?_
      have h := hplaces place hplace
      rw [he] at h
      simp only [List.mem_cons, List.not_mem_nil, or_false] at hname h
      rcases hname with hname | hname <;> rw [hname] at h <;> exact absurd h (by decide)
    · exact Payload.textsAt_of_model fun h => absurd (hm.symm.trans h) (by decide)
    · exact Payload.textsAt_of_model fun h => absurd (hm.symm.trans h) (by decide)
  unfold Plan.textsAt
  rw [parts.payloads_eq, List.flatMap_append, List.flatMap_append, List.flatMap_cons, hsystem,
    hcluster, hvendor, List.append_nil, List.append_nil, List.append_nil]

theorem textsAt_kmsResources (s : State) (config : Config) :
    (kmsResources s config).flatMap (·.textsAt certificatePlaces) =
      (if s.security.encryption.usesKms && !s.isMcg then s.security.kms.certificates else []) ∧
    (kmsResources s config).flatMap (·.textsAt keyPlaces) =
      (if s.security.encryption.usesKms && !s.isMcg then s.security.kms.privateKeys else []) := by
  unfold kmsResources
  split_ifs
  · exact s.security.kms.textsAt_payloads config.namespaceName
  · exact ⟨rfl, rfl⟩

theorem textsAt_databaseResources {database : List Payload}
    (h : databaseResources s config = .ok database) :
    let p := s.backingStorage.postgres
    let planned := s.backingStorage.useExternalPostgres && p.usesClientCerts
    database.flatMap (·.textsAt certificatePlaces) =
      (if planned then p.tls.keys.certificate.toList else []) ∧
    database.flatMap (·.textsAt keyPlaces) =
      (if planned then p.tls.keys.privateKey.toList else []) := by
  unfold databaseResources at h
  split_ifs at h with hp
  · simpa [hp] using Postgres.textsAt_payloads (ok_of_orPayloadError h)
  · cases h
    simp [hp]

theorem textsAt_volumeResources {volumes : List Payload}
    (h : volumeResources s config = .ok volumes) (places : List (String × String)) :
    volumes.flatMap (·.textsAt places) = [] := by
  refine List.flatMap_eq_nil_iff.mpr fun p hp => Payload.textsAt_of_model fun hm => ?_
  unfold volumeResources at h
  split_ifs at h
  · obtain ⟨set, hset, rfl⟩ := singleton_of_ok h
    obtain rfl := List.mem_singleton.mp hp
    exact absurd (hm.symm.trans (LocalVolumeForm.model_of_ok hset)) (by decide)
  · cases h
    cases hp

/-- **The certificates and private keys of a plan** are those of the key management and those of the
client of the database, where the plan has them. -/
theorem pem_plan (hr : r.BuiltIn) :
    parts.plan.certificates =
      (if s.plansKms c r then s.security.kms.certificates else []) ++
      (if s.plansClientCerts c r then s.backingStorage.postgres.tls.keys.certificate.toList
        else []) ∧
    parts.plan.privateKeys =
      (if s.plansKms c r then s.security.kms.privateKeys else []) ++
      (if s.plansClientCerts c r then s.backingStorage.postgres.tls.keys.privateKey.toList
        else []) := by
  have hcreates : createsStorageCluster (r.selected? s) c = parts.creates := by
    unfold creates
    rw [parts.vendor_eq]
  unfold Plan.certificates Plan.privateKeys State.plansKms State.plansClientCerts
  rw [parts.textsAt_plan hr (by decide), parts.textsAt_plan hr (by decide), hcreates]
  cases hc : parts.creates with
  | false =>
    rw [(parts.nothing_of_not_creates hc).1]
    exact ⟨rfl, rfl⟩
  | true =>
    obtain ⟨database, volumes, hdatabase, hvolumes, hresources⟩ := parts.resources_of_creates hc
    simp only [hresources, List.flatMap_append, textsAt_volumeResources hvolumes, List.append_nil,
      Bool.true_and]
    obtain ⟨hkmsCertificates, hkmsKeys⟩ := textsAt_kmsResources s config
    obtain ⟨hcertificates, hkeys⟩ := textsAt_databaseResources hdatabase
    rw [hkmsCertificates, hkmsKeys, hcertificates, hkeys]
    exact ⟨rfl, rfl⟩

end PlanParts

/-! ### What the gates have read -/

/-- Where the gate of the first step is open, the pair for the database can be read. -/
theorem Gate.pair_of_postgres {p : Postgres} (h : postgres p = .ok ())
    (hc : p.usesClientCerts = true) :
    CanBeRead p.tls.keys.certificate.toList p.tls.keys.privateKey.toList := by
  unfold postgres at h
  rw [check_bind_eq_ok_iff, if_pos hc] at h
  have hk := h.2
  unfold clientKeys at hk
  split at hk
  · next key certificate hkey hcertificate =>
    rw [check_bind_eq_ok_iff, require_eq_ok_iff] at hk
    obtain ⟨hprivate, hinspected⟩ := hk
    rw [hkey, hcertificate]
    refine ⟨List.forall_mem_singleton.mpr ?_, List.forall_mem_singleton.mpr hprivate⟩
    split at hinspected
    · next info hinfo =>
      rw [hinfo]
      rfl
    · cases hinspected
  · cases hk

theorem canBeRead_append {certificates certificates' privateKeys privateKeys' : List String} :
    CanBeRead (certificates ++ certificates') (privateKeys ++ privateKeys') ↔
      CanBeRead certificates privateKeys ∧ CanBeRead certificates' privateKeys' := by
  unfold CanBeRead
  rw [List.forall_mem_append, List.forall_mem_append]
  exact and_and_and_comm

theorem canBeRead_ite {b : Bool} {certificates privateKeys : List String} :
    CanBeRead (if b then certificates else []) (if b then privateKeys else []) ↔
      (b = true → CanBeRead certificates privateKeys) := by
  cases b <;> simp [CanBeRead]

/-- **Which certificates of a plan can be read.** A plan of answers holds the certificates and
private keys of its key management and the pair for its external database. The pair can be read in
every plan. All of them can be read exactly where those of the key management can be, or the plan
creates none. -/
theorem replay_inspected_iff {c : Context} {r : Registry} (hr : r.BuiltIn) {a : Answers}
    {i : Inventory} {config : Config} {w : Session} {plan : Plan}
    (h : replay (.new c r) a i config = .ok (w, plan)) :
    let kms := w.state.security.kms
    let keys := w.state.backingStorage.postgres.tls.keys
    (plan.certificates = (if w.state.plansKms c r then kms.certificates else []) ++
        (if w.state.plansClientCerts c r then keys.certificate.toList else []) ∧
      plan.privateKeys = (if w.state.plansKms c r then kms.privateKeys else []) ++
        (if w.state.plansClientCerts c r then keys.privateKey.toList else [])) ∧
    (w.state.plansClientCerts c r = true →
      CanBeRead keys.certificate.toList keys.privateKey.toList) ∧
    (plan.Inspected ↔
      (w.state.plansKms c r = true → CanBeRead kms.certificates kms.privateKeys)) := by
  intro kms keys
  obtain ⟨hp, hl, _, hregistry, hplan⟩ := passed_of_replay h
  obtain ⟨parts, rfl⟩ := exists_planParts hplan
  obtain ⟨hcertificates, hprivate⟩ := parts.pem_plan hr
  have hpair : w.state.plansClientCerts c r = true →
      CanBeRead keys.certificate.toList keys.privateKey.toList := by
    intro hc
    unfold State.plansClientCerts at hc
    simp only [Bool.and_eq_true] at hc
    obtain ⟨_, hdatabase, hclient⟩ := hc
    have hgate : checkStep .backingStorage w.state w.registry = .ok () :=
      (checkBoth_eq_ok_iff.mp (hp.all_open hl _ (backing_mem_stepNames _ _ _))).1
    have hopen := (Gate.backingStorage_eq_ok_iff.mp hgate).2 hdatabase
    exact Gate.pair_of_postgres hopen hclient
  refine ⟨⟨hcertificates, hprivate⟩, hpair, ?_⟩
  unfold Plan.Inspected
  rw [hcertificates, hprivate, canBeRead_append, canBeRead_ite, canBeRead_ite]
  exact and_iff_left hpair

/-! ### An authority that is no certificate -/

/-- Answers for a full deployment on local devices that keeps its keys in a Vault with the text as
its authority. -/
def Answers.withAuthority (authority : String) : Answers where
  nodes := ["n1", "n2", "n3", "n4"]
  actions := [Action.setBackingType .localDevices, .setLocalVolumes (.name "localblock"),
    .setEncryption { clusterWide := true, advanced := true },
    .setKms { vault := { name := "vault", address := "https://vault", token := "t",
                         caCert := some authority } }].map Action.toJson

/-- The run ends with a plan that has key management, and whose secrets hold the certificates. -/
def plansCertificates (certificates : List String) :
    Except ReplayError (Session × Plan) → Bool
  | .ok (w, plan) => w.state.plansKms {} .builtins &&
    w.state.security.kms.certificates == certificates && plan.certificates == certificates
  | .error _ => false

theorem exists_run_of_plansCertificates {certificates : List String}
    {x : Except ReplayError (Session × Plan)} (h : plansCertificates certificates x = true) :
    ∃ w plan, x = .ok (w, plan) ∧ w.state.plansKms {} .builtins = true ∧
      w.state.security.kms.certificates = certificates ∧ plan.certificates = certificates := by
  unfold plansCertificates at h
  split at h
  · next w plan =>
    simp only [Bool.and_eq_true, beq_iff_eq] at h
    exact ⟨w, plan, rfl, h.1.1, h.1.2, h.2⟩
  · cases h

theorem inspect_authority : (Certificate.inspect "authority").isOk = false := by
  decide

/-- The run with a text as authority passes every gate. -/
theorem exists_run_withAuthority : ∃ w plan,
    replay (.new {} .builtins) (.withAuthority "authority") .twoZones {} = .ok (w, plan) ∧
    w.state.plansKms {} .builtins = true ∧
    w.state.security.kms.certificates = ["authority"] ∧ plan.certificates = ["authority"] :=
  exists_run_of_plansCertificates (by decide +kernel)

theorem replay_inspected_iff_withAuthority : Registry.builtins.BuiltIn ∧ ∃ w plan,
    replay (.new {} .builtins) (.withAuthority "authority") .twoZones {} = .ok (w, plan) ∧
    w.state.plansKms {} .builtins = true ∧ ¬ plan.Inspected := by
  obtain ⟨w, plan, h, hkms, hcertificates, _⟩ := exists_run_withAuthority
  refine ⟨Registry.builtIn_builtins, w, plan, h, hkms, ?_⟩
  rw [(replay_inspected_iff Registry.builtIn_builtins h).2.2]
  intro hread
  have hbad := (hread hkms).1 "authority" (by rw [hcertificates]; exact List.mem_singleton_self _)
  exact absurd (inspect_authority.symm.trans hbad) Bool.false_ne_true

/-- A plan may put a text into a secret for certificates that is none. -/
theorem not_replay_inspected : ¬ ∀ (a : Answers) (i : Inventory) (config : Config) (w : Session)
    (plan : Plan), replay (.new {} .builtins) a i config = .ok (w, plan) → plan.Inspected := by
  intro hall
  obtain ⟨w, plan, h, _, _, hcertificates⟩ := exists_run_withAuthority
  have hbad := (hall _ _ _ w plan h).1 "authority"
    (by rw [hcertificates]; exact List.mem_singleton_self _)
  exact absurd (inspect_authority.symm.trans hbad) Bool.false_ne_true

end StorageSetup
