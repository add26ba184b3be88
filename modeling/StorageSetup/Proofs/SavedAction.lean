import StorageSetup.Proofs.Codec
import StorageSetup.Wizard.Action
/-!
# Saved actions

The saved form of an action is read back as the action, as long as the CPUs of its nodes are numbers
that can be written. The type in the saved form is the tag of the action. What is read from a saved
form has the tag that stands there, every refusal names it, and a tag that is not one of an action is
refused.

Key definitions: `Action.Writable`, `Action.Stands`.
Key theorems: `Action.reads_payload`, `Action.stands_variants`, `Action.codec`.
-/

namespace StorageSetup

open Json (Reads reads_coded reads_record reads_tagged)

/-! ### Choices -/

theorem BackingType.reads (b : BackingType) : Reads decode (.str b.code) b :=
  reads_coded (by decide) (by cases b <;> decide)

theorem Deployment.reads (d : Deployment) : Reads decode (.str d.code) d :=
  reads_coded (by decide) (by cases d <;> decide)

theorem ResourceProfile.reads (p : ResourceProfile) : Reads decode (.str p.code) p :=
  reads_coded (by decide) (by cases p <;> decide)

theorem NetworkType.reads (n : NetworkType) : Reads decode (.str n.code) n :=
  reads_coded (by decide) (by cases n <;> decide)

theorem DiskType.reads (d : DiskType) : Reads decode (.str d.code) d :=
  reads_coded (by decide) (by cases d <;> decide)

theorem DeviceType.reads (d : DeviceType) : Reads decode (.str d.code) d :=
  reads_coded (by decide) (by cases d <;> decide)

theorem SizeUnit.reads (u : SizeUnit) : Reads decode (.str u.code) u :=
  reads_coded (by decide) (by cases u <;> decide)

@[simp] theorem KmsProvider.reads (p : KmsProvider) : Reads decode (.str p.code) p :=
  reads_coded (by decide) (by cases p <;> decide)

@[simp] theorem VaultAuth.reads (a : VaultAuth) : Reads decode (.str a.code) a :=
  reads_coded (by decide) (by cases a <;> decide)

/-! ### Records -/

section

open Json Fields

theorem StorageClass.reads (c : StorageClass) : Reads decode c.toJson c := by
  refine (reads_record (c.name, c.provisioner, ()) ?_ ?_ ?_).bind rfl <;>
    simp [names, Holds, required]

theorem FieldChange.reads (c : FieldChange) : Reads decode c.toJson c := by
  refine (reads_record (c.field, c.value, ()) ?_ ?_ ?_).bind rfl <;> simp [names, Holds, required]

theorem PostgresKeys.reads (k : PostgresKeys) : Reads decode k.toJson k := by
  refine (reads_record (k.privateKey, k.certificate, ()) ?_ ?_ ?_).bind rfl <;>
    simp [names, Holds, nullable]

theorem Encryption.reads (e : Encryption) : Reads decode e.toJson e := by
  refine (reads_record (e.inTransit, e.clusterWide, e.storageClass, e.advanced, e.hasHandled, ())
    ?_ ?_ ?_).bind rfl <;> simp [names, Holds, required]

@[simp] theorem Vault.reads (v : Vault) : Reads decode v.toJson v := by
  refine (reads_record (v.name, v.address, v.port, v.auth, v.token, v.role, v.backend,
    v.tlsServerName, v.providerNamespace, v.caCert, ()) ?_ ?_ ?_).bind rfl <;>
    simp [names, Holds, required, nullable]

@[simp] theorem Kmip.reads (k : Kmip) : Reads decode k.toJson k := by
  refine (reads_record (k.name, k.address, k.port, k.tlsServerName, k.uniqueIdentifier, k.clientCa,
    k.clientCert, k.clientKey, ()) ?_ ?_ ?_).bind rfl <;> simp [names, Holds, required]

theorem Kms.reads (k : Kms) : Reads decode k.toJson k := by
  refine (reads_record (k.provider, k.vault, k.kmip, k.hasHandled, ()) ?_ ?_ ?_).bind rfl <;>
    simp [names, Holds, required]

/-- An empty value is left out of a taint, and is the value of a missing one. -/
theorem Taint.reads (t : Taint) : Reads decode t.toJson t := by
  by_cases hv : t.value = "" <;>
    refine (reads_record (t.key, t.value, t.effect, ()) ?_ ?_ ?_).bind rfl <;>
    simp [names, Holds, required, defaulted, hv]

theorem Node.reads (n : Node) (h : n.cpu.isFinite = true) : Reads decode n.toJson n := by
  have hcpu := reads_float h
  have hlabels : Reads (dict text) (texts n.labels) n.labels :=
    reads_dict n.labels fun e _ => reads_text e.2
  have htaints := reads_list n.taints fun t _ => t.reads
  refine (reads_record (n.name, n.hostName, n.cpu, n.memory.toNat, n.zone, n.rack, n.uid, n.roles,
    n.labels, n.taints, ()) ?_ ?_ ?_).bind ?_
  · simp [names, required]
  · simp
  · simp [Holds, required, hcpu, hlabels, htaints]
  · simp only [UInt64.ofNat_toNat]

end

/-! ### Changes of the local volume form -/

theorem LocalVolumeForm.reads_names (s : NameSet) : Reads decodeNames (.strings s.names) s := by
  have h := (Json.reads_strings s.names).map NameSet.ofList
  rwa [s.ofList_names] at h

theorem DeviceType.reads_list (l : List DeviceType) :
    Reads (Json.list decode) (.strings (l.map code)) l := by
  unfold Json.strings
  rw [List.map_map]
  exact Json.reads_list l fun d _ => d.reads

theorem VolumeChange.reads (c : VolumeChange) : Reads decode c.toJson c := by
  cases c with
  | name v => exact reads_tagged rfl rfl rfl ((Json.reads_text v).map name)
  | diskType v => exact reads_tagged rfl rfl rfl (v.reads.map diskType)
  | deviceTypes v => exact reads_tagged rfl rfl rfl ((DeviceType.reads_list v).map deviceTypes)
  | minDiskSize v =>
    have h := (Json.reads_word64 v).map fun n => minDiskSize (UInt64.ofNat n)
    rw [UInt64.ofNat_toNat] at h
    exact reads_tagged rfl rfl rfl h
  | maxDiskSize v => exact reads_tagged rfl rfl rfl ((Json.reads_text v).map maxDiskSize)
  | sizeUnit v => exact reads_tagged rfl rfl rfl (v.reads.map sizeUnit)
  | maxDiskLimit v => exact reads_tagged rfl rfl rfl ((Json.reads_text v).map maxDiskLimit)
  | selectNodes v => exact reads_tagged rfl rfl rfl ((Json.reads_boolean v).map selectNodes)
  | selectedNodes v => exact reads_tagged rfl rfl rfl ((Json.reads_strings v).map selectedNodes)
  | chartNodes v =>
    exact reads_tagged rfl rfl rfl ((LocalVolumeForm.reads_names v).map chartNodes)

instance : Inhabited VolumeChange := ⟨.name ""⟩

namespace Action

/-! ### Reading back -/

/-- The CPUs of the nodes that the action carries are numbers that can be written. -/
def Writable : Action → Prop
  | setNodes nodes => ∀ n ∈ nodes, n.cpu.isFinite = true
  | _ => True

/-- The name in the saved form is the tag. -/
theorem typeName_eq_tag (a : Action) : a.typeName = a.tag := by
  cases a <;> rfl

/-- The payload is read back by the reader that stands beside the name. -/
theorem reads_payload (a : Action) (h : a.Writable) :
    ∃ c, lookupEntry a.typeName variants = some c ∧ Reads c.decode a.payload a := by
  cases a with
  | setStepIdReached v =>
    have hv := (Json.reads_word32 v).map fun n => setStepIdReached (UInt32.ofNat n)
    rw [UInt32.ofNat_toNat] at hv
    exact ⟨_, rfl, hv⟩
  | setStorageClass v => exact ⟨_, rfl, v.reads.map _⟩
  | setNodes v => exact ⟨_, rfl, (Json.reads_list v fun n hn => n.reads (h n hn)).map _⟩
  | setCreateStorageClass v => exact ⟨_, rfl, v.reads.map _⟩
  | setConnectionDetails v => exact ⟨_, rfl, v.reads.map _⟩
  | setLocalVolumes v => exact ⟨_, rfl, v.reads.map _⟩
  | setBackingType v => exact ⟨_, rfl, v.reads.map _⟩
  | setDeployment v => exact ⟨_, rfl, v.reads.map _⟩
  | setPostgresKeys v => exact ⟨_, rfl, v.reads.map _⟩
  | setPvCount v =>
    have hv := (Json.reads_word32 v).map fun n => setPvCount (UInt32.ofNat n)
    rw [UInt32.ofNat_toNat] at hv
    exact ⟨_, rfl, hv⟩
  | setResourceProfile v => exact ⟨_, rfl, v.reads.map _⟩
  | setEncryption v => exact ⟨_, rfl, v.reads.map _⟩
  | setKms v => exact ⟨_, rfl, v.reads.map _⟩
  | setNetworkType v => exact ⟨_, rfl, v.reads.map _⟩
  | setCapacity v => exact ⟨_, rfl, (Json.reads_ofOption v).map _⟩
  | setPublicNetwork v => exact ⟨_, rfl, (Json.reads_ofOption v).map _⟩
  | setClusterNetwork v => exact ⟨_, rfl, (Json.reads_ofOption v).map _⟩
  | enableNfs v => exact ⟨_, rfl, (Json.reads_boolean v).map _⟩
  | setRbdClassDefault v => exact ⟨_, rfl, (Json.reads_boolean v).map _⟩
  | useExternalPostgres v => exact ⟨_, rfl, (Json.reads_boolean v).map _⟩
  | setPostgresTls v => exact ⟨_, rfl, (Json.reads_boolean v).map _⟩
  | setPostgresAllowSelfSigned v => exact ⟨_, rfl, (Json.reads_boolean v).map _⟩
  | setPostgresClientCerts v => exact ⟨_, rfl, (Json.reads_boolean v).map _⟩
  | enableArbiter v => exact ⟨_, rfl, (Json.reads_boolean v).map _⟩
  | enableTaint v => exact ⟨_, rfl, (Json.reads_boolean v).map _⟩
  | enableRdrPreparation v => exact ⟨_, rfl, (Json.reads_boolean v).map _⟩
  | setExternalStorage v => exact ⟨_, rfl, (Json.reads_text v).map _⟩
  | setPostgresUsername v => exact ⟨_, rfl, (Json.reads_text v).map _⟩
  | setPostgresPassword v => exact ⟨_, rfl, (Json.reads_text v).map _⟩
  | setPostgresServerName v => exact ⟨_, rfl, (Json.reads_text v).map _⟩
  | setPostgresPort v => exact ⟨_, rfl, (Json.reads_text v).map _⟩
  | setPostgresDatabaseName v => exact ⟨_, rfl, (Json.reads_text v).map _⟩
  | setArbiterLocation v => exact ⟨_, rfl, (Json.reads_text v).map _⟩

theorem reads (a : Action) (h : a.Writable) : Reads decode a.toJson a := by
  obtain ⟨c, hc, hpayload⟩ := a.reads_payload h
  exact reads_tagged rfl rfl hc hpayload

/-! ### Tags -/

/-- A reader stands beside a tag: all that it reads has the tag, and an action has it. -/
structure Stands (name : String) (c : Json.Content Action) : Prop where
  yields : c.Yields (·.tag = name)
  exists_tag : ∃ a : Action, a.tag = name

theorem stands_content {α : Type} [Inhabited α] {d : Json.Decoder α} {f : α → Action}
    {name : String} (h : ∀ x, (f x).tag = name) : Stands name (content d f) where
  yields := {
    decode := fun r v a ha => by
      change (d r v).map f = .ok a at ha
      cases hd : d r v with
      | error e =>
        rw [hd] at ha
        cases ha
      | ok x =>
        rw [hd] at ha
        cases ha
        exact h x
    absent := nofun }
  exists_tag := ⟨f default, h default⟩

theorem stands_maybeText {f : Option String → Action} {name : String} (h : ∀ x, (f x).tag = name) :
    Stands name (maybeText f) where
  yields := {
    decode := (stands_content (d := Json.optional Json.text) h).yields.decode
    absent := fun a ha => by
      cases ha
      exact h none }
  exists_tag := ⟨f none, h none⟩

/-- **Every reader stands beside the tag of what it reads.** -/
theorem stands_variants : ∀ e ∈ variants, Stands e.1 e.2 := by
  simp only [variants, List.forall_mem_cons, List.not_mem_nil, false_implies, implies_true,
    and_true]
  and_intros
  all_goals first
    | exact stands_content fun _ => rfl
    | exact stands_maybeText fun _ => rfl

theorem lookup_of_not_tag {t : String} (h : ∀ a : Action, a.tag ≠ t) :
    lookupEntry t variants = none := by
  cases hc : lookupEntry t variants with
  | none => rfl
  | some c =>
    obtain ⟨a, ha⟩ := (stands_variants _ (mem_of_lookupEntry hc)).exists_tag
    exact absurd ha (h a)

/-- **Actions are read back from their saved forms, and tags decide what is read.** The saved form
carries the tag of the action under `type`, and is read back as the action where the CPUs of its
nodes can be written. From any saved form with a text under `type` an action of this tag is read,
or the refusal names this tag; and where it is the tag of no action, it is refused as unknown. -/
theorem codec :
    (∀ a : Action, a.toJson.member? "type" = some (.str a.tag) ∧
      (a.Writable → ofJson a.toJson = .ok a)) ∧
    ∀ (v : Json) (t : String), v.member? "type" = some (.str t) →
      (∀ a, ofJson v = .ok a → a.tag = t) ∧ (∀ e, ofJson v = .error e → e.tag = some t) ∧
      ((∀ a : Action, a.tag ≠ t) →
        ofJson v = .error ⟨some t, .unknownVariant t (variants.map (·.1))⟩) := by
  refine ⟨fun a => ⟨?_, fun h => ?_⟩, fun v t ht => ?_⟩
  · rw [← a.typeName_eq_tag]
    rfl
  · unfold ofJson
    rw [a.reads h]
  · obtain ⟨ms, rfl⟩ : ∃ ms, v = .obj ms := by
      cases v with
      | obj ms => exact ⟨ms, rfl⟩
      | _ => cases ht
    refine ⟨fun a ha => ?_, fun e he => ?_, fun hunknown => ?_⟩
    · have hdecode : decode .direct (.obj ms) = .ok a := by
        unfold ofJson at ha
        split at ha
        · next hd =>
          cases ha
          exact hd
        · cases ha
      exact Json.yields_of_tagged (p := fun name a => a.tag = name)
        (fun e he => (stands_variants e he).yields) ht hdecode
    · unfold ofJson at he
      split at he
      · cases he
      · cases he
        rw [ht]
        rfl
    · have hdecode : decode .direct (.obj ms) =
          .error (.unknownVariant t (variants.map (·.1))) :=
        Json.tagged_of_unlisted ht (lookup_of_not_tag hunknown) .direct
      unfold ofJson
      rw [hdecode, ht]
      rfl

/-- A choice of one node. -/
def chooseOne : Action :=
  setNodes [{ name := "n1", cpu := 16.0, labels := .ofList [("zone", "z1")], taints := [.storage] }]

theorem codec_chooseOne : chooseOne.Writable ∧ ofJson chooseOne.toJson = .ok chooseOne ∧
    (∀ a : Action, a.tag ≠ "wizard/setNodes") ∧
    ofJson (.obj [("type", .str "wizard/setNodes")]) =
      .error ⟨some "wizard/setNodes", .unknownVariant "wizard/setNodes" (variants.map (·.1))⟩ := by
  have hw : chooseOne.Writable := by
    intro n hn
    rw [List.mem_singleton.mp hn]
    decide
  have ht : ∀ a : Action, a.tag ≠ "wizard/setNodes" := by
    intro a
    cases a <;> simp [tag]
  exact ⟨hw, (codec.1 chooseOne).2 hw, ht,
    (codec.2 (.obj [("type", .str "wizard/setNodes")]) "wizard/setNodes" rfl).2.2 ht⟩

end Action

end StorageSetup
