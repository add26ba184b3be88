import StorageSetup.Proofs.Base64
import StorageSetup.Proofs.Resources
/-!
# Verbatim secrets

A secret in base64 holds the bytes of its texts, each under its key, and nothing else. The details
of an external cluster are only looked at before they are put into such a secret: where the form
takes a text, the secret holds that text, and not another one with the same meaning.

Key definitions: `Payload.decodedData?`.
Key theorems: `decodedData?_dataSecret`, `Vendor.details_of_payloads`, `secrets_verbatim`.
-/

namespace StorageSetup

open Text.Base64

/-! ### Secrets in base64 -/

/-- The bytes that a secret holds in base64, each under its key. There are none where a value is no
standard text. -/
def Payload.decodedData? (p : Payload) : Option (List (String × List UInt8)) :=
  match p.body.member? "data" with
  | some (.obj entries) => entries.mapM fun e => do
    let text ← e.2.string?
    let bytes ← decodeStandard? text.toList
    some (e.1, bytes)
  | _ => none

theorem decodeStandard?_encodeText (s : String) :
    decodeStandard? (encodeText s).toList = some (utf8 s) := by
  unfold encodeText
  rw [String.toList_ofList, decodeStandard?_eq_some_iff]

/-- **A secret holds its texts byte for byte**, under their keys and no others. -/
theorem decodedData?_dataSecret (name namespaceName : String) (data : Dict String) :
    (dataSecret name namespaceName data).decodedData? =
      some (data.entries.map fun e => (e.1, utf8 e.2)) := by
  unfold Payload.decodedData?
  rw [member?_dataSecret]
  unfold Json.ofDict
  dsimp only
  induction data.entries with
  | nil => rfl
  | cons e entries ih =>
    rw [List.map_cons, List.mapM_cons, ih]
    simp [Json.string?, decodeStandard?_encodeText]

/-! ### The details of an external cluster -/

theorem decodedData?_detailsSecret (namespaceName raw : String) :
    (detailsSecret namespaceName raw).decodedData? =
      some [("external_cluster_details", utf8 raw)] :=
  decodedData?_dataSecret _ _ _

theorem isOk_readClusterDetails_empty : (readClusterDetails "").isOk = false :=
  rfl

/-- Only from details that can be read are resources built. -/
theorem Vendor.details_of_payloads {q : VendorRequest} {ps : List Payload}
    (h : externalCeph.payloads q = .ok ps) :
    ∃ raw, q.form.get? clusterDetailsField = some raw ∧ (readClusterDetails raw).isOk = true := by
  obtain ⟨details, hdetails, -⟩ := bind_eq_ok_iff.mp h
  cases hraw : q.form.get? clusterDetailsField with
  | some raw =>
    rw [hraw, Option.getD_some] at hdetails
    exact ⟨raw, rfl, by rw [hdetails]; rfl⟩
  | none =>
    -- a form without a text counts as one with the empty text, which is no list of resources
    rw [hraw, Option.getD_none] at hdetails
    have hempty := isOk_readClusterDetails_empty
    rw [hdetails] at hempty
    cases hempty

/-- **Secrets are verbatim.** Read back from base64, a secret has the keys of the texts that it was
made of and the bytes of each. The form of an external cluster is complete exactly where its
resources can be built, and then the secret with the details has the bytes of the text in the form,
blanks and order of members included. -/
theorem secrets_verbatim :
    (∀ (name namespaceName : String) (data : Dict String),
      (dataSecret name namespaceName data).decodedData? =
        some (data.entries.map fun e => (e.1, utf8 e.2))) ∧
    ∀ (q : VendorRequest) (className : String),
      Vendor.externalCeph.isComplete q.form className = true ↔
        ∃ raw secret, q.form.get? clusterDetailsField = some raw ∧
          Vendor.externalCeph.payloads q = .ok [secret, externalClusterPayload q] ∧
          secret.model = .secret ∧ secret.name = externalDetailsSecret ∧
          secret.decodedData? = some [("external_cluster_details", utf8 raw)] := by
  refine ⟨decodedData?_dataSecret, fun q className => ?_⟩
  rw [Vendor.isComplete_externalCeph_iff]
  constructor
  · rintro ⟨raw, hraw, hread⟩
    exact ⟨raw, detailsSecret q.namespaceName raw, hraw, Vendor.payloads_of_details hraw hread, rfl,
      name_dataSecret _ _ _, decodedData?_detailsSecret _ _⟩
  · rintro ⟨raw, secret, -, hpayloads, -⟩
    exact Vendor.details_of_payloads hpayloads

/-- Details over two lines, with a member that nobody reads and a letter of two bytes. -/
def someDetails : String :=
  "[ \x7b\"kind\": \"Secret\", \"name\": \"rook-ceph-mon\",\n   " ++
    "\"data\": \x7b\"userID\": \"d\u00e9p\u00f4t\"\x7d, \"since\": 1.0\x7d ]"

theorem secrets_verbatim_someDetails :
    let q : VendorRequest := {
      systemName := "ocs-external-storagecluster", namespaceName := "openshift-storage",
      storageClassName := "", form := .ofList [(clusterDetailsField, someDetails)],
      inTransitEncryption := false }
    Vendor.externalCeph.isComplete q.form q.storageClassName = true ∧
      ∃ secret, Vendor.externalCeph.payloads q = .ok [secret, externalClusterPayload q] ∧
        secret.decodedData? = some [("external_cluster_details", utf8 someDetails)] := by
  intro q
  have hcomplete : Vendor.externalCeph.isComplete q.form q.storageClassName = true := by
    decide +kernel
  obtain ⟨raw, secret, hraw, hpayloads, -, -, hdata⟩ :=
    (secrets_verbatim.2 q q.storageClassName).mp hcomplete
  obtain rfl : someDetails = raw := Option.some.inj hraw
  exact ⟨hcomplete, secret, hpayloads, hdata⟩

end StorageSetup
