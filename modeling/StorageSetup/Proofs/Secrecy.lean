import StorageSetup.Proofs.Editor
/-!
# What the forms show of secrets

Passwords, keys and the documents of vendors are among the settings, and the forms have rows for
them. A row shows no more of a secret than the number of its characters, and of a document than the
number of its bytes: two walks that differ in nothing but secrets of the same sizes have the same
forms on all steps, whatever the vendor and the inventory are.

Key definitions: `Secrets`, `Secrets.Alike`, `Session.DifferInSecrets`, `Row.view`,
`Form.ShowSame`.
Key theorems: `Form.showSame_postgresRows`, `Form.showSame_securityRows`,
`Form.showSame_vendorRows`, `Form.rows_view_eq`.
-/

namespace StorageSetup

/-! ### Secrets -/

/-- The settings that hold secrets. The values of the vendors' forms are among them as a whole,
since the vendor says which of its fields are secret. -/
structure Secrets where
  password : String
  keys : PostgresKeys
  token : String
  clientCa : String
  clientCert : String
  clientKey : String
  formValues : FormStep → FormValues

def State.secrets (s : State) : Secrets where
  password := s.backingStorage.postgres.password
  keys := s.backingStorage.postgres.tls.keys
  token := s.security.kms.vault.token
  clientCa := s.security.kms.kmip.clientCa
  clientCert := s.security.kms.kmip.clientCert
  clientKey := s.security.kms.kmip.clientKey
  formValues := s.formValues

/-- The connection with another password and other keys. -/
def Postgres.withSecrets (pg : Postgres) (x : Secrets) : Postgres :=
  { pg with password := x.password, tls := { pg.tls with keys := x.keys } }

/-- The service with another token and another identity of the client. -/
def Kms.withSecrets (k : Kms) (x : Secrets) : Kms :=
  { k with
    vault := { k.vault with token := x.token }
    kmip := { k.kmip with
      clientCa := x.clientCa
      clientCert := x.clientCert
      clientKey := x.clientKey } }

/-- The same settings with other secrets. -/
def State.withSecrets (s : State) (x : Secrets) : State :=
  { s with
    backingStorage := { s.backingStorage with
      postgres := s.backingStorage.postgres.withSecrets x }
    createStorageClass := x.formValues .createStorageClass
    connectionDetails := x.formValues .connectionDetails
    security := { s.security with kms := s.security.kms.withSecrets x } }

/-- What the values of a field have in common where the field shows the same. -/
def FieldKind.Alike : FieldKind → String → String → Prop
  | secret, value, value' => value.length = value'.length
  | json, value, value' => value.utf8ByteSize = value'.utf8ByteSize
  | text, value, value' | choice _, value, value' => value = value'

instance : ∀ (kind : FieldKind) (value value' : String), Decidable (kind.Alike value value')
  | .secret, value, value' => inferInstanceAs (Decidable (value.length = value'.length))
  | .json, value, value' => inferInstanceAs (Decidable (value.utf8ByteSize = value'.utf8ByteSize))
  | .text, value, value' | .choice _, value, value' => inferInstanceAs (Decidable (value = value'))

/-- The secrets have the same sizes, in characters and for documents in bytes, and the fields of the
form that are not secret have the same values. A missing value of a form counts as an empty one. -/
structure Secrets.Alike (form : List FormField) (x y : Secrets) : Prop where
  password : x.password.length = y.password.length
  privateKey : x.keys.privateKey.map String.utf8ByteSize = y.keys.privateKey.map String.utf8ByteSize
  certificate :
    x.keys.certificate.map String.utf8ByteSize = y.keys.certificate.map String.utf8ByteSize
  token : x.token.length = y.token.length
  clientCa : x.clientCa.length = y.clientCa.length
  clientCert : x.clientCert.length = y.clientCert.length
  clientKey : x.clientKey.length = y.clientKey.length
  formValues : ∀ step, ∀ field ∈ form, field.kind.Alike
    (((x.formValues step).get? field.id).getD "") (((y.formValues step).get? field.id).getD "")

/-- The fields of the chosen vendor's form. -/
def Session.vendorForm (w : Session) : List FormField :=
  ((w.registry.selected? w.state).map (·.form)).getD []

/-- The walks are equal but for their secrets, which are alike. -/
structure Session.DifferInSecrets (w w' : Session) : Prop where
  same : w' = { w with state := w.state.withSecrets w'.state.secrets }
  alike : w.state.secrets.Alike w.vendorForm w'.state.secrets

/-! ### What a row shows -/

/-- What a form shows of a row. -/
structure RowView where
  label : String
  display : String
  isEditable : Bool
  isSecret : Bool
  /-- The text that an editor opens on, as the row shows it. -/
  opened : Option String
  deriving DecidableEq

namespace Row

def view (row : Row) : RowView where
  label := row.label
  display := row.display
  isEditable := row.isEditable
  isSecret := row.isSecret
  opened := match row.edit with
    | .text value _ _ => some (row.shown value)
    | _ => none

end Row

/-- A masked text shows the number of its characters. -/
theorem mask_eq_iff {value value' : String} :
    mask value = mask value' ↔ value.length = value'.length := by
  unfold mask Text.fill
  rw [String.ofList_inj, List.replicate_left_inj]

namespace Row

variable {label : String}

theorem view_secret {value value' : String} (h : value.length = value'.length)
    {apply apply' : String → List Action} :
    (secret label value apply).view = (secret label value' apply').view := by
  show RowView.mk label (mask value) true true (some (mask value ++ "_")) = _
  rw [mask_eq_iff.mpr h]
  rfl

/-- A document shows the number of its bytes. -/
theorem view_document {loaded loaded' : Option String}
    (h : loaded.map String.utf8ByteSize = loaded'.map String.utf8ByteSize)
    {apply apply' : String → List Action} :
    (document label loaded apply).view = (document label loaded' apply').view := by
  cases loaded <;> cases loaded'
  · rfl
  · cases h
  · cases h
  · unfold document view
    dsimp only
    rw [Option.some.inj h]
    rfl

end Row

/-! ### The forms -/

namespace Form

/-- Two forms show the same. -/
def ShowSame (rows rows' : List Row) : Prop :=
  rows.map Row.view = rows'.map Row.view

namespace ShowSame

variable {row row' : Row} {rows rows' more more' : List Row}

theorem refl (rows : List Row) : ShowSame rows rows :=
  rfl

theorem cons (h : row.view = row'.view) (hs : ShowSame rows rows') :
    ShowSame (row :: rows) (row' :: rows') := by
  unfold ShowSame
  rw [List.map_cons, List.map_cons, h, hs]

theorem append (h : ShowSame rows rows') (hs : ShowSame more more') :
    ShowSame (rows ++ more) (rows' ++ more') := by
  unfold ShowSame
  rw [List.map_append, List.map_append, h, hs]

theorem ite (on : Bool) (h : ShowSame rows rows') (hs : ShowSame more more') :
    ShowSame (if on then rows else more) (if on then rows' else more') := by
  cases on
  · exact hs
  · exact h

end ShowSame

variable {x : Secrets} {form : List FormField} {s : State} {w : Session}

/-- **The connection to the database shows the sizes of its secrets.** -/
theorem showSame_postgresRows (h : s.secrets.Alike form x) :
    ShowSame (postgresRows s.backingStorage) (postgresRows (s.withSecrets x).backingStorage) := by
  refine .cons rfl (.ite _ (.refl _) (.append (.append ?_ (.ite _ (.refl _) (.refl _)))
    (.ite _ (.refl _) ?_)))
  · exact .cons rfl (.cons (Row.view_secret h.password) (.refl _))
  · exact .cons (Row.view_document h.privateKey) (.cons (Row.view_document h.certificate) (.refl _))

theorem showSame_vaultRows (h : s.secrets.Alike form x) :
    ShowSame (vaultRows s.security.kms) (vaultRows (s.withSecrets x).security.kms) := by
  unfold vaultRows
  refine .cons rfl (.cons rfl (.cons rfl (.cons rfl (.cons ?_ rfl))))
  rw [show (s.withSecrets x).security.kms.vault.auth = s.security.kms.vault.auth from rfl]
  cases s.security.kms.vault.auth with
  | token => exact Row.view_secret h.token
  | kubernetes => rfl

theorem showSame_kmipRows (h : s.secrets.Alike form x) :
    ShowSame (kmipRows s.security.kms) (kmipRows (s.withSecrets x).security.kms) := by
  refine .cons rfl (.cons rfl (.cons rfl (.cons rfl (.cons rfl ?_))))
  exact .cons (Row.view_secret h.clientCa) (.cons (Row.view_secret h.clientCert)
    (.cons (Row.view_secret h.clientKey) (.refl _)))

/-- **So does the key management service.** -/
theorem showSame_kmsRows (h : s.secrets.Alike form x) :
    ShowSame (kmsRows s.security.kms) (kmsRows (s.withSecrets x).security.kms) := by
  refine .cons rfl ?_
  rw [show (s.withSecrets x).security.kms.provider = s.security.kms.provider from rfl]
  cases s.security.kms.provider with
  | vault => exact showSame_vaultRows h
  | kmip => exact showSame_kmipRows h

theorem showSame_securityRows (h : s.secrets.Alike form x) (withNetworks : Bool) :
    ShowSame (securityRows s withNetworks) (securityRows (s.withSecrets x) withNetworks) := by
  refine .append (.append rfl (.ite _ (.refl _) (.cons rfl ?_))) (.refl _)
  exact .ite _ (showSame_kmsRows h) (.refl _)

theorem showSame_backingStorageRows (h : w.state.secrets.Alike form x) (i : Inventory) :
    ShowSame (backingStorageRows w i)
      (backingStorageRows { w with state := w.state.withSecrets x } i) :=
  .append (.refl _) (.ite _ (.refl _) (showSame_postgresRows h))

/-- A field shows no more of a secret value than its size. -/
theorem view_fieldRow (step : FormStep) (field : FormField) {value value' : String}
    (h : field.kind.Alike value value') :
    (fieldRow step field value).view = (fieldRow step field value').view := by
  unfold fieldRow
  cases hk : field.kind with
  | secret =>
    rw [hk] at h
    exact Row.view_secret h
  | json =>
    rw [hk] at h
    change value.utf8ByteSize = value'.utf8ByteSize at h
    have hempty : value.isEmpty = value'.isEmpty := congrArg (· == 0) h
    refine Row.view_document ?_
    rw [hempty]
    split_ifs
    · rfl
    · exact congrArg some h
  | _ =>
    rw [hk] at h
    rw [show value = value' from h]

theorem showSame_vendorRows (h : w.state.secrets.Alike w.vendorForm x) (step : FormStep) :
    ShowSame (vendorRows w step) (vendorRows { w with state := w.state.withSecrets x } step) := by
  have hvalues : (w.state.withSecrets x).formValues step = x.formValues step := by
    cases step <;> rfl
  unfold vendorRows
  dsimp only
  rw [hvalues, show w.registry.selected? (w.state.withSecrets x) = w.registry.selected? w.state
    from rfl]
  cases hv : w.registry.selected? w.state with
  | none => rfl
  | some v =>
    refine .cons rfl ?_
    unfold ShowSame
    rw [List.map_map, List.map_map]
    refine List.map_congr_left fun field hfield =>
      view_fieldRow step field (h.formValues step field ?_)
    unfold Session.vendorForm
    rw [hv]
    exact hfield

/-- **The forms keep secrets.** Walks that are equal but for secrets of the same sizes have forms
that show the same: the rows are as many, with the same labels and the same displayed texts, and an
editor opens on them with the same text drawn. -/
theorem rows_view_eq {w w' : Session} (h : w.DifferInSecrets w') (step : StepName)
    (i : Inventory) : (rows step w i).map Row.view = (rows step w' i).map Row.view := by
  obtain ⟨hsame, halike⟩ := h
  generalize w'.state.secrets = x at hsame halike
  subst hsame
  show ShowSame _ _
  cases step with
  | backingStorage => exact showSame_backingStorageRows halike i
  | security => exact showSame_securityRows halike false
  | securityAndNetwork => exact showSame_securityRows halike true
  | createStorageClass => exact showSame_vendorRows halike .createStorageClass
  | connectionDetails => exact showSame_vendorRows halike .connectionDetails
  | _ => exact .refl _

/-! ### Another password -/

/-- A FlashSystem is being set up, and every secret is the given text. -/
def onFlashSystem (secret : String) : Session where
  state := {
    backingStorage := {
      type := .external
      externalStorage := "FlashSystemCluster"
      postgres := { password := secret, tls := { keys := ⟨some secret, some secret⟩ } } }
    createStorageClass := .ofList [("username", "admin"), ("password", secret)]
    security := { kms := {
      vault := { token := secret }
      kmip := { clientCa := secret, clientCert := secret, clientKey := secret } } } }
  context := {}
  registry := .builtins
  current := 1

theorem rows_view_eq_password :
    (onFlashSystem "hunter2").DifferInSecrets (onFlashSystem "letmein") ∧
    ∀ step, (rows step (onFlashSystem "hunter2") .threeDisks).map Row.view =
      (rows step (onFlashSystem "letmein") .threeDisks).map Row.view := by
  have h : (onFlashSystem "hunter2").DifferInSecrets (onFlashSystem "letmein") := {
    same := rfl
    alike := {
      password := by decide
      privateKey := by decide
      certificate := by decide
      token := by decide
      clientCa := by decide
      clientCert := by decide
      clientKey := by decide
      formValues := fun step => by cases step <;> decide +kernel } }
  exact ⟨h, fun step => rows_view_eq h step .threeDisks⟩

end Form
end StorageSetup
