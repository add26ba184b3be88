import StorageSetup.Cluster.Inventory
import StorageSetup.Form.Row
import StorageSetup.Wizard.Session
/-!
# The form for the backing storage

Where the storage comes from: a class of the cluster, local devices or a vendor's system, and
whether an external database is used.
-/

namespace StorageSetup.Form

/-- A port between 0 and 65535, without idle zeros. -/
def readPort? (s : String) : Option String :=
  ((Text.parseNat (Text.trim s).toList).filter (· < 65536)).map toString

/-- The rows of the connection to an external database. -/
def postgresRows (b : BackingStorage) : List Row :=
  let pg := b.postgres
  let tls := pg.tls
  Row.toggle "External Postgres" b.useExternalPostgres
      (.useExternalPostgres !b.useExternalPostgres) ::
    (if !b.useExternalPostgres then [] else
      [ Row.text "  Username" pg.username fun v => [.setPostgresUsername v],
        Row.secret "  Password" pg.password fun v => [.setPostgresPassword v],
        Row.text "  Server name" pg.serverName fun v => [.setPostgresServerName v],
        Row.checked "  Port" pg.port fun v => (readPort? v).map fun p => [.setPostgresPort p],
        Row.text "  Database" pg.databaseName fun v => [.setPostgresDatabaseName v],
        Row.toggle "  TLS" tls.enabled (.setPostgresTls !tls.enabled) ] ++
      (if !tls.enabled then [] else
        [ Row.toggle "  Allow self-signed certificates" tls.allowSelfSigned
            (.setPostgresAllowSelfSigned !tls.allowSelfSigned),
          Row.toggle "  Client certificates" tls.clientCerts
            (.setPostgresClientCerts !tls.clientCerts) ]) ++
      (if !(tls.enabled && tls.clientCerts) then [] else
        [ Row.document "  Client key file" tls.keys.privateKey fun pem =>
            [.setPostgresKeys { tls.keys with privateKey := some pem }],
          Row.document "  Client certificate file" tls.keys.certificate fun pem =>
            [.setPostgresKeys { tls.keys with certificate := some pem }] ]))

/-- The storage classes to choose from. -/
def storageClassRows (s : State) (i : Inventory) : List Row :=
  match i.usableStorageClasses with
  | [] => [Row.info "Storage class" "no usable storage classes"]
  | classes => classes.map fun c =>
    Row.option "Storage class" (s.storageClass.name == c.name)
      (c.name ++ " (" ++ c.provisioner ++ ")") (.setStorageClass ⟨c.name, c.provisioner⟩)

/-- The vendors to choose from, and the name of the class that the chosen one creates. -/
def vendorChoiceRows (s : State) (r : Registry) : List Row :=
  (r.vendors.map fun v =>
    Row.option "Platform" (s.backingStorage.externalStorage == v.kind) v.displayName
      (.setExternalStorage v.kind)) ++
  (match (r.selected? s).bind (·.provisioner) with
    | some provisioner => [Row.text "Storage class name" s.storageClass.name fun name =>
        [.setStorageClass ⟨Text.trim name, provisioner⟩]]
    | none => [])

/-- The rows of the step. -/
def backingStorageRows (w : Session) (i : Inventory) : List Row :=
  let s := w.state
  let b := s.backingStorage
  Row.choice "Backing storage" b.type.label [.setBackingType b.type.next] ::
    (if s.isExternal then [] else
      [Row.choice "Deployment" b.deployment.label [.setDeployment b.deployment.next]]) ++
    (match b.type with
      | .existing => storageClassRows s i
      | .localDevices => [Row.info "Storage class" "created from a local volume set"]
      | .external => vendorChoiceRows s w.registry) ++
    (if s.isExternal || s.isMcg then [] else
      [ Row.toggle "Network file system" b.enableNfs (.enableNfs !b.enableNfs),
        Row.toggle "Default RBD storage class" b.rbdClassIsDefault
          (.setRbdClassDefault !b.rbdClassIsDefault) ]) ++
    (if s.isExternal then [] else postgresRows b)

end StorageSetup.Form
