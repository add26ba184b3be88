import StorageSetup.Resource.Payload
import StorageSetup.Wizard.State
/-!
# External database resources

The object gateway reads the address of an external database from a secret, and its client
certificate from a second one.
-/

namespace StorageSetup

/-- The secret with the address of the database. -/
def postgresSecret : String := "noobaa-external-pg"

/-- The secret with the client certificate for the database. -/
def postgresTlsSecret : String := "noobaa-external-pg-tls"

namespace Postgres

/-- The address of the database with the credentials in it. -/
def url (p : Postgres) : String :=
  "postgres://" ++ p.username ++ ":" ++ p.password ++ "@" ++ p.serverName ++ ":" ++ p.port ++
    "/" ++ p.databaseName

/-- The connection presents a client certificate. -/
def usesClientCerts (p : Postgres) : Bool :=
  p.tls.enabled && p.tls.clientCerts

/-- The secret with the address, and the one with the client certificate where it is used. -/
def payloads (p : Postgres) (namespaceName : String) : Except PayloadError (List Payload) :=
  let address := stringSecret postgresSecret namespaceName (.ofList [("db_url", p.url)])
  if p.usesClientCerts then
    match p.tls.keys.privateKey, p.tls.keys.certificate with
    | some key, some certificate =>
      .ok [address, dataSecret postgresTlsSecret namespaceName
        (.ofList [("tls.key", key), ("tls.crt", certificate)])]
    | _, _ => .error .missingKeyFiles
  else .ok [address]

end Postgres

end StorageSetup
