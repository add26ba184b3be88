import StorageSetup.Resource.Payload
import StorageSetup.Text.Search
import StorageSetup.Wizard.State
/-!
# Key management resources

The operators read the connection to the key management service from a config map; credentials go
into secrets beside it.

Key definitions:
- `endpoint`: the address of a service with its port
- `Kms.payloads`: config map first, then the secrets
-/

namespace StorageSetup

/-- The name of the config map with the connection details. -/
def kmsConnectionDetails : String := "ocs-kms-connection-details"

def kmsTokenSecret : String := "ocs-kms-token"

def kmsCaSecret : String := "ocs-kms-ca-secret"

def kmipClientSecret : String := "ocs-kmip-client-secret"

/-- The text without the slashes at its end. -/
def withoutSlashes (cs : List Char) : List Char :=
  (cs.reverse.dropWhile (· = '/')).reverse

/-- The address of a service without slashes at its end, with a scheme in front where one is given
and the address has none, and with the port behind where there is one. -/
def endpoint (address port : String) (scheme : Option String) : String :=
  let cs := withoutSlashes address.toList
  let cs := match scheme with
    | some s => if Text.containsText [':', '/', '/'] cs then cs else s.toList ++ [':', '/', '/'] ++ cs
    | none => cs
  String.ofList (if port.isEmpty then cs else cs ++ ':' :: port.toList)

/-- The connection to Vault as texts. -/
def Vault.details (v : Vault) : Dict String :=
  let base : Dict String := .ofList [
    ("KMS_PROVIDER", "vault"),
    ("KMS_SERVICE_NAME", v.name),
    ("VAULT_ADDR", endpoint v.address v.port (some "https")),
    ("VAULT_BACKEND_PATH", v.backend),
    ("VAULT_TLS_SERVER_NAME", v.tlsServerName),
    ("VAULT_NAMESPACE", v.providerNamespace)]
  let withAuth := match v.auth with
    | .token => base.insert "VAULT_AUTH_METHOD" "token"
    | .kubernetes =>
      (base.insert "VAULT_AUTH_METHOD" "kubernetes").insert "VAULT_AUTH_KUBERNETES_ROLE" v.role
  if v.caCert.isSome then withAuth.insert "VAULT_CACERT" kmsCaSecret else withAuth

/-- The secrets the connection to Vault needs. -/
def Vault.secrets (v : Vault) (namespaceName : String) : List Payload :=
  (match v.auth with
    | .token => [stringSecret kmsTokenSecret namespaceName (.ofList [("token", v.token)])]
    | .kubernetes => []) ++
  (match v.caCert with
    | some ca => [stringSecret kmsCaSecret namespaceName (.ofList [("cert", ca)])]
    | none => [])

/-- The connection to a KMIP server as texts. -/
def Kmip.details (k : Kmip) : Dict String :=
  .ofList [
    ("KMS_PROVIDER", "kmip"),
    ("KMS_SERVICE_NAME", k.name),
    ("KMIP_ENDPOINT", endpoint k.address k.port none),
    ("KMIP_SECRET_NAME", kmipClientSecret),
    ("TLS_SERVER_NAME", k.tlsServerName)]

/-- The secret with the key pair for a KMIP server. -/
def Kmip.secret (k : Kmip) (namespaceName : String) : Payload :=
  stringSecret kmipClientSecret namespaceName (.ofList [
    ("CA_CERT", k.clientCa),
    ("CLIENT_CERT", k.clientCert),
    ("CLIENT_KEY", k.clientKey),
    ("UNIQUE_IDENTIFIER", k.uniqueIdentifier)])

/-- The resources of the chosen service, the config map first. -/
def Kms.payloads (k : Kms) (namespaceName : String) : List Payload :=
  match k.provider with
  | .vault =>
    configMap kmsConnectionDetails namespaceName k.vault.details ::
      k.vault.secrets namespaceName
  | .kmip =>
    [configMap kmsConnectionDetails namespaceName k.kmip.details, k.kmip.secret namespaceName]

end StorageSetup
