import StorageSetup.Form.Row
/-!
# The forms for encryption, keys and networks

A change of the encryption or of the key management service also says again whether the settings
of the service are in order.

Key definitions:
- `withEncryption`, `withKms`: the actions of a change
- `securityRows`: the rows of the two security steps
-/

namespace StorageSetup.Form

/-- Other encryption settings. The service has to be complete where its keys are used. -/
def withEncryption (s : Security) (change : Encryption → Encryption) : List Action :=
  let e := change s.encryption
  [ .setEncryption { e with hasHandled := true },
    .setKms { s.kms with hasHandled := !e.advanced || s.kms.isComplete } ]

/-- Other settings of the key management service. -/
def withKms (k : Kms) (change : Kms → Kms) : List Action :=
  let k := change k
  [.setKms { k with hasHandled := k.isComplete }]

/-- A text of the service. -/
def kmsText (label value : String) (k : Kms) (put : String → Kms) : Row :=
  Row.text label value fun v => withKms k fun _ => put (Text.trim v)

/-- A text of the service that is shown masked. -/
def kmsSecret (label value : String) (k : Kms) (put : String → Kms) : Row :=
  Row.secret label value fun v => withKms k fun _ => put (Text.trim v)

/-- The rows of the connection to Vault. -/
def vaultRows (k : Kms) : List Row :=
  let v := k.vault
  let put (v : Vault) : Kms := { k with vault := v }
  [ kmsText "  Connection name" v.name k fun t => put { v with name := t },
    kmsText "  Address" v.address k fun t => put { v with address := t },
    kmsText "  Port" v.port k fun t => put { v with port := t },
    Row.choice "  Authentication" v.auth.code
      (withKms k fun _ => put { v with auth := v.auth.next }),
    match v.auth with
      | .token => kmsSecret "  Token" v.token k fun t => put { v with token := t }
      | .kubernetes => kmsText "  Role" v.role k fun t => put { v with role := t },
    kmsText "  Backend path" v.backend k fun t => put { v with backend := t },
    kmsText "  TLS server name" v.tlsServerName k fun t => put { v with tlsServerName := t },
    kmsText "  Vault namespace" v.providerNamespace k fun t =>
      put { v with providerNamespace := t } ]

/-- The rows of the connection to a KMIP server. -/
def kmipRows (k : Kms) : List Row :=
  let m := k.kmip
  let put (m : Kmip) : Kms := { k with kmip := m }
  [ kmsText "  Connection name" m.name k fun t => put { m with name := t },
    kmsText "  Address" m.address k fun t => put { m with address := t },
    kmsText "  Port" m.port k fun t => put { m with port := t },
    kmsText "  TLS server name" m.tlsServerName k fun t => put { m with tlsServerName := t },
    kmsText "  Unique identifier" m.uniqueIdentifier k fun t =>
      put { m with uniqueIdentifier := t },
    kmsSecret "  Client CA" m.clientCa k fun t => put { m with clientCa := t },
    kmsSecret "  Client certificate" m.clientCert k fun t => put { m with clientCert := t },
    kmsSecret "  Client key" m.clientKey k fun t => put { m with clientKey := t } ]

/-- The rows of the key management service. -/
def kmsRows (k : Kms) : List Row :=
  Row.choice "  Key management service" k.provider.label
      (withKms k fun k => { k with provider := k.provider.next }) ::
    match k.provider with
      | .vault => vaultRows k
      | .kmip => kmipRows k

/-- A network attachment; a blank name means none. -/
def networkName (s : String) : Option String :=
  let name := Text.trim s
  if name.isEmpty then none else some name

/-- The rows of the networks. -/
def networkRows (s : Security) : List Row :=
  let label := match s.networkType with
    | .pods => "Default (SDN)"
    | .multus => "Multus"
  Row.choice "Network" label [.setNetworkType s.networkType.next] ::
    match s.networkType with
      | .pods => []
      | .multus => [
        Row.text "  Public network" (s.publicNetwork.getD "") fun v =>
          [.setPublicNetwork (networkName v)],
        Row.text "  Cluster network" (s.clusterNetwork.getD "") fun v =>
          [.setClusterNetwork (networkName v)]]

/-- The rows of a security step, with or without the networks. -/
def securityRows (st : State) (withNetworks : Bool) : List Row :=
  let s := st.security
  let e := s.encryption
  [ Row.choice "Cluster-wide encryption" (mark e.clusterWide)
      (withEncryption s fun e => { e with clusterWide := !e.clusterWide }),
    Row.choice "Storage class encryption" (mark e.storageClass)
      (withEncryption s fun e => { e with storageClass := !e.storageClass }),
    Row.choice "In-transit encryption" (mark e.inTransit)
      (withEncryption s fun e => { e with inTransit := !e.inTransit }) ] ++
  (if st.isMcg || !(e.clusterWide || e.storageClass) then [] else
    Row.choice "External key management" (mark e.advanced)
        (withEncryption s fun e => { e with advanced := !e.advanced }) ::
      (if e.advanced then kmsRows s.kms else [])) ++
  (if withNetworks then networkRows s else [])

end StorageSetup.Form
