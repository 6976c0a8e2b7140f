import EtcdDruid.Api.Core
import EtcdDruid.Go.Sprintf

/-!
# The bootstrap config map: `pkg/component/etcd/configmap`

**Input.**  The Etcd, through `GenerateValues`, and the namespace.

**Algorithm.**  `prepareInitialCluster` lists one `pod=scheme://pod.domain:port`
entry per replica (one entry for at most one replica), joined by commas.
`syncConfigmap` fills the `etcdConfig` record that it marshals to
`etcd.conf.yaml`: data directory, quota, the initial cluster, the listen and
advertise URLs of both sides, and the transport security of each side that has a
TLS configuration.  The record is the model of the file; its YAML text is not.

**Results.**
* `split_prepareInitialCluster`: split at commas, the initial cluster is its
  entries again, when no entry holds a comma;
* `syncConfigmap_urls`: the schemes and ports of the four URLs.
-/

namespace EtcdDruid
namespace Configmap

def defaultClientPort : Int32 := 2379
def defaultServerPort : Int32 := 2380

/-- `configmap.Values`, less labels, owner reference and checksum. -/
structure Values where
  name : String
  etcdUID : Uid
  metrics : Option String
  quota : Option Quantity
  initialCluster : String
  clientUrlTLS : Option TLSConfig
  peerUrlTLS : Option TLSConfig
  clientServiceName : String
  clientPort : Option Int32
  peerServiceName : String
  serverPort : Option Int32
  autoCompactionMode : Option String
  autoCompactionRetention : Option String

/-- The initial-cluster entry of the pod with ordinal `i`. -/
def initialClusterEntry (etcd : Etcd) (protocol domaiName serverPort : String) (i : Int) :
    String :=
  etcd.getOrdinalPodName i ++ "=" ++ protocol ++ "://" ++ etcd.getOrdinalPodName i ++ "." ++
    domaiName ++ ":" ++ serverPort

def prepareInitialCluster (etcd : Etcd) : String :=
  let protocol := if etcd.spec.etcd.peerUrlTLS.isSome then "https" else "http"
  let statefulsetReplicas := etcd.spec.replicas.toInt
  let domaiName := etcd.getPeerServiceName ++ "." ++ etcd.namespace_ ++ "." ++ "svc"
  let serverPort := fmtInt32 (etcd.spec.etcd.serverPort.getD defaultServerPort)
  let initialCluster :=
    if statefulsetReplicas > 1 then
      -- `for i := 0; i < statefulsetReplicas; i++`, each entry followed by a comma
      String.join ((List.range statefulsetReplicas.toNat).map fun i =>
        initialClusterEntry etcd protocol domaiName serverPort i ++ ",")
    else initialClusterEntry etcd protocol domaiName serverPort 0
  Go.trim initialCluster ','

section InitialCluster

variable {etcd : Etcd} {protocol domaiName serverPort : String}

theorem initialClusterEntry_ne_empty (i : Int) :
    initialClusterEntry etcd protocol domaiName serverPort i ≠ "" := by
  intro h
  have hlen := congrArg (fun s : String => s.toList.length) h
  simp [initialClusterEntry, String.toList_append] at hlen

/-- An entry holds a comma only where one of its parts does. -/
theorem comma_notMem_initialClusterEntry (hname : ',' ∉ etcd.name.toList)
    (hprotocol : ',' ∉ protocol.toList) (hdomain : ',' ∉ domaiName.toList)
    (hport : ',' ∉ serverPort.toList) (i : Int) :
    ',' ∉ (initialClusterEntry etcd protocol domaiName serverPort i).toList := by
  have hi := Go.notMem_toString_int (c := ',') (by decide) (by decide) i
  simp [initialClusterEntry, Etcd.getOrdinalPodName, String.toList_append, hname, hprotocol,
    hdomain, hport]
  exact hi

/-- Split at commas, the initial cluster gives back one entry per member, when
there is at least one and no entry holds a comma. -/
theorem split_prepareInitialCluster (etcd : Etcd) (hr : 1 ≤ etcd.spec.replicas.toInt)
    (hname : ',' ∉ etcd.name.toList) (hns : ',' ∉ etcd.namespace_.toList) :
    Go.split (prepareInitialCluster etcd) ',' =
      (List.range etcd.spec.replicas.toInt.toNat).map fun i : Nat =>
        initialClusterEntry etcd (if etcd.spec.etcd.peerUrlTLS.isSome then "https" else "http")
          (etcd.getPeerServiceName ++ "." ++ etcd.namespace_ ++ "." ++ "svc")
          (fmtInt32 (etcd.spec.etcd.serverPort.getD defaultServerPort)) i := by
  -- the loop runs over the ordinals as `int`s
  have hrange : ∀ f : Int → String, (List.range etcd.spec.replicas.toInt.toNat : List Int).map f =
      (List.range etcd.spec.replicas.toInt.toNat).map fun i : Nat => f i := fun f => by
    simp [← List.map_eq_flatMap]
  have hdomain : ',' ∉ (etcd.getPeerServiceName ++ "." ++ etcd.namespace_ ++ "." ++ "svc").toList := by
    simp [Etcd.getPeerServiceName, String.toList_append, hname, hns]
  have hc : ∀ i : Int, ',' ∉ (initialClusterEntry etcd
      (if etcd.spec.etcd.peerUrlTLS.isSome then "https" else "http")
      (etcd.getPeerServiceName ++ "." ++ etcd.namespace_ ++ "." ++ "svc")
      (fmtInt32 (etcd.spec.etcd.serverPort.getD defaultServerPort)) i).toList :=
    comma_notMem_initialClusterEntry hname (by split <;> decide) hdomain
      (Go.notMem_toString_int (by decide) (by decide) _)
  unfold prepareInitialCluster
  simp only [hrange]
  by_cases hmulti : etcd.spec.replicas.toInt > 1
  · have hl : List.range etcd.spec.replicas.toInt.toNat ≠ [] := by
      rw [Ne, List.range_eq_nil]
      omega
    rw [if_pos hmulti, show ("," : String) = String.singleton ',' from rfl]
    exact Go.split_trim_join (fun i _ => hc i) (fun i _ => initialClusterEntry_ne_empty i) hl
  · have h1 : etcd.spec.replicas.toInt.toNat = 1 := by omega
    rw [if_neg hmulti, h1, Go.trim_of_notMem (hc 0), Go.split_of_notMem (hc 0)]
    rfl

end InitialCluster

def generateValues (etcd : Etcd) : Values where
  name := etcd.getConfigmapName
  etcdUID := etcd.uid
  metrics := etcd.spec.etcd.metrics
  quota := etcd.spec.etcd.quota
  initialCluster := prepareInitialCluster etcd
  clientUrlTLS := etcd.spec.etcd.clientUrlTLS
  peerUrlTLS := etcd.spec.etcd.peerUrlTLS
  clientServiceName := etcd.getClientServiceName
  clientPort := etcd.spec.etcd.clientPort
  peerServiceName := etcd.getPeerServiceName
  serverPort := etcd.spec.etcd.serverPort
  autoCompactionMode := etcd.spec.common.autoCompactionMode
  autoCompactionRetention := etcd.spec.common.autoCompactionRetention

/-- `etcdTLSTarget`. -/
inductive EtcdTLSTarget
  | clientTLS
  | peerTLS
  deriving DecidableEq, Repr

def EtcdTLSTarget.toString : EtcdTLSTarget → String
  | .clientTLS => "client"
  | .peerTLS => "peer"

/-- `securityConfig`; the zero value stands for an omitted section. -/
structure SecurityConfig where
  certFile : String
  keyFile : String
  clientCertAuth : Bool
  trustedCAFile : String
  autoTLS : Bool
  deriving DecidableEq, Repr, Inhabited

def defaultQuota : Int := 8 * 1024 * 1024 * 1024
def defaultSnapshotCount : Int := 75000
def defaultInitialClusterState : String := "new"
def defaultInitialClusterToken : String := "etcd-cluster"

def getSchemeAndSecurityConfig (tlsConfig : Option TLSConfig) (tlsTarget : EtcdTLSTarget) :
    String × Option SecurityConfig :=
  match tlsConfig with
  | some tls =>
      let tlsCASecretKey := tls.tlsCASecretRef.dataKey.getD "ca.crt"
      ("https",
        some { certFile := "/var/etcd/ssl/" ++ tlsTarget.toString ++ "/server/tls.crt",
               keyFile := "/var/etcd/ssl/" ++ tlsTarget.toString ++ "/server/tls.key",
               clientCertAuth := true,
               trustedCAFile := "/var/etcd/ssl/" ++ tlsTarget.toString ++ "/ca/" ++ tlsCASecretKey,
               autoTLS := false })
  | none => ("http", none)

/-- `etcdConfig`: the fields of `etcd.conf.yaml`. -/
structure EtcdConfig where
  name : String
  dataDir : String
  metrics : String
  snapshotCount : Int
  enableV2 : Bool
  quotaBackendBytes : Int
  initialClusterToken : String
  initialClusterState : String
  initialCluster : String
  autoCompactionMode : String
  autoCompactionRetention : String
  listenPeerUrls : String
  listenClientUrls : String
  advertisePeerUrls : String
  advertiseClientUrls : String
  clientSecurity : SecurityConfig
  peerSecurity : SecurityConfig
  deriving DecidableEq, Repr

/-- The `etcdConfig` that `syncConfigmap` marshals into the config map. -/
def syncConfigmap (v : Values) (namespace_ : String) : EtcdConfig :=
  let (peerScheme, peerSecurity) := getSchemeAndSecurityConfig v.peerUrlTLS .peerTLS
  let (clientScheme, clientSecurity) := getSchemeAndSecurityConfig v.clientUrlTLS .clientTLS
  let serverPort := fmtInt32 (v.serverPort.getD defaultServerPort)
  let clientPort := fmtInt32 (v.clientPort.getD defaultClientPort)
  { name := "etcd-" ++ v.etcdUID.prefix6
    dataDir := "/var/etcd/data/new.etcd"
    metrics := "basic"
    snapshotCount := defaultSnapshotCount
    enableV2 := false
    quotaBackendBytes := (v.quota.map (·.value)).getD defaultQuota
    initialClusterToken := defaultInitialClusterToken
    initialClusterState := defaultInitialClusterState
    initialCluster := v.initialCluster
    autoCompactionMode := v.autoCompactionMode.getD "periodic"
    autoCompactionRetention := v.autoCompactionRetention.getD "30m"
    listenPeerUrls := peerScheme ++ "://0.0.0.0:" ++ serverPort
    listenClientUrls := clientScheme ++ "://0.0.0.0:" ++ clientPort
    advertisePeerUrls := peerScheme ++ "@" ++ v.peerServiceName ++ "@" ++ namespace_ ++ "@" ++
      serverPort
    advertiseClientUrls := clientScheme ++ "@" ++ v.peerServiceName ++ "@" ++ namespace_ ++ "@" ++
      clientPort
    clientSecurity := clientSecurity.getD default
    peerSecurity := peerSecurity.getD default }

/-- The URLs of `etcd.conf.yaml`: the scheme of each side follows its TLS
configuration, the port is the values' port or its default. -/
theorem syncConfigmap_urls (v : Values) (namespace_ : String) :
    let peerScheme := if v.peerUrlTLS.isSome then "https" else "http"
    let clientScheme := if v.clientUrlTLS.isSome then "https" else "http"
    let serverPort := fmtInt32 (v.serverPort.getD defaultServerPort)
    let clientPort := fmtInt32 (v.clientPort.getD defaultClientPort)
    let config := syncConfigmap v namespace_
    config.listenPeerUrls = peerScheme ++ "://0.0.0.0:" ++ serverPort ∧
      config.advertisePeerUrls =
        peerScheme ++ "@" ++ v.peerServiceName ++ "@" ++ namespace_ ++ "@" ++ serverPort ∧
      config.listenClientUrls = clientScheme ++ "://0.0.0.0:" ++ clientPort ∧
      config.advertiseClientUrls =
        clientScheme ++ "@" ++ v.peerServiceName ++ "@" ++ namespace_ ++ "@" ++ clientPort := by
  unfold syncConfigmap getSchemeAndSecurityConfig
  cases v.peerUrlTLS <;> cases v.clientUrlTLS <;> exact ⟨rfl, rfl, rfl, rfl⟩

end Configmap
end EtcdDruid
