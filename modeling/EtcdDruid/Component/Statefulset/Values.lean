import EtcdDruid.Api.Core
import EtcdDruid.Utils

/-!
# StatefulSet values: `pkg/component/etcd/statefulset/values_helper.go`

`GenerateValues` copies what the pods need out of the Etcd, with the three ports
passed in by the reconciler, and computes the arguments of both containers.

* `getEtcdCommand`: the etcd wrapper's flags.  Whether it talks TLS to the
  backup-restore server, and the CA it uses, follow `ClientUrlTLS`; the host
  and port of the server are `<name>-local:8080` whatever the backup port.
* `getBackupRestoreCommand`: the sidecar's flags, one per optional field with a
  default where the field is `nil`.  Its client side follows `ClientUrlTLS`; its
  server certificate, `BackupTLS`.
-/

namespace EtcdDruid
namespace Statefulset

def defaultBackupPort : Int32 := 8080
def defaultServerPort : Int32 := 2380
def defaultClientPort : Int32 := 2379
def defaultWrapperPort : Int32 := 9095
def defaultQuota : Int := 8 * 1024 * 1024 * 1024
def defaultSnapshotMemoryLimit : Int := 100 * 1024 * 1024
def defaultHeartbeatDuration : String := "10s"
def defaultGbcPolicy : String := "LimitBased"
def defaultAutoCompactionRetention : String := "30m"
def defaultEtcdSnapshotTimeout : String := "15m"
def defaultEtcdDefragTimeout : String := "15m"
def defaultAutoCompactionMode : String := "periodic"
def defaultEtcdConnectionTimeout : String := "5m"

/-- `statefulset.Values`, less images, labels, annotations, resources and
scheduling constraints. -/
structure Values where
  name : String
  namespace_ : String
  replicas : Int32
  serviceAccountName : String
  etcdCommand : List String
  etcdBackupCommand : List String
  volumeClaimTemplateName : String
  fullSnapLeaseName : String
  deltaSnapLeaseName : String
  defragmentationSchedule : Option String
  fullSnapshotSchedule : Option String
  etcdSnapshotTimeout : Option Int
  etcdDefragTimeout : Option Int
  deltaSnapshotMemoryLimit : Option Quantity
  garbageCollectionPolicy : Option String
  garbageCollectionPeriod : Option Int
  leaderElection : Option LeaderElectionSpec
  backupStore : Option StoreSpec
  enableProfiling : Option Bool
  deltaSnapshotPeriod : Option Int
  snapshotCompression : Option CompressionSpec
  heartbeatDuration : Option Int
  quota : Option Quantity
  clientUrlTLS : Option TLSConfig
  peerUrlTLS : Option TLSConfig
  backupTLS : Option TLSConfig
  clientServiceName : String
  clientPort : Option Int32
  peerServiceName : String
  serverPort : Option Int32
  backupPort : Option Int32
  wrapperPort : Option Int32
  autoCompactionMode : Option String
  autoCompactionRetention : Option String
  configMapName : String

def getEtcdCommand (val : Values) : List String :=
  match val.clientUrlTLS with
  | some tls =>
      let dataKey := tls.tlsCASecretRef.dataKey.getD "ca.crt"
      ["start-etcd",
       "--backup-restore-tls-enabled=true",
       "--backup-restore-host-port=" ++ val.name ++ "-local:8080",
       "--etcd-server-name=" ++ val.name ++ "-local",
       "--etcd-client-cert-path=/var/etcd/ssl/client/client/tls.crt",
       "--etcd-client-key-path=/var/etcd/ssl/client/client/tls.key",
       "--backup-restore-ca-cert-bundle-path=/var/etcd/ssl/client/ca/" ++ dataKey]
  | none =>
      ["start-etcd",
       "--backup-restore-tls-enabled=false",
       "--backup-restore-host-port=" ++ val.name ++ "-local:8080",
       "--etcd-server-name=" ++ val.name ++ "-local"]

/-- The flags `getBackupRestoreCommand` derives from the backup store. -/
def storeFlags (val : Values) : List String × List String :=
  match val.backupStore with
  | some store =>
      let provider := match storageProviderFromInfraProvider store.provider with
        | .ok p => providerString p
        | .error _ => ""
      (["--enable-snapshot-lease-renewal=true",
        "--delta-snapshot-lease-name=" ++ val.deltaSnapLeaseName,
        "--full-snapshot-lease-name=" ++ val.fullSnapLeaseName],
       ["--storage-provider=" ++ provider, "--store-prefix=" ++ store.prefixPath])
  | none => ([], [])

/-- The client side of the sidecar: TLS flags and the etcd endpoints. -/
def clientFlags (val : Values) : List String :=
  let port := fmtInt32 (val.clientPort.getD defaultClientPort)
  match val.clientUrlTLS with
  | some tls =>
      ["--cert=/var/etcd/ssl/client/client/tls.crt",
       "--key=/var/etcd/ssl/client/client/tls.key",
       "--cacert=/var/etcd/ssl/client/ca/" ++ tls.tlsCASecretRef.dataKey.getD "ca.crt",
       "--insecure-transport=false",
       "--insecure-skip-tls-verify=false",
       "--endpoints=https://" ++ val.name ++ "-local:" ++ port,
       "--service-endpoints=https://" ++ val.clientServiceName ++ ":" ++ port]
  | none =>
      ["--insecure-transport=true",
       "--insecure-skip-tls-verify=true",
       "--endpoints=http://" ++ val.name ++ "-local:" ++ port,
       "--service-endpoints=http://" ++ val.clientServiceName ++ ":" ++ port]

/-- `"--" ++ flag ++ "=" ++ value` for a field that is set. -/
def optFlag {α : Type} (flag : String) (render : α → String) : Option α → List String
  | some a => ["--" ++ flag ++ "=" ++ render a]
  | none => []

def getBackupRestoreCommand (val : Values) : List String :=
  let (leaseFlags, providerFlags) := storeFlags val
  let garbageCollectionPolicy := val.garbageCollectionPolicy.getD defaultGbcPolicy
  ["server"] ++ leaseFlags ++
    optFlag "defragmentation-schedule" id val.defragmentationSchedule ++
    optFlag "schedule" id val.fullSnapshotSchedule ++
    ["--garbage-collection-policy=" ++ garbageCollectionPolicy] ++
    (if garbageCollectionPolicy = "LimitBased" then ["--max-backups=7"] else []) ++
    ["--data-dir=/var/etcd/data/new.etcd",
     "--restoration-temp-snapshots-dir=/var/etcd/data/restoration.temp"] ++
    providerFlags ++
    ["--embedded-etcd-quota-bytes=" ++ toString ((val.quota.map (·.value)).getD defaultQuota)] ++
    (if val.enableProfiling.getD false then ["--enable-profiling=true"] else []) ++
    clientFlags val ++
    (if val.backupTLS.isSome then
      ["--server-cert=/var/etcd/ssl/client/server/tls.crt",
       "--server-key=/var/etcd/ssl/client/server/tls.key"] else []) ++
    ["--etcd-connection-timeout=" ++ defaultEtcdConnectionTimeout] ++
    optFlag "delta-snapshot-period" Go.durationString val.deltaSnapshotPeriod ++
    ["--delta-snapshot-memory-limit=" ++
      toString ((val.deltaSnapshotMemoryLimit.map (·.value)).getD defaultSnapshotMemoryLimit)] ++
    optFlag "garbage-collection-period" Go.durationString val.garbageCollectionPeriod ++
    (match val.snapshotCompression with
      | some c =>
          (if c.enabled.getD false then ["--compress-snapshots=true"] else []) ++
            optFlag "compression-policy" id c.policy
      | none => []) ++
    ["--auto-compaction-mode=" ++ val.autoCompactionMode.getD defaultAutoCompactionMode,
     "--auto-compaction-retention=" ++
       val.autoCompactionRetention.getD defaultAutoCompactionRetention,
     "--etcd-snapshot-timeout=" ++
       (val.etcdSnapshotTimeout.map Go.durationString).getD defaultEtcdSnapshotTimeout,
     "--etcd-defrag-timeout=" ++
       (val.etcdDefragTimeout.map Go.durationString).getD defaultEtcdDefragTimeout,
     "--snapstore-temp-directory=/var/etcd/data/temp",
     "--enable-member-lease-renewal=true",
     "--k8s-heartbeat-duration=" ++
       (val.heartbeatDuration.map Go.durationString).getD defaultHeartbeatDuration] ++
    (match val.leaderElection with
      | some le =>
          optFlag "etcd-connection-timeout-leader-election" Go.durationString
              le.etcdConnectionTimeout ++
            optFlag "reelection-period" Go.durationString le.reelectionPeriod
      | none => [])

/-- `GenerateValues`, with the ports the reconciler takes from the service values. -/
def generateValues (etcd : Etcd) (clientPort serverPort backupPort : Option Int32) : Values :=
  let volumeClaimTemplateName := match etcd.spec.volumeClaimTemplate with
    | some t => if t.length ≠ 0 then t else etcd.name
    | none => etcd.name
  let values : Values :=
    { name := etcd.name
      namespace_ := etcd.namespace_
      replicas := etcd.spec.replicas
      serviceAccountName := etcd.getServiceAccountName
      etcdCommand := []
      etcdBackupCommand := []
      volumeClaimTemplateName := volumeClaimTemplateName
      fullSnapLeaseName := etcd.getFullSnapshotLeaseName
      deltaSnapLeaseName := etcd.getDeltaSnapshotLeaseName
      defragmentationSchedule := etcd.spec.etcd.defragmentationSchedule
      fullSnapshotSchedule := etcd.spec.backup.fullSnapshotSchedule
      etcdSnapshotTimeout := etcd.spec.backup.etcdSnapshotTimeout
      etcdDefragTimeout := etcd.spec.etcd.etcdDefragTimeout
      deltaSnapshotMemoryLimit := etcd.spec.backup.deltaSnapshotMemoryLimit
      garbageCollectionPolicy := etcd.spec.backup.garbageCollectionPolicy
      garbageCollectionPeriod := etcd.spec.backup.garbageCollectionPeriod
      leaderElection := etcd.spec.backup.leaderElection
      backupStore := etcd.spec.backup.store
      enableProfiling := etcd.spec.backup.enableProfiling
      deltaSnapshotPeriod := etcd.spec.backup.deltaSnapshotPeriod
      snapshotCompression := etcd.spec.backup.snapshotCompression
      heartbeatDuration := etcd.spec.etcd.heartbeatDuration
      quota := etcd.spec.etcd.quota
      clientUrlTLS := etcd.spec.etcd.clientUrlTLS
      peerUrlTLS := etcd.spec.etcd.peerUrlTLS
      backupTLS := etcd.spec.backup.tls
      clientServiceName := etcd.getClientServiceName
      clientPort := clientPort
      peerServiceName := etcd.getPeerServiceName
      serverPort := serverPort
      backupPort := backupPort
      wrapperPort := some defaultWrapperPort
      autoCompactionMode := etcd.spec.common.autoCompactionMode
      autoCompactionRetention := etcd.spec.common.autoCompactionRetention
      configMapName := etcd.getConfigmapName }
  let values := { values with etcdCommand := getEtcdCommand values }
  { values with etcdBackupCommand := getBackupRestoreCommand values }

/-- The sidecar reaches etcd with the scheme of `ClientUrlTLS` and the client port. -/
theorem clientFlags_endpoints (val : Values) :
    let scheme := if val.clientUrlTLS.isSome then "https" else "http"
    let port := fmtInt32 (val.clientPort.getD defaultClientPort)
    "--endpoints=" ++ scheme ++ "://" ++ val.name ++ "-local:" ++ port ∈ clientFlags val ∧
      "--service-endpoints=" ++ scheme ++ "://" ++ val.clientServiceName ++ ":" ++ port ∈
        clientFlags val := by
  unfold clientFlags
  cases val.clientUrlTLS <;> simp

/-- The client flags are flags of the sidecar. -/
theorem clientFlags_subset (val : Values) : clientFlags val ⊆ getBackupRestoreCommand val := by
  intro f hf
  unfold getBackupRestoreCommand
  split
  simp only [List.mem_append, hf, true_or, or_true]

end Statefulset
end EtcdDruid
